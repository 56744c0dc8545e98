import DBus.Files.Tree
import DBus.Proofs.Steps
import DBus.Proofs.Wire.Bytes

/-!
# Files that are written and read

What is written to a path is read from it again, until something else is written to the same path.
Where a path leads depends on the directories alone, and a file is never written in the place of a
directory; so paths lead where they did before, and two names in one directory to two places.
-/

namespace DBus

namespace Text

variable {separator : Char}

theorem splitChars_append (as bs : List Char) : splitChars separator (as ++ separator :: bs)
    = splitChars separator as ++ splitChars separator bs := by
  induction as with
  | nil => simp [splitChars]
  | cons c as ih =>
    rw [List.cons_append, splitChars, splitChars, ih]
    split
    · rfl
    · cases hfirst : splitChars separator as with
      | nil => exact absurd hfirst (splitChars_ne_nil separator as)
      | cons part parts => rfl

theorem splitChars_of_not_mem {cs : List Char} (h : separator ∉ cs) :
    splitChars separator cs = [cs] := by
  induction cs with
  | nil => rfl
  | cons c cs ih =>
    rw [List.mem_cons, not_or] at h
    rw [splitChars, if_neg (Ne.symm h.1), ih h.2, consFirst]

end Text

namespace Files

/-! ### Entries -/

namespace Tree

variable {t : Tree} {place other : Place} {e : Entry}

theorem entryAt_put_self (h : place.isAbove = false) : (t.put place e).entryAt place = some e := by
  rw [entryAt, if_neg (by simp [h]), put, List.lookup_cons_self]

theorem lookup_filter (h : other ≠ place) (entries : List (Place × Entry)) :
    (entries.filter fun old => old.1 ≠ place).lookup other = entries.lookup other := by
  induction entries with
  | nil => rfl
  | cons old entries ih =>
    obtain ⟨there, e⟩ := old
    by_cases hold : there = place
    · have hne : (other == there) = false := by simpa [hold] using h
      rw [List.filter_cons_of_neg (by simpa using hold), ih, List.lookup_cons, hne]
    · rw [List.filter_cons_of_pos (by simpa using hold), List.lookup_cons, List.lookup_cons, ih]

theorem entryAt_put_of_ne (h : other ≠ place) :
    (t.put place e).entryAt other = t.entryAt other := by
  have hne : (other == place) = false := by simpa using h
  simp only [entryAt, put, List.lookup_cons, hne, lookup_filter h]

/-- Whether a tree has every directory of another one. -/
def KeepsDirectories (t t' : Tree) : Prop :=
  ∀ place, t.entryAt place = some .directory → t'.entryAt place = some .directory

theorem keepsDirectories_put (h : t.entryAt place ≠ some .directory) :
    t.KeepsDirectories (t.put place e) := by
  intro other hother
  have hne : other ≠ place := by
    rintro rfl
    exact h hother
  rw [entryAt_put_of_ne hne, hother]

theorem isAbove_eq_false (h : t.entryAt place ≠ some .directory) : place.isAbove = false :=
  Bool.eq_false_iff.2 fun habove => h (if_pos habove)

end Tree

open Files.Tree (KeepsDirectories)

/-! ### Paths -/

/-- An action that changes nothing, and that has the same result in every tree with the same
directories or more, if it has one. -/
def Stable {α : Type} (x : OnFiles α) : Prop :=
  ∀ a t t', x t = .ok a t' → t' = t ∧ ∀ u, KeepsDirectories t u → x u = .ok a u

namespace Stable

variable {α β : Type}

theorem pure (a : α) : Stable (Pure.pure a) := by
  intro b t t' h
  cases h
  exact ⟨rfl, fun _ _ => rfl⟩

theorem throw (e : FileError) : Stable (MonadExcept.throw e : OnFiles α) := by
  intro b t t' h
  cases h

theorem bind {x : OnFiles α} {f : α → OnFiles β} (hx : Stable x) (hf : ∀ a, Stable (f a)) :
    Stable (x >>= f) := by
  intro b t t' h
  obtain ⟨a, t₁, ha, hb⟩ := bind_apply_eq_ok_iff.1 h
  obtain ⟨rfl, hau⟩ := hx a t t₁ ha
  obtain ⟨rfl, hbu⟩ := hf a b _ t' hb
  exact ⟨rfl, fun u hu => bind_apply_eq_ok_iff.2 ⟨a, u, hau u hu, hbu u hu⟩⟩

theorem eq {x : OnFiles α} (hx : Stable x) {a : α} {t t' : Tree} (h : x t = .ok a t') : t' = t :=
  (hx a t t' h).1

theorem of_keeps {x : OnFiles α} (hx : Stable x) {a : α} {t u : Tree} (h : x t = .ok a t)
    (hu : KeepsDirectories t u) : x u = .ok a u :=
  (hx a t t h).2 u hu

theorem ite {p : Prop} [Decidable p] {x y : OnFiles α} (hx : Stable x) (hy : Stable y) :
    Stable (if p then x else y) := by
  split
  · exact hx
  · exact hy

end Stable

theorem stable_checkDirectory (place : Place) : Stable (checkDirectory place) := by
  intro a t t' h
  obtain ⟨_, _, hget, hcheck⟩ := bind_apply_eq_ok_iff.1 h
  cases hget
  cases hplace : t.entryAt place with
  | none =>
    rw [hplace] at hcheck
    cases hcheck
  | some e =>
    rw [hplace] at hcheck
    cases e with
    | file content => cases hcheck
    | directory =>
      cases hcheck
      refine ⟨rfl, fun u hu => bind_apply_eq_ok_iff.2 ⟨u, u, rfl, ?_⟩⟩
      rw [hu place hplace]
      rfl

theorem stable_checkPath (path : String) : Stable (checkPath path) := by
  have hlong : Stable (if maxPathLength ≤ path.utf8ByteSize then throw .nameTooLong
      else pure () : OnFiles Unit) := .ite (.throw _) (.pure _)
  -- what is checked next stands in both branches
  refine .ite (.bind (.throw _) fun _ => ?_) ?_
  all_goals exact .ite (.bind (.throw _) fun _ => hlong) hlong

theorem stable_checkName (name : String) : Stable (checkName name) := by
  unfold checkName
  exact .ite (.throw _) (.pure _)

theorem stable_walk (place : Place) (names : List String) : Stable (walk place names) := by
  induction names generalizing place with
  | nil => exact .pure place
  | cons name names ih =>
    refine .bind (stable_checkDirectory place) fun _ => .ite (ih _) (.ite (ih _) ?_)
    exact .bind (stable_checkName name) fun _ => ih _

theorem stable_resolve (path : String) : Stable (resolve path) :=
  .bind (stable_checkPath path) fun _ => stable_walk _ _

/-- The name of a file, and not a way through directories. -/
structure IsFileName (name : String) : Prop where
  ne_empty : name ≠ ""
  ne_dot : name ≠ "."
  ne_dots : name ≠ ".."
  noSlash : '/' ∉ name.toList

instance (name : String) : Decidable (IsFileName name) :=
  decidable_of_iff (name ≠ "" ∧ name ≠ "." ∧ name ≠ ".." ∧ '/' ∉ name.toList)
    ⟨fun h => ⟨h.1, h.2.1, h.2.2.1, h.2.2.2⟩, fun h => ⟨h.1, h.2, h.3, h.4⟩⟩

theorem namesOf_slash (directory : String) {name : String} (h : '/' ∉ name.toList) :
    namesOf (directory ++ "/" ++ name) = namesOf directory ++ [name] := by
  have hchars : (directory ++ "/" ++ name).toList = directory.toList ++ '/' :: name.toList := by
    simp
  rw [namesOf, Text.split, hchars, Text.splitChars_append, Text.splitChars_of_not_mem h,
    List.map_append, List.map_singleton, String.ofList_toList]
  rfl

theorem startOf_append {directory : String} (h : directory ≠ "") (rest : String) :
    startOf (directory ++ rest) = startOf directory := by
  unfold startOf
  rw [String.toList_append]
  cases hcs : directory.toList with
  | nil => exact absurd (String.toList_eq_nil_iff.1 hcs) h
  | cons c cs => rfl

/-- The paths of the files in a directory differ in their last names. -/
theorem exists_names_joinPath (directory : String) :
    ∃ start names, ∀ {name}, IsFileName name →
      startOf (joinPath directory name) = start ∧
        namesOf (joinPath directory name) = names ++ [name] := by
  by_cases hempty : directory = ""
  · refine ⟨[], [], fun {name} h => ?_⟩
    have hjoin : joinPath directory name = name := by
      subst hempty
      simp [joinPath]
    rw [hjoin]
    constructor
    · refine if_neg fun hhead => h.noSlash ?_
      exact List.mem_of_head? hhead
    · rw [namesOf, Text.split, Text.splitChars_of_not_mem h.noSlash, List.map_singleton,
        String.ofList_toList]
      rfl
  · by_cases hslash : directory.toList.getLast? = some '/'
    · obtain ⟨cs, hcs⟩ := List.getLast?_eq_some_iff.1 hslash
      have hdirectory : directory = String.ofList cs ++ "/" := by
        rw [← String.toList_inj, hcs]
        simp
      refine ⟨startOf directory, namesOf (String.ofList cs), fun {name} h => ?_⟩
      have hjoin : joinPath directory name = directory ++ name := by
        simp [joinPath, hslash]
      rw [hjoin, startOf_append hempty]
      exact ⟨rfl, hdirectory ▸ namesOf_slash _ h.noSlash⟩
    · refine ⟨startOf directory, namesOf directory, fun {name} h => ?_⟩
      have hjoin : joinPath directory name = directory ++ "/" ++ name := by
        simp [joinPath, hempty, hslash]
      rw [hjoin, String.append_assoc, startOf_append hempty, ← String.append_assoc]
      exact ⟨rfl, namesOf_slash directory h.noSlash⟩

/-- A way through directories to a name ends at the name. -/
theorem walk_concat {name : String} (h : IsFileName name) {names : List String}
    {start place : Place} {t t' : Tree} (hwalk : walk start (names ++ [name]) t = .ok place t') :
    ∃ directory, walk start names t = .ok directory t ∧ place = directory ++ [name] := by
  induction names generalizing start with
  | nil =>
    rw [List.nil_append, walk, if_neg (by simp [h.ne_empty, h.ne_dot]), if_neg h.ne_dots] at hwalk
    obtain ⟨_, t₁, -, hwalk⟩ := bind_apply_eq_ok_iff.1 hwalk
    obtain ⟨_, t₂, -, hwalk⟩ := bind_apply_eq_ok_iff.1 hwalk
    cases hwalk
    exact ⟨start, rfl, rfl⟩
  | cons first names ih =>
    rw [List.cons_append, walk] at hwalk
    obtain ⟨_, t₁, hcheck, hrest⟩ := bind_apply_eq_ok_iff.1 hwalk
    obtain rfl := (stable_checkDirectory start).eq hcheck
    rw [walk, bind_apply_of_ok hcheck]
    split at hrest
    · next hstay =>
      rw [if_pos hstay]
      exact ih hrest
    · next hstay =>
      rw [if_neg hstay]
      split at hrest
      · next hup =>
        rw [if_pos hup]
        exact ih hrest
      · next hup =>
        obtain ⟨_, t₂, hname, hlast⟩ := bind_apply_eq_ok_iff.1 hrest
        obtain rfl := (stable_checkName first).eq hname
        rw [if_neg hup, bind_apply_of_ok hname]
        exact ih hlast

/-- Two names in one directory lead to two places. -/
theorem place_ne_of_resolve {directory name other : String} {t : Tree} {place place' : Place}
    (hname : IsFileName name) (hother : IsFileName other) (hne : name ≠ other)
    (h : resolve (joinPath directory name) t = .ok place t)
    (h' : resolve (joinPath directory other) t = .ok place' t) : place ≠ place' := by
  obtain ⟨start, names, hpaths⟩ := exists_names_joinPath directory
  have hlast : ∀ {name place}, IsFileName name →
      resolve (joinPath directory name) t = .ok place t →
      ∃ holding, walk start names t = .ok holding t ∧ place = holding ++ [name] := by
    intro name place hname h
    obtain ⟨_, t₁, hcheck, hwalk⟩ := bind_apply_eq_ok_iff.1 h
    obtain rfl := (stable_checkPath _).eq hcheck
    rw [(hpaths hname).1, (hpaths hname).2] at hwalk
    exact walk_concat hname hwalk
  obtain ⟨holding, hwalk, rfl⟩ := hlast hname h
  obtain ⟨holding', hwalk', rfl⟩ := hlast hother h'
  intro heq
  rw [hwalk] at hwalk'
  cases hwalk'
  exact hne (List.singleton_inj.1 (List.append_cancel_left heq))

/-! ### Reading and writing -/

section Writing

variable {path : String} {place : Place} {t t' : Tree}

theorem write_eq_ok {content : ByteArray} (h : write path content t = .ok () t') :
    ∃ place, resolve path t = .ok place t ∧ t.entryAt place ≠ some .directory ∧
      t' = t.put place (.file content) := by
  obtain ⟨place, t₁, hresolve, hrest⟩ := bind_apply_eq_ok_iff.1 h
  obtain rfl := (stable_resolve path).eq hresolve
  obtain ⟨_, _, hget, hput⟩ := bind_apply_eq_ok_iff.1 hrest
  cases hget
  refine ⟨place, hresolve, ?_⟩
  cases hplace : t₁.entryAt place with
  | none =>
    rw [hplace] at hput
    cases hput
    exact ⟨nofun, rfl⟩
  | some e =>
    rw [hplace] at hput
    cases e with
    | directory => cases hput
    | file old =>
      cases hput
      exact ⟨nofun, rfl⟩

theorem readText_eq_ok_iff {text : String} : readText path t = .ok text t' ↔
    t' = t ∧ ∃ place content, resolve path t = .ok place t ∧
      t.entryAt place = some (.file content) ∧ String.fromUTF8? content = some text := by
  constructor
  · intro h
    obtain ⟨_, _, hget, hrest⟩ := bind_apply_eq_ok_iff.1 h
    cases hget
    obtain ⟨place, t₁, hresolve, hread⟩ := bind_apply_eq_ok_iff.1 hrest
    obtain rfl := (stable_resolve path).eq hresolve
    cases hplace : t₁.entryAt place with
    | none =>
      rw [hplace] at hread
      cases hread
    | some e =>
      rw [hplace] at hread
      cases e with
      | directory => cases hread
      | file content =>
        cases htext : String.fromUTF8? content with
        | none =>
          simp only [htext] at hread
          cases hread
        | some text' =>
          simp only [htext] at hread
          cases hread
          exact ⟨rfl, place, content, hresolve, hplace, htext⟩
  · rintro ⟨rfl, place, content, hresolve, hplace, htext⟩
    refine bind_apply_eq_ok_iff.2 ⟨t', t', rfl, bind_apply_eq_ok_iff.2 ⟨place, t', hresolve, ?_⟩⟩
    rw [hplace]
    simp only [htext]
    rfl

/-- What is written is read again. -/
theorem readText_of_write {text : String} (h : write path text.toUTF8 t = .ok () t') :
    readText path t' = .ok text t' := by
  obtain ⟨place, hresolve, hplace, rfl⟩ := write_eq_ok h
  have hkeeps := Tree.keepsDirectories_put (e := .file text.toUTF8) hplace
  have hkept := (stable_resolve path).of_keeps hresolve hkeeps
  exact readText_eq_ok_iff.2 ⟨rfl, place, text.toUTF8, hkept,
    Tree.entryAt_put_self (Tree.isAbove_eq_false hplace), Bytes.fromUTF8?_of_toList rfl⟩

/-- What is written leaves the other files of a directory as they are. -/
theorem readText_of_write_other {directory name other text : String} {content : ByteArray}
    (hname : IsFileName name) (hother : IsFileName other) (hne : other ≠ name)
    (hread : readText (joinPath directory other) t = .ok text t)
    (h : write (joinPath directory name) content t = .ok () t') :
    readText (joinPath directory other) t' = .ok text t' := by
  obtain ⟨place, hresolve, hplace, rfl⟩ := write_eq_ok h
  obtain ⟨-, place', content', hresolve', hplace', htext⟩ := readText_eq_ok_iff.1 hread
  have hapart := place_ne_of_resolve hother hname hne hresolve' hresolve
  have hkeeps := Tree.keepsDirectories_put (e := .file content) hplace
  have hkept := (stable_resolve _).of_keeps hresolve' hkeeps
  refine readText_eq_ok_iff.2 ⟨rfl, place', content', hkept, ?_, htext⟩
  rw [Tree.entryAt_put_of_ne hapart, hplace']

end Writing

end Files

end DBus

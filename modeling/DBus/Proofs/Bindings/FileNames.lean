import DBus.Bindings.Project
import DBus.Proofs.Bindings.Generated
import DBus.Proofs.Bindings.Resolve
import DBus.Proofs.Bindings.SnakeCase
import DBus.Proofs.Bindings.Words
import DBus.Proofs.Files.Writing

/-!
# Files of units

Units are written to files that are called after them, in snake case. That makes the names of two
units alike just when the names of the interfaces are alike in snake case, where capitals do not
count; a later unit then takes the place of an earlier one.
-/

namespace DBus.Bindings

/-! ### How a name ends in snake case -/

/-- The character that a name ends with in snake case. -/
def lastLetter (name : String) : Option Char :=
  name.toList.getLast?.map fun c => (wordChar c).toLower

theorem getLast?_snakeCase {name : String} (h : name ≠ "") :
    (snakeCase name).toList.getLast? = lastLetter name := by
  rw [toList_snakeCase h, getLast?_notDigitFirst, getLast?_snakeFrom, List.getLast?_map,
    Option.map_map]
  rfl

theorem lastLetter_append (name : String) {ending : String} (h : ending ≠ "") :
    lastLetter (name ++ ending) = lastLetter ending := by
  rw [lastLetter, lastLetter, String.toList_append, List.getLast?_append]
  cases hlast : ending.toList.getLast? with
  | none => simp [h] at hlast
  | some c => rfl

/-! ### Snake case of the names of types -/

section TypeName

variable {i j : String} {ending : String}

theorem getLast?_typeName (interface : String) :
    ∀ c ∈ (typeName interface).toList.getLast?, c.isAlphanum := by
  rw [typeName, String.toList_ofList, getLast?_notDigitFirst]
  exact fun c hc => isAlphanum_capitalized true _ c (List.mem_of_getLast? hc)

theorem isIdentChar_typeName (interface : String) :
    ∀ c ∈ (typeName interface).toList, isIdentChar c := by
  rw [typeName, String.toList_ofList]
  cases hcs : capitalized true interface.toList with
  | nil => exact List.forall_mem_nil _
  | cons c cs =>
    have hword := IsWord.of_notDigitFirst (List.cons_ne_nil c cs)
      (hcs ▸ isIdentChar_capitalized true interface.toList)
    simpa using hword.chars

theorem map_wordChar_typeName (interface : String) :
    (typeName interface).toList.map wordChar = (typeName interface).toList := by
  refine (List.map_congr_left fun c hc => wordChar_eq_self ?_).trans (List.map_id _)
  simpa [isIdentChar] using isIdentChar_typeName interface c hc

/-- The endings of the names of units that are generated for an interface. -/
def unitEndings : List String := ["Proxy", "Handler"]

/-- An ending is a word of its own. -/
theorem snakeCase_typeName_append (hne : typeName i ≠ "") (h : ending ∈ unitEndings) :
    snakeCase (typeName i ++ ending) = snakeCase (typeName i) ++ "_" ++ snakeCase ending := by
  have hcs : (typeName i).toList ≠ [] := by simpa using hne
  obtain ⟨c, rest, hending, hc, hrest, hsnake⟩ : ∃ c rest, ending.toList.map wordChar = c :: rest ∧
      c.isUpper ∧ rest.head?.any Char.isLower ∧
      (snakeCase ending).toList = snakeFrom none (c :: rest) := by
    rcases List.mem_pair.1 h with rfl | rfl
    · exact ⟨_, _, rfl, by decide, by decide, by decide⟩
    · exact ⟨_, _, rfl, by decide, by decide, by decide⟩
  have hwhole : typeName i ++ ending ≠ "" := by simp [hne]
  rw [← String.toList_inj, toList_snakeCase hwhole, String.toList_append, List.map_append,
    map_wordChar_typeName, hending, snakeFrom_append hcs (getLast?_typeName i) hc hrest,
    notDigitFirst_append (snakeFrom_ne_nil hcs none), String.toList_append, String.toList_append,
    toList_snakeCase hne, map_wordChar_typeName, hsnake]
  simp

/-- The name of an interface that has no letters or digits is not like that of another one. -/
theorem snakeCase_typeName_ne (hne : typeName i ≠ "") : snakeCase (typeName i) ≠ snakeCase "" := by
  intro heq
  have hlast := getLast?_snakeCase hne
  rw [heq] at hlast
  obtain ⟨c, hc, hlower⟩ := Option.map_eq_some_iff.1 hlast.symm
  have halnum := getLast?_typeName i c hc
  rw [wordChar, if_pos halnum] at hlower
  exact toLower_ne_underscore halnum hlower

/-- Units with one ending have names alike just when their interfaces do. -/
theorem snakeCase_typeName_append_inj (h : ending ∈ unitEndings) :
    snakeCase (typeName i ++ ending) = snakeCase (typeName j ++ ending) ↔
      snakeCase (typeName i) = snakeCase (typeName j) := by
  have hone : ∀ {i j : String}, typeName i = "" → typeName j ≠ "" →
      snakeCase (typeName i ++ ending) ≠ snakeCase (typeName j ++ ending) := by
    intro i j hi hj heq
    rw [hi, String.empty_append, snakeCase_typeName_append hj h] at heq
    have hlength := congrArg String.length heq
    simp only [String.length_append] at hlength
    have : "_".length = 1 := rfl
    omega
  by_cases hi : typeName i = ""
  · by_cases hj : typeName j = ""
    · simp [hi, hj]
    · refine iff_of_false (hone hi hj) ?_
      rw [hi]
      exact (snakeCase_typeName_ne hj).symm
  · by_cases hj : typeName j = ""
    · refine iff_of_false (hone hj hi).symm ?_
      rw [hj]
      exact snakeCase_typeName_ne hi
    · rw [snakeCase_typeName_append hi h, snakeCase_typeName_append hj h]
      simp [String.append_left_inj]

end TypeName

/-! ### The files of all units -/

/-- The file of a unit with a name. -/
def fileOf (name : String) : String :=
  snakeCase name ++ ".rs"

/-- The files of the units of an interface. -/
def unitFiles (i : ResolvedInterface) (mode : Mode) : List String :=
  (if mode.meets .proxy then [fileOf (i.typeName ++ "Proxy")] else [])
    ++ if mode.meets .handler then [fileOf (i.typeName ++ "Handler")] else []

theorem fileName_unitsOf (rt : String) (i : ResolvedInterface) (mode : Mode) :
    (Generate.unitsOf rt i mode).map (·.fileName) = unitFiles i mode := by
  rw [Generate.unitsOf_eq_append, unitFiles]
  cases mode.meets .proxy <;> cases mode.meets .handler <;> rfl

/-- Whether two modes have the proxy or the handler in common. -/
def Mode.shareUnit (m n : Mode) : Prop :=
  m.meets .proxy = true ∧ n.meets .proxy = true ∨ m.meets .handler = true ∧ n.meets .handler = true

instance (m n : Mode) : Decidable (m.shareUnit n) :=
  inferInstanceAs (Decidable (_ ∨ _))

/-- A file tells what the name of its unit ends with. -/
theorem fileOf_ne {a b d e : String} (hd : d ≠ "") (he : e ≠ "")
    (h : lastLetter d ≠ lastLetter e) : fileOf (a ++ d) ≠ fileOf (b ++ e) := by
  intro heq
  have hsnake : snakeCase (a ++ d) = snakeCase (b ++ e) := (String.append_left_inj _).1 heq
  have hlast : (snakeCase (a ++ d)).toList.getLast? = (snakeCase (b ++ e)).toList.getLast? := by
    rw [hsnake]
  rw [getLast?_snakeCase (by simp [hd]), getLast?_snakeCase (by simp [he]), lastLetter_append a hd,
    lastLetter_append b he] at hlast
  exact h hlast

theorem mem_unitFiles {i : ResolvedInterface} {mode : Mode} {file : String} :
    file ∈ unitFiles i mode ↔
      mode.meets .proxy = true ∧ file = fileOf (i.typeName ++ "Proxy") ∨
      mode.meets .handler = true ∧ file = fileOf (i.typeName ++ "Handler") := by
  unfold unitFiles
  cases mode.meets .proxy <;> cases mode.meets .handler <;> simp

section Resolved

variable {i j : Interface} {a b : ResolvedInterface} {m n : Mode}

theorem unitFiles_nodup (a : ResolvedInterface) (m : Mode) : (unitFiles a m).Nodup := by
  have hne : fileOf (a.typeName ++ "Proxy") ≠ fileOf (a.typeName ++ "Handler") :=
    fileOf_ne (by decide) (by decide) (by decide)
  unfold unitFiles
  cases m.meets .proxy <;> cases m.meets .handler <;> simp [hne]

/-- Two interfaces have a file in common if they have a kind of unit in common and are called alike
in snake case. -/
theorem disjoint_unitFiles_iff (ha : resolve i = .ok a) (hb : resolve j = .ok b) :
    List.Disjoint (unitFiles a m) (unitFiles b n) ↔
      (m.shareUnit n → a.snakeName ≠ b.snakeName) := by
  have hfile : ∀ {e}, e ∈ unitEndings →
      (fileOf (a.typeName ++ e) = fileOf (b.typeName ++ e) ↔ a.snakeName = b.snakeName) := by
    intro e he
    rw [fileOf, fileOf, String.append_left_inj, (resolve_resolves ha).typeName, (resolve_resolves hb).typeName,
      snakeCase_typeName_append_inj he, (resolve_resolves ha).snakeName,
      (resolve_resolves hb).snakeName]
  constructor
  · rintro h (⟨hm, hn⟩ | ⟨hm, hn⟩) heq
    · exact h (mem_unitFiles.2 (.inl ⟨hm, rfl⟩))
        (mem_unitFiles.2 (.inl ⟨hn, (hfile (by decide)).2 heq⟩))
    · exact h (mem_unitFiles.2 (.inr ⟨hm, rfl⟩))
        (mem_unitFiles.2 (.inr ⟨hn, (hfile (by decide)).2 heq⟩))
  · intro h file hfa hfb
    rcases mem_unitFiles.1 hfa with ⟨hm, rfl⟩ | ⟨hm, rfl⟩
    · rcases mem_unitFiles.1 hfb with ⟨hn, heq⟩ | ⟨-, heq⟩
      · exact h (.inl ⟨hm, hn⟩) ((hfile (by decide)).1 heq)
      · exact fileOf_ne (by decide) (by decide) (by decide) heq
    · rcases mem_unitFiles.1 hfb with ⟨-, heq⟩ | ⟨hn, heq⟩
      · exact fileOf_ne (by decide) (by decide) (by decide) heq
      · exact h (.inr ⟨hm, hn⟩) ((hfile (by decide)).1 heq)

end Resolved

/-- The files that do not depend on what is generated are those of no interface. -/
theorem fixedFile_not_mem {name : String} (h : name ∈ ["readers", "writers", "mod"])
    (i : ResolvedInterface) (mode : Mode) : fileOf name ∉ unitFiles i mode := by
  have hapart : ∀ name ∈ ["readers", "writers", "mod"], name ≠ "" ∧
      ∀ e ∈ unitEndings, lastLetter name ≠ lastLetter e := by decide
  obtain ⟨hne, hlast⟩ := hapart name h
  have hname : name = "" ++ name := String.empty_append.symm
  rw [hname]
  intro hmem
  rcases mem_unitFiles.1 hmem with ⟨-, heq⟩ | ⟨-, heq⟩
  · exact fileOf_ne hne (by decide) (hlast _ (by decide)) heq
  · exact fileOf_ne hne (by decide) (hlast _ (by decide)) heq

section Generated

variable (documents : List (Document × Mode)) (crate : String)

theorem fileNames_generate : (generate documents crate).units.map (·.fileName)
    = (Generate.resolved (merge documents)).flatMap (fun r => unitFiles r.1 r.2)
      ++ [fileOf "readers", fileOf "writers"] := by
  rw [units_generate, List.map_append, List.map_flatMap]
  simp only [fileName_unitsOf]
  rfl

/-- Units have files of their own just when no two interfaces that have a kind of unit in common are
called alike in snake case. -/
theorem fileNames_nodup_iff : ((generate documents crate).units.map (·.fileName)).Nodup ↔
    (Generate.resolved (merge documents)).Pairwise fun a b =>
      a.2.shareUnit b.2 → a.1.snakeName ≠ b.1.snakeName := by
  have hroutines : List.Disjoint
      ((Generate.resolved (merge documents)).flatMap fun r => unitFiles r.1 r.2)
      [fileOf "readers", fileOf "writers"] := by
    intro file hfile hroutine
    obtain ⟨r, -, hr⟩ := List.mem_flatMap.1 hfile
    rcases List.mem_pair.1 hroutine with rfl | rfl
    · exact fixedFile_not_mem (by decide) r.1 r.2 hr
    · exact fixedFile_not_mem (by decide) r.1 r.2 hr
  have hpair : ∀ {a b : ResolvedInterface × Mode}, a ∈ Generate.resolved (merge documents) →
      b ∈ Generate.resolved (merge documents) →
      (List.Disjoint (unitFiles a.1 a.2) (unitFiles b.1 b.2) ↔
        (a.2.shareUnit b.2 → a.1.snakeName ≠ b.1.snakeName)) := by
    intro a b ha hb
    obtain ⟨i, hi⟩ := Generate.exists_resolve_of_mem ha
    obtain ⟨j, hj⟩ := Generate.exists_resolve_of_mem hb
    exact disjoint_unitFiles_iff hi hj
  rw [fileNames_generate, List.nodup_append', List.nodup_flatMap]
  constructor
  · rintro ⟨⟨-, hdisjoint⟩, -, -⟩
    exact hdisjoint.imp_of_mem fun ha hb hab => (hpair ha hb).1 hab
  · intro hapart
    refine ⟨⟨fun r _ => unitFiles_nodup r.1 r.2, ?_⟩, by decide, hroutines⟩
    exact hapart.imp_of_mem fun ha hb hab => (hpair ha hb).2 hab

theorem moduleFile_not_mem :
    Project.moduleFile ∉ (generate documents crate).units.map (·.fileName) := by
  have hmodule : Project.moduleFile = fileOf "mod" := by decide
  rw [fileNames_generate, hmodule, List.mem_append, not_or]
  refine ⟨fun hmem => ?_, by decide⟩
  obtain ⟨r, -, hr⟩ := List.mem_flatMap.1 hmem
  exact fixedFile_not_mem (by decide) r.1 r.2 hr

end Generated

/-! ### What is written -/

theorem CodeUnit.isFileName (u : CodeUnit) : Files.IsFileName u.fileName := by
  have hlast : u.fileName.toList.getLast? = some 's' := by
    rw [fileName, String.toList_append, List.getLast?_append]
    rfl
  have hslash : '/' ∉ u.fileName.toList := by
    rw [fileName, String.toList_append, List.mem_append, not_or]
    refine ⟨fun hmem => ?_, by decide⟩
    exact absurd ((snakeCase_isWord u.name).chars '/' hmem) (by decide)
  refine ⟨?_, ?_, ?_, hslash⟩
  all_goals
    intro heq
    rw [heq] at hlast
    exact absurd hlast (by decide)

namespace Project

open Files (joinPath readText IsFileName)

variable {directory : String} {t t' : Files.Tree}

theorem writing_eq_ok_iff {path : String} {action : Files.OnFiles Unit} :
    writing path action t = .ok () t' ↔ action t = .ok () t' := by
  rw [writing, EStateM.adaptExcept]
  cases action t with
  | ok a t₁ =>
    show EStateM.Result.ok a t₁ = .ok () t' ↔ _
    rw [EStateM.Result.ok.injEq, EStateM.Result.ok.injEq]
  | error e t₁ => exact ⟨nofun, nofun⟩

/-- What is in a file stays there while units are written to others. -/
theorem readText_of_writeUnits_other {us : List CodeUnit} {name text : String}
    (hname : IsFileName name) (hother : ∀ u ∈ us, name ≠ u.fileName)
    (hread : readText (joinPath directory name) t = .ok text t)
    (h : writeUnits directory us t = .ok () t') :
    readText (joinPath directory name) t' = .ok text t' := by
  induction us generalizing t with
  | nil =>
    cases h
    exact hread
  | cons u us ih =>
    obtain ⟨⟨⟩, t₁, hwrite, hrest⟩ := bind_apply_eq_ok_iff.1 h
    obtain ⟨hu, hus⟩ := List.forall_mem_cons.1 hother
    exact ih hus (Files.readText_of_write_other u.isFileName hname hu hread
      (writing_eq_ok_iff.1 hwrite)) hrest

/-- In the file of a unit there is its text, if units with the same file have the same text. -/
theorem readText_of_writeUnits {us : List CodeUnit} (h : writeUnits directory us t = .ok () t')
    {u : CodeUnit} (hu : u ∈ us) (hsame : ∀ v ∈ us, v.fileName = u.fileName → v.text = u.text) :
    readText (joinPath directory u.fileName) t' = .ok u.text t' := by
  induction us generalizing t u with
  | nil => cases hu
  | cons w us ih =>
    obtain ⟨⟨⟩, t₁, hwrite, hrest⟩ := bind_apply_eq_ok_iff.1 h
    by_cases hlater : ∃ v ∈ us, v.fileName = u.fileName
    · -- the last unit with the file counts
      obtain ⟨v, hv, hfile⟩ := hlater
      have htext := hsame v (List.mem_cons_of_mem _ hv) hfile
      rw [← hfile, ← htext]
      exact ih hrest hv fun v' hv' hfile' =>
        (hsame v' (List.mem_cons_of_mem _ hv') (hfile'.trans hfile)).trans htext.symm
    · have hlater : ∀ v ∈ us, u.fileName ≠ v.fileName :=
        fun v hv hfile => hlater ⟨v, hv, hfile.symm⟩
      obtain rfl : u = w :=
        (List.mem_cons.1 hu).resolve_right fun hmem => hlater u hmem rfl
      exact readText_of_writeUnits_other u.isFileName hlater
        (Files.readText_of_write (writing_eq_ok_iff.1 hwrite)) hrest

theorem writeTo_eq_ok {p : Project} {g : Generated} (h : p.writeTo directory t = .ok g t') :
    g = p.generate t ∧ ∃ t₁ t₂, writeUnits directory g.units t₁ = .ok () t₂ ∧
      writeFile directory moduleFile g.text t₂ = .ok () t' := by
  obtain ⟨_, _, hget, hrest⟩ := bind_apply_eq_ok_iff.1 h
  cases hget
  obtain ⟨⟨⟩, t₁, -, hrest⟩ := bind_apply_eq_ok_iff.1 hrest
  obtain ⟨⟨⟩, t₂, hunits, hrest⟩ := bind_apply_eq_ok_iff.1 hrest
  obtain ⟨⟨⟩, t₃, hmodule, hrest⟩ := bind_apply_eq_ok_iff.1 hrest
  cases hrest
  exact ⟨rfl, t₁, t₂, hunits, hmodule⟩

end Project

/-- No unit is written to the file that holds them all, and each is written to one of its own just
when no two interfaces that have a kind of unit in common are called alike in snake case. What a
project with these documents has written is there: all units in the one file, and the text of every
unit in its file just when units with the same file have the same text. -/
theorem written_units_kept_iff (documents : List (Document × Mode)) (crate : String) :
    let units := (generate documents crate).units
    Project.moduleFile ∉ units.map (·.fileName) ∧
      ((units.map (·.fileName)).Nodup ↔
        (Generate.resolved (merge documents)).Pairwise fun a b =>
          a.2.shareUnit b.2 → a.1.snakeName ≠ b.1.snakeName) ∧
      ∀ (p : Project) (directory : String) (t t' : Files.Tree) (g : Generated),
        p.documents t = documents → p.crate = crate → p.writeTo directory t = .ok g t' →
          g.units = units ∧
            Files.readText (Files.joinPath directory Project.moduleFile) t' = .ok g.text t' ∧
            ((∀ u ∈ units,
                Files.readText (Files.joinPath directory u.fileName) t' = .ok u.text t') ↔
              ∀ u ∈ units, ∀ v ∈ units, v.fileName = u.fileName → v.text = u.text) ∧
            ((units.map (·.fileName)).Nodup → ∀ u ∈ units,
              Files.readText (Files.joinPath directory u.fileName) t' = .ok u.text t') := by
  intro units
  refine ⟨moduleFile_not_mem documents crate, fileNames_nodup_iff documents crate, ?_⟩
  rintro p directory t t' g rfl rfl h
  obtain ⟨rfl, t₁, t₂, hunits, hmodule⟩ := Project.writeTo_eq_ok h
  have hmodule := Project.writing_eq_ok_iff.1 hmodule
  have hread : (∀ u ∈ units, ∀ v ∈ units, v.fileName = u.fileName → v.text = u.text) →
      ∀ u ∈ units, Files.readText (Files.joinPath directory u.fileName) t' = .ok u.text t' := by
    intro hsame u hu
    have hne : u.fileName ≠ Project.moduleFile := by
      intro heq
      exact moduleFile_not_mem (p.documents t) p.crate (List.mem_map.2 ⟨u, hu, heq⟩)
    exact Files.readText_of_write_other (by decide) u.isFileName hne
      (Project.readText_of_writeUnits hunits hu (hsame u hu)) hmodule
  refine ⟨rfl, Files.readText_of_write hmodule, ⟨fun hown u hu v hv hfile => ?_, hread⟩,
    fun hnodup => hread fun u hu v hv hfile => ?_⟩
  · have htext := hown v hv
    rw [hfile, hown u hu] at htext
    exact (EStateM.Result.ok.inj htext).1.symm
  · rw [List.inj_on_of_nodup_map hnodup hv hu hfile]

/-- A project of one document. -/
def singleProject : Project := ⟨[⟨"a.xml", "Proxy"⟩], defaultCrate⟩

/-- The document, with two interfaces. -/
def singleTree : Files.Tree :=
  ⟨[(["a.xml"],
    .file "<node><interface name='a.Foo'/><interface name='a.FooBar'/></node>".toUTF8)]⟩

theorem written_units_kept_single :
    ∃ g t', singleProject.writeTo "out" singleTree = .ok g t' ∧ g.units.length = 4 ∧
      ∀ u ∈ g.units, Files.readText (Files.joinPath "out" u.fileName) t' = .ok u.text t' := by
  have hok : succeedsWith (fun _ => true) (singleProject.writeTo "out" singleTree) = true := by
    decide +kernel
  obtain ⟨g, t', h, -⟩ := succeedsWith_iff.1 hok
  obtain ⟨-, hnodup, hwritten⟩ :=
    written_units_kept_iff (singleProject.documents singleTree) defaultCrate
  obtain ⟨hunits, -, -, hkept⟩ := hwritten singleProject "out" singleTree t' g rfl rfl h
  refine ⟨g, t', h, ?_, ?_⟩
  · rw [hunits]
    decide +kernel
  · rw [hunits]
    exact hkept (hnodup.2 (by decide +kernel))

/-- The proxies of `FOOBar` and `FooBar` are written to one file. -/
theorem units_of_one_file :
    let documents := [(⟨[⟨"FOOBar", [], [], [], none⟩, ⟨"FooBar", [], [], [], none⟩]⟩, .proxy)]
    (Generate.resolved (merge documents)).Pairwise (fun a b => a.1.typeName ≠ b.1.typeName) ∧
      (generate documents defaultCrate).units.map (·.fileName)
        = ["foo_bar_proxy.rs", "foo_bar_proxy.rs", "readers.rs", "writers.rs"] ∧
      ¬((generate documents defaultCrate).units.map (·.fileName)).Nodup := by
  intro documents
  have hfiles : (generate documents defaultCrate).units.map (·.fileName)
      = ["foo_bar_proxy.rs", "foo_bar_proxy.rs", "readers.rs", "writers.rs"] := by decide +kernel
  refine ⟨by decide +kernel, hfiles, ?_⟩
  rw [hfiles]
  decide

end DBus.Bindings

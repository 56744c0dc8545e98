import DBus.Bindings.Synthesis
import DBus.Proofs.Bindings.Code
import DBus.Proofs.Signature.WellFormed
import Mathlib.Data.List.Nodup
import Mathlib.Data.List.Perm.Basic

/-!
# Collections of routines

Each routine goes by the name of its type, so a collection of routines can be told by a list of types.
It holds each type once, however often it is asked for, and with a type all that is inside it. So it
depends on what is asked for and not on the order, and it is complete: a routine calls those of the
types directly inside its own, which are there too, and a routine that was not asked for is called by
another one. No two functions of a collection have the same name.
-/

namespace DBus.Bindings

namespace Routine

/-- The body of the routine for a type, if those that it calls go by the names of their types. -/
def body (rt : String) (d : Direction) : Ty → Code
  | .basic b => basicBody rt d b
  | .variant => variantBody d
  | .array element => arrayBody d element (routineName d element)
  | .struct fields => structBody d fields (fields.map (routineName d))
  | .entry k v => entryBody d (routineName d k) (routineName d v)

/-- The routine for a type, if it and those that it calls go by the names of their types. -/
def code (rt : String) (d : Direction) (t : Ty) : Code :=
  define rt d t (routineName d t) (body rt d t)

end Routine

/-! ### Collections -/

mutual

/-- A type and everything inside it, the parts before the whole. -/
def parts : Ty → List Ty
  | .basic b => [.basic b]
  | .variant => [.variant]
  | .array element => parts element ++ [.array element]
  | .struct fields => partsOfAll fields ++ [.struct fields]
  | .entry k v => parts k ++ parts v ++ [.entry k v]

/-- Some types and everything inside them. -/
def partsOfAll : List Ty → List Ty
  | [] => []
  | t :: ts => parts t ++ partsOfAll ts

end

/-- Adds the types that are not there yet. -/
def addNew (types : List Ty) : List Ty → List Ty
  | [] => types
  | t :: ts => addNew (if t ∈ types then types else types ++ [t]) ts

/-- The types that there are routines for, in the order in which they were asked for. -/
structure Routines where
  reads : List Ty := []
  writes : List Ty := []
  deriving DecidableEq, Inhabited

namespace Routines

/-- The types in a direction. -/
def types (r : Routines) : Direction → List Ty
  | .read => r.reads
  | .write => r.writes

/-- Asks for the routine for a type, which brings along those that it calls. -/
def request (r : Routines) (d : Direction) (t : Ty) : Routines :=
  match d with
  | .read => { r with reads := addNew r.reads (parts t) }
  | .write => { r with writes := addNew r.writes (parts t) }

/-- Asks for several routines in turn. -/
def requestAll (r : Routines) (calls : List (Direction × Ty)) : Routines :=
  calls.foldl (fun r c => r.request c.1 c.2) r

/-- The code of the routines in a direction. -/
def code (rt : String) (r : Routines) (d : Direction) : Code :=
  (r.types d).flatMap (Routine.code rt d)

end Routines

/-! ### The parts of a type -/

theorem sizeOf_lt_of_mem_children {s t : Ty} (h : s ∈ t.children) : sizeOf s < sizeOf t := by
  cases t with
  | basic b | variant => cases h
  | array element =>
    obtain rfl := List.mem_singleton.1 h
    simp
  | struct fields =>
    have hfields : sizeOf s < sizeOf fields := List.sizeOf_lt_of_mem h
    simp only [Ty.struct.sizeOf_spec]
    omega
  | entry k v =>
    rcases List.mem_pair.1 h with rfl | rfl
    · simp only [Ty.entry.sizeOf_spec]
      omega
    · simp only [Ty.entry.sizeOf_spec]
      omega

theorem mem_partsOfAll {s : Ty} {ts : List Ty} : s ∈ partsOfAll ts ↔ ∃ t ∈ ts, s ∈ parts t := by
  induction ts with
  | nil => simp [partsOfAll]
  | cons t ts ih => simp [partsOfAll, ih]

/-- The parts of a type are those of the types directly inside it, and the type itself. -/
theorem parts_eq (t : Ty) : parts t = partsOfAll t.children ++ [t] := by
  cases t <;> simp [parts, partsOfAll, Ty.children]

theorem mem_parts_iff {s t : Ty} : s ∈ parts t ↔ s = t ∨ ∃ c ∈ t.children, s ∈ parts c := by
  rw [parts_eq, List.mem_append, mem_partsOfAll, List.mem_singleton, or_comm]

theorem self_mem_parts (t : Ty) : t ∈ parts t :=
  mem_parts_iff.2 (.inl rfl)

/-- What is directly inside a part is a part. -/
theorem mem_parts_of_child {s c t : Ty} (hs : s ∈ parts t) (hc : c ∈ s.children) : c ∈ parts t := by
  rcases mem_parts_iff.1 hs with rfl | ⟨u, hu, hs⟩
  · exact mem_parts_iff.2 (.inr ⟨c, hc, self_mem_parts c⟩)
  · have := sizeOf_lt_of_mem_children hu
    exact mem_parts_iff.2 (.inr ⟨u, hu, mem_parts_of_child hs hc⟩)
termination_by sizeOf t

/-- A part that is not the whole is directly inside another part. -/
theorem eq_or_child_of_mem_parts {s t : Ty} (hs : s ∈ parts t) :
    s = t ∨ ∃ u ∈ parts t, s ∈ u.children := by
  rcases mem_parts_iff.1 hs with rfl | ⟨c, hc, hs⟩
  · exact .inl rfl
  · have := sizeOf_lt_of_mem_children hc
    rcases eq_or_child_of_mem_parts hs with rfl | ⟨u, hu, hs⟩
    · exact .inr ⟨t, self_mem_parts t, hc⟩
    · exact .inr ⟨u, mem_parts_iff.2 (.inr ⟨c, hc, hu⟩), hs⟩
termination_by sizeOf t

/-! ### What a collection holds -/

theorem mem_addNew {s : Ty} {types ts : List Ty} : s ∈ addNew types ts ↔ s ∈ types ∨ s ∈ ts := by
  induction ts generalizing types with
  | nil => simp [addNew]
  | cons t ts ih =>
    rw [addNew, ih, List.mem_cons]
    by_cases h : t ∈ types
    · rw [if_pos h]
      constructor
      · rintro (hs | hs)
        · exact .inl hs
        · exact .inr (.inr hs)
      · rintro (hs | rfl | hs)
        · exact .inl hs
        · exact .inl h
        · exact .inr hs
    · rw [if_neg h, List.mem_append, List.mem_singleton, or_assoc]

theorem nodup_addNew {types : List Ty} (h : types.Nodup) (ts : List Ty) :
    (addNew types ts).Nodup := by
  induction ts generalizing types with
  | nil => exact h
  | cons t ts ih =>
    rw [addNew]
    by_cases ht : t ∈ types
    · rw [if_pos ht]
      exact ih h
    · rw [if_neg ht]
      exact ih (h.append (List.nodup_singleton t) (List.disjoint_singleton.2 ht))

namespace Routines

variable {r : Routines} {d : Direction} {s : Ty}

theorem mem_types_request {d' : Direction} {t : Ty} :
    s ∈ (r.request d' t).types d ↔ s ∈ r.types d ∨ d' = d ∧ s ∈ parts t := by
  cases d <;> cases d' <;> simp [request, types, mem_addNew]

/-- After some requests a collection holds the parts of what was asked for, besides what it held
before. -/
theorem mem_types_requestAll {calls : List (Direction × Ty)} :
    s ∈ (r.requestAll calls).types d ↔
      s ∈ r.types d ∨ ∃ c ∈ calls, c.1 = d ∧ s ∈ parts c.2 := by
  induction calls generalizing r with
  | nil => simp [requestAll]
  | cons c calls ih =>
    rw [requestAll, List.foldl_cons, ← requestAll, ih, mem_types_request, List.exists_mem_cons_iff,
      or_assoc]

theorem nodup_types_request (h : ∀ d, (r.types d).Nodup) (d' : Direction) (t : Ty) :
    ((r.request d' t).types d).Nodup := by
  cases d <;> cases d'
  · exact nodup_addNew (h .read) _
  · exact h .read
  · exact h .write
  · exact nodup_addNew (h .write) _

theorem nodup_types_requestAll (h : ∀ d, (r.types d).Nodup) (calls : List (Direction × Ty)) :
    ((r.requestAll calls).types d).Nodup := by
  induction calls generalizing r with
  | nil => exact h d
  | cons c calls ih => exact ih fun d => nodup_types_request h c.1 c.2

variable {calls : List (Direction × Ty)}

theorem mem_types_requested :
    s ∈ (({} : Routines).requestAll calls).types d ↔ ∃ c ∈ calls, c.1 = d ∧ s ∈ parts c.2 := by
  rw [mem_types_requestAll]
  cases d <;> simp [types]

theorem nodup_types_requested : ((({} : Routines).requestAll calls).types d).Nodup :=
  nodup_types_requestAll (fun d => by cases d <;> exact List.nodup_nil) calls

/-- Requests in another order give the same types, in another order. -/
theorem types_requestAll_perm {calls' : List (Direction × Ty)} (h : calls.Perm calls') :
    ((({} : Routines).requestAll calls).types d).Perm
      ((({} : Routines).requestAll calls').types d) := by
  rw [List.perm_ext_iff_of_nodup nodup_types_requested nodup_types_requested]
  intro s
  rw [mem_types_requested, mem_types_requested]
  exact exists_congr fun c => and_congr_left fun _ => h.mem_iff

end Routines

/-! ### What a routine calls -/

namespace Routine

open Code

variable (rt : String)

/-- Whether the values of a type are texts, so that the routine that writes them has a function for
optional ones beside it. -/
def isText (t : Ty) : Bool :=
  t.basic?.any (·.isText)

theorem calls_head (text : String) (inlined : Bool) (name takes gives : String) :
    calls (head text inlined name takes gives) = [] := by
  cases inlined <;> rfl

theorem calls_readFields (reads : List String) (n : Nat) :
    calls (readFields n reads) = reads.map fun name => (.read, name) := by
  induction reads generalizing n with
  | nil => rfl
  | cons read reads ih => simp [readFields, ih]

theorem calls_fieldLocals (count n : Nat) : calls (fieldLocals n count) = [] := by
  induction count generalizing n with
  | zero => rfl
  | succ count ih => simp [fieldLocals, ih]

theorem calls_readElements (element : Ty) (name : String) :
    calls (readElements element name) = [(.read, name)] := by
  have hpushed : calls (readElements.pushed name) = [(.read, name)] := rfl
  unfold readElements
  split
  · split
    · rfl
    · exact hpushed
  · exact hpushed

theorem calls_writeFields (fields : List Ty) (n : Nat) :
    calls (writeFields n (fields.zip (fields.map (routineName .write))))
      = fields.map fun t => (.write, routineName .write t) := by
  induction fields generalizing n with
  | nil => rfl
  | cons t ts ih => simp [writeFields, ih]

theorem calls_writeElements (element : Ty) (name : String) :
    calls (writeElements element name) = [(.write, name)] := by
  cases element <;> rfl

/-- The body of a routine calls those of the types directly inside its own, in order. -/
theorem calls_body (d : Direction) (t : Ty) :
    calls (body rt d t) = t.children.map fun s => (d, routineName d s) := by
  cases d with
  | read =>
    cases t with
    | basic b => rfl
    | variant => rfl
    | array element => simp [body, arrayBody, readArray, calls_readElements, Ty.children]
    | struct fields =>
      simp [body, structBody, readStruct, paren, calls_readFields, calls_fieldLocals, Ty.children]
    | entry k v => rfl
  | write =>
    cases t with
    | basic b => rfl
    | variant => rfl
    | array element => simp [body, arrayBody, writeArray, calls_writeElements, Ty.children]
    | struct fields => simp [body, structBody, writeStruct, calls_writeFields, Ty.children]
    | entry k v => rfl

theorem calls_reader (t : Ty) (name : String) (body : Code) :
    calls (reader rt t name body) = calls body := by
  simp [reader, calls_head]

/-- The function for optional texts calls the one for texts. -/
theorem calls_writer (t : Ty) (name : String) (body : Code) :
    calls (writer rt t name body) = calls body ++ if isText t then [(.write, name)] else [] := by
  rw [writer, calls_append, calls_append, calls_head, calls_cons, calls_brace]
  cases t with
  | basic b => cases b <;> simp [isText, Ty.basic?, BasicType.isText, emptyText?, optionalWriter,
      calls_head]
  | _ => simp [isText, Ty.basic?]

/-- A routine calls those of the types directly inside its own, in its own direction, and none but
itself besides. -/
theorem mem_calls_code {d : Direction} {t : Ty} {c : Direction × String} :
    c ∈ calls (code rt d t) ↔
      ∃ s, c = (d, routineName d s) ∧ (s ∈ t.children ∨ d = .write ∧ isText t ∧ s = t) := by
  cases d with
  | read =>
    rw [code, define, calls_reader, calls_body, List.mem_map]
    constructor
    · rintro ⟨s, hs, rfl⟩
      exact ⟨s, rfl, .inl hs⟩
    · rintro ⟨s, rfl, hs | ⟨h, -⟩⟩
      · exact ⟨s, hs, rfl⟩
      · cases h
  | write =>
    rw [code, define, calls_writer, calls_body, List.mem_append, List.mem_map,
      List.mem_ite_nil_right, List.mem_singleton]
    constructor
    · rintro (⟨s, hs, rfl⟩ | ⟨ht, rfl⟩)
      · exact ⟨s, rfl, .inl hs⟩
      · exact ⟨t, rfl, .inr ⟨rfl, ht, rfl⟩⟩
    · rintro ⟨s, rfl, hs | ⟨-, ht, rfl⟩⟩
      · exact .inl ⟨s, hs, rfl⟩
      · exact .inr ⟨ht, rfl⟩

end Routine

/-! ### The names of routines -/

/-- What a character of a signature becomes in the name of a routine. -/
def mangleChar : Char → Char
  | '(' => 'r'
  | '\x7b' => 'e'
  | ')' | '\x7d' => 'z'
  | c => c

theorem mangle_eq (spelling : List Char) : mangle spelling = String.ofList (spelling.map mangleChar) :=
  rfl

/-- Though it closes structs and dict entries by the same letter, a name tells types apart. -/
theorem faithful_mangleChar : Ty.Faithful mangleChar where
  begins := by decide
  ends := by decide

/-- The name of a routine tells which routine it is, also with something behind it. -/
theorem routineName_append_inj {d : Direction} {s t : Ty} {x y : String}
    (h : routineName d s ++ x = routineName d t ++ y) : s = t ∧ x = y := by
  simp only [routineName, String.append_assoc, String.append_right_inj, mangle_eq] at h
  have hchars : s.spelling.map mangleChar ++ x.toList = t.spelling.map mangleChar ++ y.toList := by
    simpa using congrArg String.toList h
  obtain ⟨hst, hxy⟩ := Ty.map_spelling_append_inj faithful_mangleChar hchars
  exact ⟨hst, String.toList_inj.1 hxy⟩

theorem routineName_injective (d : Direction) : Function.Injective (routineName d) :=
  fun _ _ h => (routineName_append_inj (congrArg (· ++ "") h)).1

namespace Routine

open Code

variable {rt : String} {d : Direction} {t : Ty}

theorem defines_head (text : String) (inlined : Bool) (name takes gives : String) :
    defines (head text inlined name takes gives) = [.plain name] := by
  cases inlined <;> rfl

/-- A routine is the function that is called after its type; one that writes texts has a function
for optional ones beside it. -/
theorem defines_code :
    defines (code rt d t) = .plain (routineName d t) ::
      if d = .write ∧ isText t then [.plain (routineName d t ++ "_opt")] else [] := by
  cases d with
  | read => simp [code, define, reader, defines_head]
  | write =>
    rw [code, define, writer, defines_append, defines_append, defines_head, defines_brace]
    cases t with
    | basic b => cases b <;> rfl
    | _ => simp [isText, Ty.basic?]

theorem exists_ending_of_mem_defines {name : Ident} (h : name ∈ defines (code rt d t)) :
    ∃ ending, name = .plain (routineName d t ++ ending) := by
  rw [defines_code, List.mem_cons] at h
  rcases h with rfl | h
  · exact ⟨"", by rw [String.append_empty]⟩
  · split at h
    · exact ⟨"_opt", List.mem_singleton.1 h⟩
    · cases h

theorem nodup_defines_code : (defines (code rt d t)).Nodup := by
  have hne : routineName d t ≠ routineName d t ++ "_opt" := by
    intro h
    have h' : routineName d t ++ "" = routineName d t ++ "_opt" := by rwa [String.append_empty]
    exact absurd (routineName_append_inj h').2 (by decide)
  rw [defines_code]
  split
  · simpa [Ident.plain] using hne
  · exact List.nodup_singleton _

/-- The functions of different routines have different names. -/
theorem nodup_defines_flatMap {types : List Ty} (h : types.Nodup) :
    (defines (types.flatMap (code rt d))).Nodup := by
  rw [defines_flatMap, List.nodup_flatMap]
  refine ⟨fun t _ => nodup_defines_code, h.imp fun {s t} hne name hs ht => hne ?_⟩
  obtain ⟨x, rfl⟩ := exists_ending_of_mem_defines hs
  obtain ⟨y, hy⟩ := exists_ending_of_mem_defines ht
  exact (routineName_append_inj (Ident.mk.inj hy).2).1

end Routine

end DBus.Bindings

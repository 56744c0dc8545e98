import DBus.Bindings.Generate
import Mathlib.Data.List.Nodup
import Mathlib.Data.List.Perm.Basic

/-!
# The interfaces of some documents

Merging goes through the interfaces of the documents and changes the entry of an interface in place
when it comes again. What comes out can be said of all the documents at once: the names in the order
in which they appear first, each with its first definition and with the modes of all the documents
that declare it. So names that are left out of the documents are only left out of the result, and
the order of the documents matters only to the order of the result and to which definition is first.
-/

namespace DBus.Bindings

/-! ### Modes together -/

namespace Mode

theorem union_assoc (a b c : Mode) : (a.union b).union c = a.union (b.union c) :=
  congrArg mk (UInt8.or_assoc ..)

theorem union_comm (a b : Mode) : a.union b = b.union a :=
  congrArg mk (UInt8.or_comm ..)

theorem union_self (a : Mode) : a.union a = a :=
  congrArg mk UInt8.or_self

theorem union_none (a : Mode) : a.union none = a :=
  congrArg mk UInt8.or_zero

theorem none_union (a : Mode) : none.union a = a :=
  congrArg mk UInt8.zero_or

instance : LeftCommutative union where
  left_comm a b c := by rw [← union_assoc, union_comm a b, union_assoc]

/-- The bindings of several modes together. -/
def unite (modes : List Mode) : Mode :=
  modes.foldr union none

theorem unite_append (ms ns : List Mode) : unite (ms ++ ns) = (unite ms).union (unite ns) := by
  induction ms with
  | nil => exact (none_union _).symm
  | cons m ms ih => exact (congrArg (m.union ·) ih).trans (union_assoc ..).symm

theorem unite_concat (ms : List Mode) (m : Mode) : unite (ms ++ [m]) = (unite ms).union m := by
  rw [unite_append]
  exact congrArg (union _) (union_none m)

/-- A mode is not changed by being there several times. -/
theorem unite_eq_of_forall {m : Mode} : ∀ {ms : List Mode}, (∀ n ∈ ms, n = m) → ms ≠ [] →
    unite ms = m
  | [n], h, _ => (union_none n).trans (h n (List.mem_singleton_self n))
  | n :: n' :: ms, h, _ => by
    have hrest : unite (n' :: ms) = m :=
      unite_eq_of_forall (fun k hk => h k (List.mem_cons_of_mem n hk)) (List.cons_ne_nil n' ms)
    exact (congrArg₂ union (h n (List.mem_cons_self ..)) hrest).trans (union_self m)

theorem unite_perm {ms ns : List Mode} (h : ms.Perm ns) : unite ms = unite ns :=
  h.foldr_eq none

/-- The modes that are made of the flags with a meaning. -/
def named : List Mode := [none, proxy, handler, proxy.union handler]

theorem unite_mem_named {ms : List Mode} (h : ∀ m ∈ ms, m ∈ named) : unite ms ∈ named := by
  induction ms with
  | nil => decide
  | cons m ms ih =>
    have hunion : ∀ a ∈ named, ∀ b ∈ named, a.union b ∈ named := by decide
    exact hunion m (h m (List.mem_cons_self ..)) _ (ih fun n hn => h n (List.mem_cons_of_mem m hn))

end Mode

/-! ### What documents declare -/

section Declared

variable (documents : List (Document × Mode)) (name : String)

/-- The definitions in some documents, in order. -/
def definitions : List Interface :=
  documents.flatMap (·.1.interfaces)

/-- The names of the interfaces, in the order in which they appear first. -/
def interfaceNames : List String :=
  ((definitions documents).map (·.name)).eraseDups

/-- The first definition of an interface. -/
def firstDefinition : Option Interface :=
  (definitions documents).find? (·.name = name)

/-- Whether a document declares an interface. -/
def Document.declares (d : Document) (name : String) : Bool :=
  d.interfaces.any (·.name = name)

/-- The modes of all documents that declare an interface. -/
def unitedMode : Mode :=
  Mode.unite ((documents.filter (·.1.declares name)).map (·.2))

end Declared

/-! ### One more interface -/

/-- The names of some entries. -/
def namesOf (entries : List (Interface × Mode)) : List String :=
  entries.map (·.1.name)

@[simp] theorem namesOf_cons (e : Interface × Mode) (entries : List (Interface × Mode)) :
    namesOf (e :: entries) = e.1.name :: namesOf entries := rfl

theorem namesOf_concat (entries : List (Interface × Mode)) (e : Interface × Mode) :
    namesOf (entries ++ [e]) = namesOf entries ++ [e.1.name] :=
  List.map_append

theorem mem_namesOf {entries : List (Interface × Mode)} {name : String} :
    name ∈ namesOf entries ↔ ∃ e ∈ entries, e.1.name = name :=
  List.mem_map

theorem eraseDups_concat (names : List String) (name : String) :
    (names ++ [name]).eraseDups =
      if name ∈ names then names.eraseDups else names.eraseDups ++ [name] := by
  rw [List.eraseDups_append, List.removeAll, List.filter_singleton]
  by_cases h : name ∈ names
  · simp [h]
  · simp [h, List.eraseDups_cons]

section Step

variable {merged : List (Interface × Mode)} {i : Interface} {mode : Mode}

theorem addInterface_cons (e : Interface × Mode) :
    addInterface (e :: merged) i mode =
      if e.1.name = i.name then (e.1, e.2.union mode) :: merged
      else e :: addInterface merged i mode := rfl

theorem namesOf_addInterface :
    namesOf (addInterface merged i mode) =
      if i.name ∈ namesOf merged then namesOf merged else namesOf merged ++ [i.name] := by
  induction merged with
  | nil => rfl
  | cons e merged ih =>
    rw [addInterface_cons]
    by_cases h : e.1.name = i.name
    · rw [if_pos h, if_pos (h ▸ List.mem_cons_self ..)]
      rfl
    · rw [if_neg h, namesOf_cons, ih, namesOf_cons]
      by_cases hmem : i.name ∈ namesOf merged
      · rw [if_pos hmem, if_pos (List.mem_cons_of_mem _ hmem)]
      · rw [if_neg hmem, if_neg (List.not_mem_cons_of_ne_of_not_mem (Ne.symm h) hmem)]
        rfl

/-- An entry of another name is as it was, and one of the same name has one mode more; the last case
is an entry that is new. -/
theorem mem_addInterface (hnodup : (namesOf merged).Nodup) {e : Interface × Mode}
    (he : e ∈ addInterface merged i mode) :
    (e ∈ merged ∧ e.1.name ≠ i.name) ∨
      (∃ m, (e.1, m) ∈ merged ∧ e.1.name = i.name ∧ e.2 = m.union mode) ∨
        (i.name ∉ namesOf merged ∧ e = (i, mode)) := by
  induction merged with
  | nil => exact .inr (.inr ⟨nofun, List.mem_singleton.1 he⟩)
  | cons j merged ih =>
    obtain ⟨hj, hnodup⟩ := List.nodup_cons.1 hnodup
    rw [addInterface_cons] at he
    by_cases h : j.1.name = i.name
    · rw [if_pos h] at he
      rcases List.mem_cons.1 he with rfl | he
      · exact .inr (.inl ⟨j.2, List.mem_cons_self .., h, rfl⟩)
      · refine .inl ⟨List.mem_cons_of_mem _ he, fun heq => hj ?_⟩
        exact mem_namesOf.2 ⟨e, he, heq.trans h.symm⟩
    · rw [if_neg h] at he
      rcases List.mem_cons.1 he with rfl | he
      · exact .inl ⟨List.mem_cons_self .., h⟩
      · rcases ih hnodup he with ⟨hmem, hne⟩ | ⟨m, hmem, heq, hm⟩ | ⟨hnew, rfl⟩
        · exact .inl ⟨List.mem_cons_of_mem _ hmem, hne⟩
        · exact .inr (.inl ⟨m, List.mem_cons_of_mem _ hmem, heq, hm⟩)
        · exact .inr (.inr ⟨List.not_mem_cons_of_ne_of_not_mem (Ne.symm h) hnew, rfl⟩)

theorem filter_addInterface (keep : String → Bool) :
    (addInterface merged i mode).filter (fun e => keep e.1.name) =
      if keep i.name then addInterface (merged.filter fun e => keep e.1.name) i mode
      else merged.filter fun e => keep e.1.name := by
  induction merged with
  | nil => by_cases hk : keep i.name <;> simp [addInterface, hk]
  | cons j merged ih =>
    rw [addInterface_cons]
    by_cases h : j.1.name = i.name
    · rw [if_pos h, List.filter_cons, List.filter_cons]
      by_cases hk : keep i.name <;> simp [addInterface_cons, h, hk]
    · rw [if_neg h, List.filter_cons, List.filter_cons, ih]
      by_cases hk : keep i.name <;> by_cases hj : keep j.1.name <;>
        simp [addInterface_cons, h, hk, hj]

end Step

/-! ### All interfaces -/

/-- The declarations of some documents, each in the mode of its document. -/
def declarations (documents : List (Document × Mode)) : List (Interface × Mode) :=
  documents.flatMap fun d => d.1.interfaces.map fun i => (i, d.2)

theorem merge_eq_foldl (documents : List (Document × Mode)) :
    merge documents =
      (declarations documents).foldl (fun merged d => addInterface merged d.1 d.2) [] := by
  simp only [merge, declarations, List.foldl_flatMap, List.foldl_map]

/-- What is there after some declarations: an entry for each name in the order of first appearance,
which holds the first definition and all modes. -/
structure Merged (ds merged : List (Interface × Mode)) : Prop where
  names : namesOf merged = (namesOf ds).eraseDups
  nodup : (namesOf merged).Nodup
  first : ∀ e ∈ merged, (ds.map (·.1)).find? (·.name = e.1.name) = some e.1
  modes : ∀ e ∈ merged, e.2 = Mode.unite ((ds.filter (·.1.name = e.1.name)).map (·.2))

section Run

variable {ds merged : List (Interface × Mode)}

theorem Merged.mem_names (h : Merged ds merged) {name : String} :
    name ∈ namesOf merged ↔ name ∈ namesOf ds := by
  rw [h.names, List.mem_eraseDups]

/-- The invariant is kept by one more declaration. -/
theorem Merged.step (h : Merged ds merged) (i : Interface) (mode : Mode) :
    Merged (ds ++ [(i, mode)]) (addInterface merged i mode) := by
  refine ⟨?_, ?_, fun e he => ?_, fun e he => ?_⟩
  · rw [namesOf_addInterface, namesOf_concat, eraseDups_concat, h.names]
    simp only [List.mem_eraseDups]
  · rw [namesOf_addInterface]
    by_cases hmem : i.name ∈ namesOf merged
    · rw [if_pos hmem]
      exact h.nodup
    · rw [if_neg hmem]
      exact h.nodup.append (List.nodup_singleton _) (List.disjoint_singleton.2 hmem)
  · rw [List.map_append, List.find?_append]
    rcases mem_addInterface h.nodup he with ⟨hold, -⟩ | ⟨m, hold, -, -⟩ | ⟨hnew, rfl⟩
    · rw [h.first e hold, Option.some_or]
    · rw [h.first (e.1, m) hold, Option.some_or]
    · have hnone : (ds.map (·.1)).find? (·.name = i.name) = none := by
        rw [h.mem_names, mem_namesOf] at hnew
        simpa using hnew
      simp [hnone]
  · rw [List.filter_append, List.map_append, List.filter_singleton]
    rcases mem_addInterface h.nodup he with ⟨hold, hne⟩ | ⟨m, hold, heq, hm⟩ | ⟨hnew, rfl⟩
    · simpa [Ne.symm hne] using h.modes e hold
    · have hold : m = _ := h.modes (e.1, m) hold
      rw [hm, hold]
      simpa [heq] using (Mode.unite_concat _ mode).symm
    · have hnil : ds.filter (·.1.name = i.name) = [] := by
        rw [h.mem_names, mem_namesOf] at hnew
        simpa using hnew
      simp [hnil, Mode.unite, Mode.union_none]

theorem Merged.run (h : Merged ds merged) (more : List (Interface × Mode)) :
    Merged (ds ++ more) (more.foldl (fun merged d => addInterface merged d.1 d.2) merged) := by
  induction more generalizing ds merged with
  | nil => simpa using h
  | cons d more ih => simpa using ih (h.step d.1 d.2)

end Run

theorem merged_merge (documents : List (Document × Mode)) :
    Merged (declarations documents) (merge documents) := by
  have hstart : Merged [] [] := ⟨rfl, List.nodup_nil, nofun, nofun⟩
  simpa [merge_eq_foldl] using hstart.run (declarations documents)

section Documents

variable (documents : List (Document × Mode))

theorem map_fst_declarations : (declarations documents).map (·.1) = definitions documents := by
  simp [declarations, definitions, List.map_flatMap, Function.comp_def]

/-- A document that declares an interface several times has its mode count once. -/
theorem unite_declarations (name : String) :
    Mode.unite (((declarations documents).filter (·.1.name = name)).map (·.2)) =
      unitedMode documents name := by
  induction documents with
  | nil => rfl
  | cons d documents ih =>
    have hsame : ∀ m ∈ ((d.1.interfaces.map fun i => (i, d.2)).filter
        (fun e => e.1.name = name)).map (·.2), m = d.2 := by
      intro m hm
      obtain ⟨e, he, rfl⟩ := List.mem_map.1 hm
      obtain ⟨i, -, rfl⟩ := List.mem_map.1 (List.mem_filter.1 he).1
      rfl
    rw [declarations, List.flatMap_cons, List.filter_append, List.map_append, Mode.unite_append]
    refine (congrArg (Mode.union _) ih).trans ?_
    rw [unitedMode, unitedMode, List.filter_cons]
    by_cases hd : d.1.declares name
    · rw [if_pos hd, List.map_cons]
      refine congrArg (Mode.union · _) (Mode.unite_eq_of_forall hsame ?_)
      simpa [Document.declares] using hd
    · have hnone : (d.1.interfaces.map fun i => (i, d.2)).filter (fun e => e.1.name = name) = [] := by
        simpa [Document.declares] using hd
      rw [if_neg hd, hnone]
      exact Mode.none_union _

theorem namesOf_merge : namesOf (merge documents) = interfaceNames documents := by
  rw [(merged_merge documents).names, interfaceNames, ← map_fst_declarations, List.map_map]
  rfl

theorem mem_interfaceNames {name : String} :
    name ∈ interfaceNames documents ↔ ∃ i ∈ definitions documents, i.name = name := by
  rw [interfaceNames, List.mem_eraseDups, List.mem_map]

variable {documents}

theorem firstDefinition_of_mem {e : Interface × Mode} (h : e ∈ merge documents) :
    firstDefinition documents e.1.name = some e.1 := by
  rw [firstDefinition, ← map_fst_declarations]
  exact (merged_merge documents).first e h

theorem unitedMode_of_mem {e : Interface × Mode} (h : e ∈ merge documents) :
    unitedMode documents e.1.name = e.2 := by
  rw [← unite_declarations]
  exact ((merged_merge documents).modes e h).symm

/-- Entries of the same name are the same. -/
theorem eq_of_name_eq {e f : Interface × Mode} (he : e ∈ merge documents)
    (hf : f ∈ merge documents) (h : e.1.name = f.1.name) : e = f :=
  List.inj_on_of_nodup_map (merged_merge documents).nodup he hf h

variable (documents)

/-- Merging gives the names in the order in which they appear first, each with its first definition
and with the modes of all documents that declare it. -/
theorem merge_eq :
    merge documents = (interfaceNames documents).filterMap fun name =>
      (firstDefinition documents name).map fun i => (i, unitedMode documents name) := by
  rw [← namesOf_merge, namesOf, List.filterMap_map]
  have hself : ∀ e ∈ merge documents, ((firstDefinition documents e.1.name).map fun i =>
      (i, unitedMode documents e.1.name)) = some e := by
    intro e he
    rw [firstDefinition_of_mem he, unitedMode_of_mem he, Option.map_some]
  exact (List.filterMap_some.symm).trans (List.filterMap_congr fun e he => (hself e he).symm)

/-- Leaving names out of the documents leaves their entries out. -/
theorem merge_filter (keep : String → Bool) :
    merge (documents.map fun d => (⟨d.1.interfaces.filter fun i => keep i.name⟩, d.2)) =
      (merge documents).filter fun e => keep e.1.name := by
  have hrun : ∀ (ds merged : List (Interface × Mode)),
      (ds.filter fun d => keep d.1.name).foldl (fun merged d => addInterface merged d.1 d.2)
          (merged.filter fun e => keep e.1.name) =
        (ds.foldl (fun merged d => addInterface merged d.1 d.2) merged).filter
          fun e => keep e.1.name := by
    intro ds
    induction ds with
    | nil => intro merged; rfl
    | cons d ds ih =>
      intro merged
      rw [List.foldl_cons, ← ih, filter_addInterface, List.filter_cons]
      by_cases hd : keep d.1.name <;> simp [hd]
  have hdeclarations :
      declarations (documents.map fun d => (⟨d.1.interfaces.filter fun i => keep i.name⟩, d.2)) =
        (declarations documents).filter fun d => keep d.1.name := by
    simp [declarations, List.flatMap_map, List.filter_flatMap, List.filter_map, Function.comp_def]
  rw [merge_eq_foldl, merge_eq_foldl, hdeclarations]
  exact hrun _ []

end Documents

/-! ### Documents in another order -/

section Permuted

variable {documents documents' : List (Document × Mode)}

/-- Where documents agree on what an interface is, the first definition is any of them. -/
theorem firstDefinition_eq_some_iff
    (hsame : ∀ i ∈ definitions documents, ∀ j ∈ definitions documents, i.name = j.name → i = j)
    {name : String} {i : Interface} :
    firstDefinition documents name = some i ↔ i ∈ definitions documents ∧ i.name = name := by
  constructor
  · intro h
    exact ⟨List.mem_of_find?_eq_some h, by simpa using List.find?_some h⟩
  · rintro ⟨hi, rfl⟩
    have hsome : (firstDefinition documents i.name).isSome := by
      simpa [firstDefinition] using ⟨i, hi, rfl⟩
    obtain ⟨j, hj⟩ := Option.isSome_iff_exists.1 hsome
    have hname : j.name = i.name := by simpa using List.find?_some hj
    rw [hj, hsame j (List.mem_of_find?_eq_some hj) i hi hname]

theorem mem_merge_iff
    (hsame : ∀ i ∈ definitions documents, ∀ j ∈ definitions documents, i.name = j.name → i = j)
    {i : Interface} {mode : Mode} :
    (i, mode) ∈ merge documents ↔
      i ∈ definitions documents ∧ mode = unitedMode documents i.name := by
  constructor
  · intro h
    exact ⟨((firstDefinition_eq_some_iff hsame).1 (firstDefinition_of_mem h)).1,
      (unitedMode_of_mem h).symm⟩
  · rintro ⟨hi, rfl⟩
    rw [merge_eq, List.mem_filterMap]
    exact ⟨i.name, (mem_interfaceNames documents).2 ⟨i, hi, rfl⟩, by
      rw [(firstDefinition_eq_some_iff hsame).2 ⟨hi, rfl⟩, Option.map_some]⟩

theorem unitedMode_perm (h : documents.Perm documents') (name : String) :
    unitedMode documents name = unitedMode documents' name :=
  Mode.unite_perm ((h.filter _).map _)

/-- Where documents agree on what an interface is, their order is only that of the result. -/
theorem merge_perm (h : documents.Perm documents')
    (hsame : ∀ i ∈ definitions documents, ∀ j ∈ definitions documents, i.name = j.name → i = j) :
    (merge documents).Perm (merge documents') := by
  have hmem : ∀ i, i ∈ definitions documents' ↔ i ∈ definitions documents := fun i =>
    (h.flatMap_right _).mem_iff.symm
  have hsame' : ∀ i ∈ definitions documents', ∀ j ∈ definitions documents', i.name = j.name → i = j :=
    fun i hi j hj => hsame i ((hmem i).1 hi) j ((hmem j).1 hj)
  have hnodup : ∀ ds, (merge ds).Nodup := fun ds => (merged_merge ds).nodup.of_map _
  rw [List.perm_ext_iff_of_nodup (hnodup _) (hnodup _)]
  rintro ⟨i, mode⟩
  rw [mem_merge_iff hsame, mem_merge_iff hsame', hmem, unitedMode_perm h]

end Permuted

end DBus.Bindings

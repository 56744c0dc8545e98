import DBus.Proofs.Bindings.Generators
import DBus.Proofs.Bindings.Routines
import Mathlib.Data.Set.Card
import Mathlib.Logic.Relation

/-!
# Synthesis makes each routine once

Whatever is asked for, in whatever order, a cache holds one routine for each type that is part of what
was asked for, and each routine stands behind those that it calls. So a cache is described by a list
of types: those whose routines it holds, in order. A request adds the types to this list that are not
there yet, the parts before the whole, and it changes nothing that is there.
-/

namespace DBus.Bindings

/-! ### Parts -/

/-- A type is another one or somewhere inside it. -/
def IsPart : Ty → Ty → Prop :=
  Relation.ReflTransGen fun s t => s ∈ t.children

theorem isPart_of_mem_parts {s t : Ty} (h : s ∈ parts t) : IsPart s t := by
  rcases mem_parts_iff.1 h with rfl | ⟨c, hc, hs⟩
  · exact .refl
  · have := sizeOf_lt_of_mem_children hc
    exact .tail (isPart_of_mem_parts hs) hc
termination_by sizeOf t

theorem isPart_iff_mem_parts {s t : Ty} : IsPart s t ↔ s ∈ parts t := by
  refine ⟨fun h => ?_, isPart_of_mem_parts⟩
  induction h with
  | refl => exact self_mem_parts s
  | tail _ hchild ih => exact mem_parts_iff.2 (.inr ⟨_, hchild, ih⟩)

theorem sizeOf_le_of_isPart {s t : Ty} (h : IsPart s t) : sizeOf s ≤ sizeOf t := by
  induction h with
  | refl => exact Nat.le_refl _
  | tail _ hchild ih => exact Nat.le_trans ih (Nat.le_of_lt (sizeOf_lt_of_mem_children hchild))

/-! ### Types in the order of their routines -/

/-- Whatever is directly inside a type stands before it. -/
def PartsFirst (types : List Ty) : Prop :=
  ∀ front t behind, types = front ++ t :: behind → ∀ s ∈ t.children, s ∈ front

theorem partsFirst_nil : PartsFirst [] := by
  intro front t behind h
  simp at h

theorem PartsFirst.snoc {types : List Ty} {t : Ty} (h : PartsFirst types)
    (ht : ∀ s ∈ t.children, s ∈ types) : PartsFirst (types ++ [t]) := by
  intro front u behind heq s hs
  rcases List.eq_nil_or_concat behind with rfl | ⟨rest, v, rfl⟩
  · obtain ⟨rfl, heq⟩ := List.append_inj' heq rfl
    obtain rfl : t = u := by simpa using heq
    exact ht s hs
  · rw [List.concat_eq_append, ← List.cons_append, ← List.append_assoc] at heq
    obtain ⟨rfl, -⟩ := List.append_inj' heq rfl
    exact h front u rest rfl s hs

/-- With a type there is everything inside it. -/
theorem PartsFirst.parts_subset {types : List Ty} {t : Ty} (h : PartsFirst types) (ht : t ∈ types) :
    parts t ⊆ types := by
  intro s hs
  rcases mem_parts_iff.1 hs with rfl | ⟨c, hc, hs⟩
  · exact ht
  · have := sizeOf_lt_of_mem_children hc
    obtain ⟨front, behind, rfl⟩ := List.append_of_mem ht
    exact h.parts_subset (List.mem_append_left _ (h front t behind rfl c hc)) hs
termination_by sizeOf t

theorem addNew_append (types ts us : List Ty) :
    addNew types (ts ++ us) = addNew (addNew types ts) us := by
  induction ts generalizing types with
  | nil => rfl
  | cons t ts ih => exact ih _

theorem addNew_of_subset {types ts : List Ty} (h : ts ⊆ types) : addNew types ts = types := by
  induction ts with
  | nil => rfl
  | cons t ts ih =>
    obtain ⟨ht, hts⟩ := List.cons_subset.1 h
    rw [addNew, if_pos ht, ih hts]

theorem prefix_addNew (types ts : List Ty) : types <+: addNew types ts := by
  induction ts generalizing types with
  | nil => exact List.prefix_rfl
  | cons t ts ih =>
    refine List.IsPrefix.trans ?_ (ih _)
    split
    · exact List.prefix_rfl
    · exact List.prefix_append ..

/-- A request adds types behind those that there are. -/
theorem Routines.types_prefix_request (r : Routines) (d : Direction) (t : Ty) (d' : Direction) :
    r.types d' <+: (r.request d t).types d' := by
  cases d <;> cases d'
  · exact prefix_addNew ..
  · exact List.prefix_rfl
  · exact List.prefix_rfl
  · exact prefix_addNew ..

theorem Routines.types_prefix_requestAll (r : Routines) (calls : List (Direction × Ty))
    (d : Direction) : r.types d <+: (r.requestAll calls).types d := by
  induction calls generalizing r with
  | nil => exact List.prefix_rfl
  | cons c calls ih => exact (r.types_prefix_request c.1 c.2 d).trans (ih _)

theorem addNew_parts_of_mem {types : List Ty} {t : Ty} (h : PartsFirst types) (ht : t ∈ types) :
    addNew types (parts t) = types :=
  addNew_of_subset (h.parts_subset ht)

/-- A type is no part of what is directly inside it. -/
theorem not_mem_partsOfAll_children (t : Ty) : t ∉ partsOfAll t.children := by
  intro h
  obtain ⟨c, hc, ht⟩ := mem_partsOfAll.1 h
  have hlt := sizeOf_lt_of_mem_children hc
  have hle := sizeOf_le_of_isPart (isPart_of_mem_parts ht)
  omega

/-- A type that is not there yet comes behind what is inside it. -/
theorem addNew_parts_of_not_mem {types : List Ty} {t : Ty} (ht : t ∉ types) :
    addNew types (parts t) = addNew types (partsOfAll t.children) ++ [t] := by
  have hnew : t ∉ addNew types (partsOfAll t.children) := by
    rw [mem_addNew, not_or]
    exact ⟨ht, not_mem_partsOfAll_children t⟩
  rw [parts_eq, addNew_append, addNew, if_neg hnew, addNew]

/-! ### Caches -/

section

variable {rt : String} {d : Direction} {types : List Ty} {t : Ty}

namespace Cache

variable {c : Cache}

/-- A cache holds the routines for some types, each once and behind those that it calls, and finds
them by the signatures of the types. -/
structure Holds (rt : String) (d : Direction) (types : List Ty) (c : Cache) : Prop where
  nodup : types.Nodup
  partsFirst : PartsFirst types
  routines : c.routines = types.map (Routine.code rt d)
  names : ∀ t : Ty, c.names.lookup t.signature = if t ∈ types then some (routineName d t) else none

theorem holds_empty : Holds rt d [] {} where
  nodup := List.nodup_nil
  partsFirst := partsFirst_nil
  routines := rfl
  names _ := rfl

theorem signature_injective {s t : Ty} (h : s.signature = t.signature) : s = t := by
  rw [← Ty.signatureOf_singleton, ← Ty.signatureOf_singleton] at h
  exact List.singleton_inj.1 (Ty.signatureOf_injective h)

/-- The routine for another type is put behind the others, if those that it calls are among them. -/
theorem Holds.snoc (h : Holds rt d types c) (ht : t ∉ types) (hcalls : ∀ s ∈ t.children, s ∈ types) :
    Holds rt d (types ++ [t])
      ⟨(t.signature, routineName d t) :: c.names, c.routines ++ [Routine.code rt d t]⟩ where
  nodup := h.nodup.append (List.nodup_singleton t) (List.disjoint_singleton.2 ht)
  partsFirst := h.partsFirst.snoc hcalls
  routines := by rw [h.routines, List.map_append, List.map_singleton]
  names s := by
    rw [List.lookup_cons]
    by_cases hs : s = t
    · simp [hs]
    · have hne : (s.signature == t.signature) = false :=
        beq_eq_false_iff_ne.2 fun heq => hs (signature_injective heq)
      rw [hne, h.names]
      simp [hs]

/-- A routine that is found is not made again. -/
theorem request_of_lookup {name : String} (h : c.names.lookup t.signature = some name) :
    request rt d t c = (name, c) := by
  cases t <;> rw [request, getOrMake, h]

/-- A routine is found, or it is made when those that its body calls have been asked for. -/
theorem Holds.getOrMake {makeBody : Cache → Code × Cache} (h : Holds rt d types c)
    (hbody : (makeBody c).1 = Routine.body rt d t)
    (hcallees : Holds rt d (addNew types (partsOfAll t.children)) (makeBody c).2) :
    (getOrMake rt d t makeBody c).1 = routineName d t ∧
      Holds rt d (addNew types (parts t)) (getOrMake rt d t makeBody c).2 := by
  unfold Cache.getOrMake
  rw [h.names]
  by_cases ht : t ∈ types
  · rw [if_pos ht, addNew_parts_of_mem h.partsFirst ht]
    exact ⟨rfl, h⟩
  · rw [if_neg ht, addNew_parts_of_not_mem ht]
    refine ⟨rfl, ?_⟩
    dsimp only
    rw [hbody]
    refine hcallees.snoc ?_ fun s hs => ?_
    · rw [mem_addNew, not_or]
      exact ⟨ht, not_mem_partsOfAll_children t⟩
    · rw [mem_addNew]
      exact .inr (mem_partsOfAll.2 ⟨s, hs, self_mem_parts s⟩)

mutual

/-- A request gives the name of a routine, and afterwards the cache holds this routine and all those
that it needs. -/
theorem Holds.request : ∀ (t : Ty) {types : List Ty} {c : Cache}, Holds rt d types c →
    (request rt d t c).1 = routineName d t ∧
      Holds rt d (addNew types (parts t)) (request rt d t c).2
  | .basic _, _, _, h | .variant, _, _, h => by
    rw [Cache.request]
    exact h.getOrMake rfl h
  | .array element, types, c, h => by
    obtain ⟨hname, hholds⟩ := Holds.request element h
    rw [Cache.request]
    refine h.getOrMake (congrArg (Routine.arrayBody d element) hname) ?_
    simpa [Ty.children, partsOfAll] using hholds
  | .struct fields, types, c, h => by
    obtain ⟨hnames, hholds⟩ := Holds.requestAll fields h
    rw [Cache.request]
    exact h.getOrMake (congrArg (Routine.structBody d fields) hnames) hholds
  | .entry k v, types, c, h => by
    obtain ⟨hkey, hholds⟩ := Holds.request k h
    obtain ⟨hvalue, hholds⟩ := Holds.request v hholds
    rw [Cache.request]
    refine h.getOrMake (congrArg₂ (Routine.entryBody d) hkey hvalue) ?_
    simpa [Ty.children, partsOfAll, addNew_append] using hholds

theorem Holds.requestAll : ∀ (ts : List Ty) {types : List Ty} {c : Cache}, Holds rt d types c →
    (requestAll rt d ts c).1 = ts.map (routineName d) ∧
      Holds rt d (addNew types (partsOfAll ts)) (requestAll rt d ts c).2
  | [], _, _, h => ⟨rfl, h⟩
  | t :: ts, types, c, h => by
    obtain ⟨hname, hholds⟩ := Holds.request t h
    obtain ⟨hnames, hholds⟩ := Holds.requestAll ts hholds
    rw [Cache.requestAll, partsOfAll, addNew_append]
    exact ⟨congrArg₂ List.cons hname hnames, hholds⟩

end

end Cache

end

theorem mangle_spelling_injective : Function.Injective fun t : Ty => mangle t.spelling :=
  fun _ _ h => routineName_injective .read (congrArg (Direction.read.verb ++ "_" ++ ·) h)

/-! ### Both directions -/

namespace Synthesis

variable {rt : String} {r : Routines} {s : Synthesis}

/-- The routines that have been made are those for the types of a collection. -/
def Makes (rt : String) (r : Routines) (s : Synthesis) : Prop :=
  ∀ d, Cache.Holds rt d (r.types d) (s.cache d)

theorem makes_empty : Makes rt {} {} := by
  intro d
  cases d <;> exact Cache.holds_empty

theorem Makes.request (h : Makes rt r s) (d : Direction) (t : Ty) :
    (s.request rt d t).1 = routineName d t ∧ Makes rt (r.request d t) (s.request rt d t).2 := by
  obtain ⟨hname, hholds⟩ := (h d).request t
  cases d with
  | read =>
    refine ⟨hname, fun d => ?_⟩
    cases d with
    | read => exact hholds
    | write => exact h .write
  | write =>
    refine ⟨hname, fun d => ?_⟩
    cases d with
    | read => exact h .read
    | write => exact hholds

theorem Makes.requestAll (h : Makes rt r s) (calls : List (Direction × Ty)) :
    Makes rt (r.requestAll calls) (s.requestAll rt calls) := by
  induction calls generalizing r s with
  | nil => exact h
  | cons c calls ih => exact ih (h.request c.1 c.2).2

/-- The routines that have been made are those of the collection. -/
theorem Makes.code_eq (h : Makes rt r s) (d : Direction) : s.code d = r.code rt d := by
  rw [Synthesis.code, (h d).routines, ← List.flatMap_def]
  rfl

/-- Whatever has been made before, a generator gives the same, and what it asks for is made. -/
theorem Makes.run {α : Type} (h : Makes rt r s) (g : Generator α) :
    (g.run rt s).1 = g.result ∧ Makes rt (r.requestAll g.requests) (g.run rt s).2 := by
  induction g generalizing r s with
  | done a => exact ⟨rfl, h⟩
  | ask d t next ih =>
    obtain ⟨hname, hmakes⟩ := h.request d t
    rw [Generator.run, Generator.result, Generator.requests, ← hname]
    exact ih _ hmakes

/-- A request changes no routine that there is. -/
theorem Makes.routines_prefix (h : Makes rt r s) (d : Direction) (t : Ty) (d' : Direction) :
    (s.cache d').routines <+: ((s.request rt d t).2.cache d').routines := by
  rw [(h d').routines, ((h.request d t).2 d').routines]
  exact (r.types_prefix_request d t d').map _

/-- A request for a routine that there is changes nothing at all. -/
theorem Makes.request_of_mem (h : Makes rt r s) {d : Direction} {t : Ty} (ht : t ∈ r.types d) :
    s.request rt d t = (routineName d t, s) := by
  have hlookup := (h d).names t
  rw [if_pos ht] at hlookup
  cases d with
  | read =>
    have hfound : Cache.request rt .read t s.readers = (routineName .read t, s.readers) :=
      Cache.request_of_lookup hlookup
    rw [Synthesis.request, hfound]
  | write =>
    have hfound : Cache.request rt .write t s.writers = (routineName .write t, s.writers) :=
      Cache.request_of_lookup hlookup
    rw [Synthesis.request, hfound]

end Synthesis

/-- What a cache holds when some routines have been asked for: one routine for each type that is part
of what was asked for in its direction, with functions that all have different names, each routine
behind those that it calls. The function for optional texts is of the same routine as the one that it
calls. -/
structure Collected (rt : String) (d : Direction) (calls : List (Direction × Ty)) (types : List Ty)
    (c : Cache) : Prop where
  nodup : types.Nodup
  mem_iff : ∀ t, t ∈ types ↔ ∃ call ∈ calls, call.1 = d ∧ IsPart t call.2
  routines : c.routines = types.map (Routine.code rt d)
  defines : Code.defines c.routines.flatten = types.flatMap fun t =>
    .plain (routineName d t) ::
      if d = .write ∧ Routine.isText t then [.plain (routineName d t ++ "_opt")] else []
  distinct : (Code.defines c.routines.flatten).Nodup
  order : ∀ front t behind, types = front ++ t :: behind →
    ∀ call ∈ Code.calls (Routine.code rt d t), ∃ s, call = (d, routineName d s) ∧
      (s ∈ front ∨ d = .write ∧ Routine.isText t ∧ s = t)

theorem Cache.Holds.collected {rt : String} {d : Direction} {calls : List (Direction × Ty)}
    {c : Cache} (h : Cache.Holds rt d ((({} : Routines).requestAll calls).types d) c) :
    Collected rt d calls ((({} : Routines).requestAll calls).types d) c where
  nodup := h.nodup
  mem_iff t := by
    rw [Routines.mem_types_requested]
    simp only [isPart_iff_mem_parts]
  routines := h.routines
  defines := by
    rw [h.routines, ← List.flatMap_def, Code.defines_flatMap]
    simp only [Routine.defines_code]
  distinct := by
    rw [h.routines, ← List.flatMap_def]
    exact Routine.nodup_defines_flatMap h.nodup
  order front t behind heq call hcall := by
    obtain ⟨s, hname, hchild | hself⟩ := (Routine.mem_calls_code rt).1 hcall
    · exact ⟨s, hname, .inl (h.partsFirst front t behind heq s hchild)⟩
    · exact ⟨s, hname, .inr hself⟩

/-- There are as many routines as there are types that are part of what was asked for. -/
theorem Collected.length_eq {rt : String} {d : Direction} {calls : List (Direction × Ty)}
    {types : List Ty} {c : Cache} (h : Collected rt d calls types c) :
    c.routines.length = {t | ∃ call ∈ calls, call.1 = d ∧ IsPart t call.2}.ncard := by
  have hset : {t | ∃ call ∈ calls, call.1 = d ∧ IsPart t call.2} = (types.toFinset : Set Ty) := by
    ext t
    simp [h.mem_iff]
  rw [hset, Set.ncard_coe_finset, List.toFinset_card_of_nodup h.nodup, h.routines, List.length_map]

/-- Whatever routines are asked for, in whatever order and however often: in each direction there is
one routine for each type that is part of what was asked for. A request gives the name of its routine,
which tells the type, and puts new routines behind those that there are; if the routine is there
already, nothing changes. -/
theorem synthesis_memoizes (rt : String) (calls : List (Direction × Ty)) :
    let s := ({} : Synthesis).requestAll rt calls
    (∀ d, (∃ types, Collected rt d calls types (s.cache d)) ∧
      s.count d = {t | ∃ call ∈ calls, call.1 = d ∧ IsPart t call.2}.ncard) ∧
    Function.Injective (fun t : Ty => mangle t.spelling) ∧
    (∀ d t, (s.request rt d t).1 = routineName d t ∧
      ∀ d', (s.cache d').routines <+: ((s.request rt d t).2.cache d').routines) ∧
    ∀ d t, (∃ call ∈ calls, call.1 = d ∧ IsPart t call.2) →
      s.request rt d t = (routineName d t, s) := by
  intro s
  have hmakes : s.Makes rt (({} : Routines).requestAll calls) :=
    Synthesis.makes_empty.requestAll calls
  have hcollected := fun d => (hmakes d).collected
  refine ⟨fun d => ⟨⟨_, hcollected d⟩, (hcollected d).length_eq⟩, mangle_spelling_injective,
    fun d t => ⟨(hmakes.request d t).1, hmakes.routines_prefix d t⟩, fun d t ht => ?_⟩
  exact hmakes.request_of_mem (((hcollected d).mem_iff t).2 ht)

/-- The requests for an array of structs, twice, and for an empty struct, which no signature spells. -/
def repeated : List (Direction × Ty) :=
  [(.write, .array (.struct [.basic .int32, .basic .string])), (.write, .struct []),
    (.write, .array (.struct [.basic .int32, .basic .string]))]

theorem synthesis_memoizes_repeated :
    (({} : Synthesis).requestAll "rt" repeated).count .write = 5 ∧
      (({} : Synthesis).requestAll "rt" repeated).count .read = 0 ∧
      (({} : Synthesis).requestAll "rt" repeated).request "rt" .write
          (.array (.struct [.basic .int32, .basic .string]))
        = ("write_arisz", ({} : Synthesis).requestAll "rt" repeated) := by
  refine ⟨by rfl, by rfl, ?_⟩
  exact (synthesis_memoizes "rt" repeated).2.2.2 .write _ ⟨_, List.mem_cons_self, rfl, .refl⟩

end DBus.Bindings

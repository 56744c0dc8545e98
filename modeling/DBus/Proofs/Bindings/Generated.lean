import DBus.Bindings.Generate
import DBus.Proofs.Bindings.Synthesis

/-!
# What is generated for some documents

Generation goes through the merged interfaces one after the other, along with a cache that their
generators fill. What is added for an interface does not depend on what the cache holds: it is the
result of the generator of its units. So the units, the errors and the routines asked for are those
of the interfaces, one after the other.
-/

namespace DBus.Bindings

namespace Proxy

variable {rt : String}

/-- The parts of a proxy are those of its members, and if there are properties, those for all of
them. -/
theorem result_sections (i : ResolvedInterface) :
    (sections rt i).result = (i.methods.map fun m => (method rt m).result)
      ++ (i.signals.map fun s => (signal rt s).result)
      ++ if i.properties.isEmpty then []
        else (anyProperty rt).result :: (i.properties.map fun p => (property rt p).result)
          ++ [(allProperties rt i).result] := by
  unfold sections propertySections
  split <;> simp

theorem mem_sections {i : ResolvedInterface} {part : Section} :
    part ∈ (sections rt i).result ↔ (∃ m ∈ i.methods, (method rt m).result = part) ∨
      (∃ s ∈ i.signals, (signal rt s).result = part) ∨
      i.properties ≠ [] ∧ (part = (anyProperty rt).result ∨
        (∃ p ∈ i.properties, (property rt p).result = part) ∨
        part = (allProperties rt i).result) := by
  by_cases h : i.properties = [] <;> simp [result_sections, h]

/-- There is a function to get a property and one to set it, if they have names. -/
theorem result_property (p : ResolvedProperty) :
    (property rt p).result =
      ⟨(p.get.elim [] fun get => (getter rt p get).result)
        ++ p.set.elim [] fun set => (setter rt p set).result, []⟩ := by
  unfold property
  cases p.get <;> cases p.set <;> simp

end Proxy

namespace Generate

variable {rt : String}

/-- The interfaces that units are generated for, resolved. -/
def resolved (merged : List (Interface × Mode)) : List (ResolvedInterface × Mode) :=
  merged.filterMap fun m =>
    if m.2.isEmpty then none
    else match resolve m.1 with
      | .ok r => some (r, m.2)
      | .error _ => none

/-- The errors of the interfaces that nothing is generated for though they have a mode. -/
def refused (merged : List (Interface × Mode)) : List BindingError :=
  merged.filterMap fun m =>
    if m.2.isEmpty then none
    else match resolve m.1 with
      | .ok _ => none
      | .error e => some e

/-- The units of an interface. -/
def unitsOf (rt : String) (i : ResolvedInterface) (mode : Mode) : List CodeUnit :=
  (units rt i mode).result

/-- The routines that are asked for while the units of an interface are generated. -/
def requestsOf (rt : String) (i : ResolvedInterface) (mode : Mode) : List (Direction × Ty) :=
  (units rt i mode).requests

theorem result_unitIf (wanted : Bool) (unit : Generator CodeUnit) :
    (unitIf wanted unit).result = if wanted then [unit.result] else [] := by
  cases wanted <;> simp [unitIf]

theorem requests_unitIf (wanted : Bool) (unit : Generator CodeUnit) :
    (unitIf wanted unit).requests = if wanted then unit.requests else [] := by
  cases wanted <;> simp [unitIf]

theorem unitsOf_eq_append (i : ResolvedInterface) (mode : Mode) :
    unitsOf rt i mode =
      (if mode.meets .proxy then
          [⟨i.typeName ++ "Proxy", .proxy,
            (propertiesCode rt i).result ++ (Proxy.code rt i).result⟩]
        else [])
      ++ if mode.meets .handler then
          [⟨i.typeName ++ "Handler", .handler,
            (if mode.meets .proxy then [] else (propertiesCode rt i).result)
              ++ (Handler.code rt i).result⟩]
        else [] := by
  simp [unitsOf, units, result_unitIf, proxyUnit, handlerUnit]

theorem requestsOf_eq_append (i : ResolvedInterface) (mode : Mode) :
    requestsOf rt i mode = (propertiesCode rt i).requests
      ++ ((if mode.meets .proxy then (Proxy.code rt i).requests else [])
        ++ if mode.meets .handler then (Handler.code rt i).requests else []) := by
  simp [requestsOf, units, requests_unitIf, proxyUnit, handlerUnit]

/-- Generation for some interfaces leads from `p` to `q`, `r` being the types of the routines that
there were before. -/
structure Progresses (rt : String) (merged : List (Interface × Mode)) (r : Routines)
    (p q : Progress) : Prop where
  units : q.units = p.units ++ (resolved merged).flatMap fun i => unitsOf rt i.1 i.2
  errors : q.errors = p.errors ++ refused merged
  synthesis : q.synthesis.Makes rt
    (r.requestAll ((resolved merged).flatMap fun i => requestsOf rt i.1 i.2))

section

variable {r : Routines} {p q q' : Progress}

theorem Progresses.nil (h : p.synthesis.Makes rt r) : Progresses rt [] r p p where
  units := (List.append_nil _).symm
  errors := (List.append_nil _).symm
  synthesis := h

/-- One more interface adds the same whatever the cache holds already. -/
theorem progresses_addInterface (h : p.synthesis.Makes rt r) (i : Interface) (mode : Mode) :
    Progresses rt [(i, mode)] r p (addInterface rt p i mode) := by
  unfold addInterface
  split
  · next hmode =>
    have hnone : resolved [(i, mode)] = [] ∧ refused [(i, mode)] = [] := by
      simp [resolved, refused, hmode]
    exact ⟨by simp [hnone], by simp [hnone], by simpa [hnone, Routines.requestAll] using h⟩
  · next hmode =>
    split
    · next e he =>
      have herror : resolved [(i, mode)] = [] ∧ refused [(i, mode)] = [e] := by
        simp [resolved, refused, hmode, he]
      exact ⟨by simp [herror], by simp [herror], by simpa [herror, Routines.requestAll] using h⟩
    · next ri hri =>
      have hunits : resolved [(i, mode)] = [(ri, mode)] ∧ refused [(i, mode)] = [] := by
        simp [resolved, refused, hmode, hri]
      obtain ⟨hnew, hmade⟩ := h.run (units rt ri mode)
      exact ⟨by simp [hunits, hnew, unitsOf], by simp [hunits],
        by simpa [hunits, requestsOf] using hmade⟩

theorem Progresses.cons {m : Interface × Mode} {merged : List (Interface × Mode)}
    (h : Progresses rt [m] r p q)
    (h' : Progresses rt merged
      (r.requestAll ((resolved [m]).flatMap fun i => requestsOf rt i.1 i.2)) q q') :
    Progresses rt (m :: merged) r p q' := by
  have hresolved : resolved (m :: merged) = resolved [m] ++ resolved merged :=
    List.filterMap_append (l := [m])
  have hrefused : refused (m :: merged) = refused [m] ++ refused merged :=
    List.filterMap_append (l := [m])
  refine ⟨?_, ?_, ?_⟩
  · rw [h'.units, h.units, hresolved, List.flatMap_append, List.append_assoc]
  · rw [h'.errors, h.errors, hrefused, List.append_assoc]
  · rw [hresolved, List.flatMap_append, Routines.requestAll, List.foldl_append]
    exact h'.synthesis

/-- The cache is filled on the way, and what is added does not depend on it. -/
theorem progresses_foldl : ∀ (merged : List (Interface × Mode)) {r : Routines} {p : Progress},
    p.synthesis.Makes rt r →
      Progresses rt merged r p (merged.foldl (fun p m => addInterface rt p m.1 m.2) p)
  | [], _, _, h => .nil h
  | (i, mode) :: merged, _, _, h =>
    have hstep := progresses_addInterface h i mode
    hstep.cons (progresses_foldl merged hstep.synthesis)

end

theorem mem_resolved {merged : List (Interface × Mode)} {r : ResolvedInterface} {mode : Mode} :
    (r, mode) ∈ resolved merged ↔
      ∃ i, (i, mode) ∈ merged ∧ mode.isEmpty = false ∧ resolve i = .ok r := by
  simp only [resolved, List.mem_filterMap]
  constructor
  · rintro ⟨⟨i, m⟩, hm, h⟩
    split at h
    · cases h
    · next hmode =>
      split at h
      · next hr => cases h; exact ⟨i, hm, by simpa using hmode, hr⟩
      · cases h
  · rintro ⟨i, hm, hmode, hr⟩
    exact ⟨(i, mode), hm, by simp [hmode, hr]⟩

theorem exists_resolve_of_mem {merged : List (Interface × Mode)} {r : ResolvedInterface × Mode}
    (h : r ∈ resolved merged) : ∃ i, resolve i = .ok r.1 := by
  obtain ⟨i, _, _, hi⟩ := mem_resolved.1 h
  exact ⟨i, hi⟩

end Generate

open Generate

variable (documents : List (Document × Mode)) (crate : String)

/-- The routines that are asked for while the units of some documents are generated. -/
def requested : Routines :=
  Routines.requestAll {} ((resolved (merge documents)).flatMap fun r =>
    requestsOf (runtimePath crate) r.1 r.2)

theorem progresses_generate :
    Progresses (runtimePath crate) (merge documents) {} {}
      ((merge documents).foldl
        (fun p m => Generate.addInterface (runtimePath crate) p m.1 m.2) {}) :=
  progresses_foldl (merge documents) Synthesis.makes_empty

theorem units_generate :
    (generate documents crate).units =
      ((resolved (merge documents)).flatMap fun r => unitsOf (runtimePath crate) r.1 r.2)
        ++ [⟨"readers", .readers, (requested documents crate).code (runtimePath crate) .read⟩,
          ⟨"writers", .writers, (requested documents crate).code (runtimePath crate) .write⟩] := by
  obtain ⟨hunits, -, hmakes⟩ := progresses_generate documents crate
  rw [generate, finish, hunits, hmakes.code_eq, hmakes.code_eq]
  rfl

theorem errors_generate : (generate documents crate).errors = refused (merge documents) :=
  (progresses_generate documents crate).errors

/-! ### Units by kind -/

/-- The kind of the unit that holds the routines in a direction. -/
def Direction.unitKind : Direction → UnitKind
  | .read => .readers
  | .write => .writers

namespace Generated

/-- The proxies and handlers. -/
def bindings (g : Generated) : List CodeUnit :=
  g.units.filter fun u => u.kind = .proxy ∨ u.kind = .handler

/-- The collection of the routines in a direction. -/
def routines (g : Generated) (d : Direction) : Code :=
  (g.units.filter fun u => u.kind = d.unitKind).flatMap (·.code)

end Generated

theorem kind_of_mem_unitsOf {rt : String} {r : ResolvedInterface} {mode : Mode} {u : CodeUnit}
    (h : u ∈ unitsOf rt r mode) : u.kind = .proxy ∨ u.kind = .handler := by
  rw [unitsOf_eq_append] at h
  rcases List.mem_append.1 h with hu | hu
  · split at hu
    · exact .inl (List.mem_singleton.1 hu ▸ rfl)
    · cases hu
  · split at hu
    · exact .inr (List.mem_singleton.1 hu ▸ rfl)
    · cases hu

theorem bindings_generate :
    (generate documents crate).bindings =
      (resolved (merge documents)).flatMap fun r => unitsOf (runtimePath crate) r.1 r.2 := by
  have hkept : ∀ u ∈ (resolved (merge documents)).flatMap fun r =>
      unitsOf (runtimePath crate) r.1 r.2, u.kind = .proxy ∨ u.kind = .handler := by
    intro u hu
    obtain ⟨r, -, hu⟩ := List.mem_flatMap.1 hu
    exact kind_of_mem_unitsOf hu
  rw [Generated.bindings, units_generate, List.filter_append,
    List.filter_eq_self.2 fun u hu => decide_eq_true (hkept u hu)]
  exact List.append_nil _

theorem routines_generate (d : Direction) :
    (generate documents crate).routines d =
      (requested documents crate).code (runtimePath crate) d := by
  have hdropped : ((resolved (merge documents)).flatMap fun r =>
      unitsOf (runtimePath crate) r.1 r.2).filter (fun u => u.kind = d.unitKind) = [] := by
    rw [List.filter_eq_nil_iff]
    intro u hu
    obtain ⟨r, -, hu⟩ := List.mem_flatMap.1 hu
    rcases kind_of_mem_unitsOf hu with h | h <;> cases d <;> simp [h, Direction.unitKind]
  rw [Generated.routines, units_generate, List.filter_append, hdropped]
  cases d <;> simp [Direction.unitKind]

end DBus.Bindings

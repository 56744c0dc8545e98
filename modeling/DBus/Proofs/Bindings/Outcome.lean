import DBus.Proofs.Bindings.Generated
import DBus.Proofs.Bindings.Merging
import DBus.Proofs.Bindings.Resolve

/-!
# What becomes of each interface

The interfaces of the documents are taken in the order in which they appear first, each with its
first definition and the modes of all the documents that declare it, and those without a mode are
passed over. Each of the others adds its units, or one error and no unit when a signature spells no
type: the error of the first such signature. The routines follow all units.
-/

namespace DBus.Bindings

open List (Forall₂)

/-! ### The first signature that is wrong -/

/-- The signatures of an interface, each with the member that has it: those of methods, with inputs
before outputs, then of signals, then of properties. -/
def Interface.spellings (i : Interface) : List (String × String) :=
  i.methods.flatMap (fun m => (m.inputs ++ m.outputs).map fun a => (m.name, a.signature))
    ++ i.signals.flatMap (fun g => g.arguments.map fun a => (g.name, a.signature))
    ++ i.properties.map fun p => (p.name, p.signature)

namespace Resolve

variable {interface : String}

/-- The error of the first signature of some members that spells no type. -/
def firstFailure (interface : String) (spellings : List (String × String)) :
    Option BindingError :=
  spellings.findSome? fun s => failure? (typeOf interface s.1 s.2)

theorem firstFailure_append (ss ss' : List (String × String)) :
    firstFailure interface (ss ++ ss')
      = (firstFailure interface ss).or (firstFailure interface ss') :=
  List.findSome?_append

theorem firstFailure_cons (s : String × String) (ss : List (String × String)) :
    firstFailure interface (s :: ss) =
      (failure? (typeOf interface s.1 s.2)).or (firstFailure interface ss) := by
  rw [firstFailure, List.findSome?_cons]
  cases failure? (typeOf interface s.1 s.2) <;> rfl

theorem failure?_typeOf {member spelling : String} {e : BindingError} :
    failure? (typeOf interface member spelling) = some e ↔
      ∃ cause, Ty.parse spelling = .error cause ∧
        e = .signature interface member spelling cause := by
  unfold typeOf
  split
  · next t ht => simp [failure?, ht]
  · next cause hc => simp [failure?, hc, eq_comm]

/-- How the arguments of a member are named has no part in whether they are resolved. -/
theorem failure?_arguments (member : String) (args : List Argument) (index : Nat) (s : Scope) :
    failure? (arguments interface member index s args) =
      firstFailure interface (args.map fun a => (member, a.signature)) := by
  induction args generalizing index s with
  | nil => rfl
  | cons a args ih =>
    rw [arguments, List.map_cons, firstFailure_cons]
    refine failure?_bind fun t => ?_
    rw [failure?_bind (o := none) fun _ => rfl, ih, Option.or_none]

theorem failure?_methods (ms : List Method) (s : Scopes) :
    failure? (methods interface s ms) = firstFailure interface
      (ms.flatMap fun m => (m.inputs ++ m.outputs).map fun a => (m.name, a.signature)) := by
  induction ms generalizing s with
  | nil => rfl
  | cons m ms ih =>
    rw [methods, List.flatMap_cons, List.map_append, List.append_assoc, firstFailure_append,
      ← failure?_arguments m.name m.inputs 0 .ofArguments]
    refine failure?_bind fun inputs => ?_
    rw [firstFailure_append, ← failure?_arguments m.name m.outputs 0 inputs.2]
    refine failure?_bind fun outputs => ?_
    rw [failure?_bind (o := none) fun _ => rfl, ih, Option.or_none]

theorem failure?_signals (snakeName : String) (gs : List Signal) (s : Scopes) :
    failure? (signals interface snakeName s gs) = firstFailure interface
      (gs.flatMap fun g => g.arguments.map fun a => (g.name, a.signature)) := by
  induction gs generalizing s with
  | nil => rfl
  | cons g gs ih =>
    rw [signals, List.flatMap_cons, firstFailure_append,
      ← failure?_arguments g.name g.arguments 0 .ofArguments]
    refine failure?_bind fun args => ?_
    rw [failure?_bind (o := none) fun _ => rfl, ih, Option.or_none]

theorem failure?_properties (ps : List Property) (s : Scopes) :
    failure? (properties interface s ps) =
      firstFailure interface (ps.map fun p => (p.name, p.signature)) := by
  induction ps generalizing s with
  | nil => rfl
  | cons p ps ih =>
    rw [properties, List.map_cons, firstFailure_cons]
    refine failure?_bind fun t => ?_
    rw [failure?_bind (o := none) fun _ => rfl, ih, Option.or_none]

end Resolve

/-- An interface fails like the first of its signatures that spells no type. -/
theorem failure?_resolve (i : Interface) :
    failure? (resolve i) = Resolve.firstFailure i.name i.spellings := by
  rw [resolve, Interface.spellings, List.append_assoc, Resolve.firstFailure_append,
    ← Resolve.failure?_methods i.methods {}]
  refine failure?_bind fun ms => ?_
  rw [Resolve.firstFailure_append, ← Resolve.failure?_signals (snakeCase (typeName i.name)) _ ms.2]
  refine failure?_bind fun gs => ?_
  rw [failure?_bind (o := none) fun _ => rfl, Resolve.failure?_properties, Option.or_none]

theorem resolve_eq_error_iff {i : Interface} {e : BindingError} :
    resolve i = .error e ↔ ∃ before s after cause, i.spellings = before ++ s :: after ∧
      (∀ b ∈ before, ∃ t, Ty.parse b.2 = .ok t) ∧ Ty.parse s.2 = .error cause ∧
        e = .signature i.name s.1 s.2 cause := by
  have hgood : ∀ s : String × String, failure? (Resolve.typeOf i.name s.1 s.2) = none ↔
      ∃ t, Ty.parse s.2 = .ok t := by
    intro s
    rw [failure?_eq_none_iff]
    exact exists_congr fun t => Resolve.typeOf_eq_ok_iff
  rw [← failure?_eq_some_iff, failure?_resolve, Resolve.firstFailure, List.findSome?_eq_some_iff]
  constructor
  · rintro ⟨before, s, after, hs, hfail, hbefore⟩
    obtain ⟨cause, hcause, rfl⟩ := Resolve.failure?_typeOf.1 hfail
    exact ⟨before, s, after, cause, hs, fun b hb => (hgood b).1 (hbefore b hb), hcause, rfl⟩
  · rintro ⟨before, s, after, cause, hs, hbefore, hcause, rfl⟩
    exact ⟨before, s, after, hs, Resolve.failure?_typeOf.2 ⟨cause, hcause, rfl⟩,
      fun b hb => (hgood b).2 (hbefore b hb)⟩

theorem spells_of_resolve {i : Interface} {r : ResolvedInterface} (h : resolve i = .ok r) :
    ∀ s ∈ i.spellings, ∃ t, Ty.parse s.2 = .ok t := by
  have hnone : Resolve.firstFailure i.name i.spellings = none := by
    rw [← failure?_resolve, h]
    rfl
  intro s hs
  obtain ⟨t, ht⟩ := failure?_eq_none_iff.1 (List.findSome?_eq_none_iff.1 hnone s hs)
  exact ⟨t, Resolve.typeOf_eq_ok_iff.1 ht⟩

/-! ### What an interface adds -/

/-- The units of an interface in a mode: its proxy and its handler, where the mode has them. The
struct of properties stands at the beginning of the first of them, if there are properties. -/
def unitsFor (rt : String) (r : ResolvedInterface) (mode : Mode) : List CodeUnit :=
  let struct := if r.properties = [] then [] else (PropertiesStruct.code rt r).result
  let proxy (first : Code) : CodeUnit :=
    ⟨r.typeName ++ "Proxy", .proxy, first ++ (Proxy.code rt r).result⟩
  let handler (first : Code) : CodeUnit :=
    ⟨r.typeName ++ "Handler", .handler, first ++ (Handler.code rt r).result⟩
  match mode.meets .proxy, mode.meets .handler with
  | true, true => [proxy struct, handler []]
  | true, false => [proxy struct]
  | false, true => [handler struct]
  | false, false => []

theorem unitsOf_eq (rt : String) (r : ResolvedInterface) (mode : Mode) :
    Generate.unitsOf rt r mode = unitsFor rt r mode := by
  rw [Generate.unitsOf_eq_append]
  unfold unitsFor Generate.propertiesCode
  cases mode.meets .proxy <;> cases mode.meets .handler <;> cases r.properties <;> rfl

/-- The units and errors that an interface with a mode adds. -/
inductive Adds (rt : String) (e : Interface × Mode) : List CodeUnit × List BindingError → Prop
  /-- Where all signatures spell types, it adds its units. -/
  | units {r : ResolvedInterface} (spell : ∀ s ∈ e.1.spellings, ∃ t, Ty.parse s.2 = .ok t)
      (resolved : resolve e.1 = .ok r) : Adds rt e (unitsFor rt r e.2, [])
  /-- Otherwise it adds an error that names it and the first signature that spells none. -/
  | error {before after : List (String × String)} {s : String × String} {cause : SignatureError}
      (walk : e.1.spellings = before ++ s :: after)
      (spell : ∀ b ∈ before, ∃ t, Ty.parse b.2 = .ok t) (first : Ty.parse s.2 = .error cause) :
      Adds rt e ([], [.signature e.1.name s.1 s.2 cause])

/-- What generation adds for an interface with a mode. -/
def added (rt : String) (e : Interface × Mode) : List CodeUnit × List BindingError :=
  match resolve e.1 with
  | .ok r => (unitsFor rt r e.2, [])
  | .error err => ([], [err])

theorem adds_added (rt : String) (e : Interface × Mode) : Adds rt e (added rt e) := by
  cases h : resolve e.1 with
  | ok r =>
    rw [added, h]
    exact .units (spells_of_resolve h) h
  | error err =>
    obtain ⟨before, s, after, cause, hs, hbefore, hcause, rfl⟩ := resolve_eq_error_iff.1 h
    rw [added, h]
    exact .error hs hbefore hcause

theorem flatMap_added (rt : String) (merged : List (Interface × Mode)) :
    (Generate.resolved merged).flatMap (fun r => Generate.unitsOf rt r.1 r.2) =
        ((merged.filter fun e => !e.2.isEmpty).map (added rt)).flatMap (·.1) ∧
      Generate.refused merged =
        ((merged.filter fun e => !e.2.isEmpty).map (added rt)).flatMap (·.2) := by
  induction merged with
  | nil => exact ⟨rfl, rfl⟩
  | cons e merged ih =>
    obtain ⟨hunits, herrors⟩ := ih
    rw [Generate.resolved, Generate.refused, List.filterMap_cons, List.filterMap_cons,
      ← Generate.resolved, ← Generate.refused]
    by_cases hmode : e.2.isEmpty
    · simp [hmode, hunits, herrors]
    · cases hr : resolve e.1 with
      | ok r => simp [hmode, hr, hunits, herrors, added, ← unitsOf_eq]
      | error err => simp [hmode, hr, hunits, herrors, added]

/-! ### All interfaces -/

/-- The interfaces that have a mode, in the order in which they appear first, each with its first
definition and the modes of all documents that declare it. -/
def wanted (documents : List (Document × Mode)) : List (Interface × Mode) :=
  ((interfaceNames documents).filterMap fun name =>
    (firstDefinition documents name).map fun i => (i, unitedMode documents name)).filter
      fun e => !e.2.isEmpty

/-- What is generated is what the interfaces with a mode add one after the other, and behind the
units the routines that are read with and those that are written with. -/
theorem generate_eq_added (documents : List (Document × Mode)) (crate : String) :
    ∃ parts, Forall₂ (Adds (runtimePath crate)) (wanted documents) parts ∧
      (generate documents crate).units = parts.flatMap (·.1) ++
        [⟨"readers", .readers, (requested documents crate).code (runtimePath crate) .read⟩,
          ⟨"writers", .writers, (requested documents crate).code (runtimePath crate) .write⟩] ∧
      (generate documents crate).errors = parts.flatMap (·.2) := by
  have hwanted : (merge documents).filter (fun e => !e.2.isEmpty) = wanted documents := by
    rw [merge_eq, wanted]
  obtain ⟨hunits, herrors⟩ := flatMap_added (runtimePath crate) (merge documents)
  rw [hwanted] at hunits herrors
  refine ⟨(wanted documents).map (added (runtimePath crate)), ?_, ?_, ?_⟩
  · rw [List.forall₂_map_right_iff, List.forall₂_same]
    exact fun e _ => adds_added _ e
  · rw [units_generate, hunits]
  · rw [errors_generate, herrors]

end DBus.Bindings

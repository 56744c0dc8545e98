import DBus.Object.Script
import DBus.Proofs.Object.Conversation

/-!
# Handlers that keep their properties

What is asked of a handler so that its properties are variables: one that is set has that value from
then on, and setting it has no effect on the others. Scripts are such handlers.
-/

namespace DBus

open InterfaceHandler (interface getProperty setProperty)

variable {H : Type} [InterfaceHandler H]

/-- What a handler becomes when one of its properties is set: that property is read as the value, if
it can be read, and the others are what they were. -/
structure PropertySet (h h' : H) (name : String) (value : Value) : Prop where
  interface_eq : interface h' = interface h
  stored : ∀ talk v, (getProperty h' name).Ends talk (.ok v) → v = value
  others : ∀ other, other ≠ name → getProperty h' other = getProperty h other

/-- Handlers that store a value when the setting of a property succeeds, and change nothing when it
fails. -/
structure KeepsProperties (H : Type) [InterfaceHandler H] : Prop where
  failed : ∀ {h h' : H} {name value talk fault},
    (setProperty h name value).Ends talk (.error fault, h') → h' = h
  succeeded : ∀ {h h' : H} {name value talk},
    (setProperty h name value).Ends talk (.ok (), h') → PropertySet h h' name value

/-- A property can be read: the reading of it does not fail. -/
def Readable (h : H) (name : String) : Prop :=
  ∀ talk fault, ¬(getProperty h name).Ends talk (.error fault)

/-! ### Scripts -/

namespace Script

variable {s changed : Script} {name : String} {value : Value}

/-- A script whose property has been set: the entries with that name have the value. -/
theorem property?_of_withProperty (h : s.withProperty name value = .ok changed) (other : String) :
    changed.interface = s.interface ∧
      changed.property? other = (s.property? other).map fun p =>
        if p.name == name then { p with value := some value } else p := by
  unfold withProperty at h
  split at h
  · cases h
  · split at h
    · cases h
    · split at h
      · cases h
      · cases h
        refine ⟨rfl, ?_⟩
        have hname : (fun p : ScriptProperty => p.name == other) ∘
            (fun p => if p.name == name then { p with value := some value } else p)
              = fun p => p.name == other := by
          funext p
          simp only [Function.comp]
          split <;> rfl
        rw [property?, property?, List.find?_map, hname]

theorem getProperty_of_withProperty (h : s.withProperty name value = .ok changed) :
    (∀ v, changed.getProperty name = .ok v → v = value) ∧
      ∀ other, other ≠ name → changed.getProperty other = s.getProperty other := by
  have hproperty := fun other => (property?_of_withProperty h other).2
  refine ⟨fun v hv => ?_, fun other hne => ?_⟩
  · rw [getProperty, hproperty] at hv
    cases hp : s.property? name with
    | none =>
      rw [hp] at hv
      cases hv
    | some p =>
      have hpname := List.find?_some hp
      rw [hp] at hv
      simp only [Option.map_some, hpname, if_true] at hv
      split at hv
      · cases hv
      · exact (Except.ok.inj hv).symm
  · rw [getProperty, getProperty, hproperty]
    cases hp : s.property? other with
    | none => rfl
    | some p =>
      have hpother := List.find?_some hp
      have hskip : (p.name == name) = false := by
        rw [eq_of_beq hpother]
        exact beq_false_of_ne hne
      simp only [Option.map_some, hskip, Bool.false_eq_true, if_false]

theorem ends_setProperty_iff {talk : List (Talk Script)} {outcome : Except Fault Unit} :
    (InterfaceHandler.setProperty s name value).Ends talk (outcome, changed) ↔
      talk = [] ∧ s.setProperty name value = (outcome, changed) :=
  Session.ends_pure_iff

theorem ends_getProperty_iff {talk : List (Talk Script)} {outcome : Except Fault Value} :
    (InterfaceHandler.getProperty s name).Ends talk outcome ↔
      talk = [] ∧ s.getProperty name = outcome :=
  Session.ends_pure_iff

/-- Scripts keep their properties. -/
theorem keepsProperties : KeepsProperties Script where
  failed {s changed name value talk fault} h := by
    obtain ⟨-, h⟩ := ends_setProperty_iff.1 h
    unfold setProperty at h
    split at h <;> cases h
    rfl
  succeeded {s changed name value talk} h := by
    obtain ⟨-, h⟩ := ends_setProperty_iff.1 h
    unfold setProperty at h
    split at h
    · next script hscript =>
      cases h
      obtain ⟨hvalue, hothers⟩ := getProperty_of_withProperty hscript
      refine ⟨(property?_of_withProperty hscript name).1, fun talk v hv => ?_, fun other hne => ?_⟩
      · exact hvalue v (ends_getProperty_iff.1 hv).2
      · exact congrArg pure (hothers other hne)
    · cases h

end Script

end DBus

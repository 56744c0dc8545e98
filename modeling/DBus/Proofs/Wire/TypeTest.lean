import DBus.Wire.Boxed

/-!
# The test of a type

Elements are stored only if they are of the type that their array declares. The test looks at a value
and a tree at the same time and builds no type on the way, but it says yes just when the tree is the
type that the value has (`hasType_iff`), also when no signature can spell that tree.
-/

namespace DBus

namespace Value

mutual

/-- A value is of the type that it has, and of no other. -/
theorem hasType_iff : ∀ {v : Value} {t : Ty}, v.hasType t = true ↔ v.ty = t
  | .byte _, t | .boolean _, t | .int16 _, t | .uint16 _, t | .int32 _, t | .uint32 _, t
  | .int64 _, t | .uint64 _, t | .double _, t | .string _, t | .objectPath _, t
  | .signature _, t | .unixFd _, t | .variant _, t => by
    cases t <;> simp [hasType, ty]
  | .array element _, t => by
    cases t <;> simp [hasType, ty, eq_comm]
  -- A dict is tested against the two types inside the element of an array.
  | .dict k v _, t => by
    cases t with
    | array element =>
      cases element with
      | entry k' v' =>
        rw [hasType, ty, Bool.and_eq_true, decide_eq_true_iff, decide_eq_true_iff,
          Ty.array.injEq, Ty.entry.injEq]
        exact and_congr eq_comm eq_comm
      | _ => simp [hasType, ty]
    | _ => simp [hasType, ty]
  | .struct fields, t => by
    cases t with
    | struct types => rw [hasType, haveTypes_iff, ty, Ty.struct.injEq]
    | _ => simp [hasType, ty]

theorem haveTypes_iff : ∀ {vs : List Value} {ts : List Ty}, haveTypes vs ts = true ↔ tys vs = ts
  | [], [] => by simp [haveTypes, tys]
  | [], _ :: _ => by simp [haveTypes, tys]
  | _ :: _, [] => by simp [haveTypes, tys]
  | v :: vs, t :: ts => by
    rw [haveTypes, Bool.and_eq_true, hasType_iff, haveTypes_iff, tys, List.cons.injEq]

end

theorem ty_of_hasType {v : Value} {t : Ty} (h : v.hasType t = true) : v.ty = t :=
  hasType_iff.1 h

/-- Values are tested in pairs, if there are as many of them as there are types. -/
theorem haveTypes_eq_zip : ∀ (vs : List Value) (ts : List Ty),
    haveTypes vs ts = (vs.length == ts.length && (vs.zip ts).all fun p => p.1.hasType p.2)
  | [], [] => rfl
  | [], t :: ts => by simp [haveTypes]
  | v :: vs, [] => by simp [haveTypes]
  | v :: vs, t :: ts => by
    have hlength : ((v :: vs).length == (t :: ts).length) = (vs.length == ts.length) := by simp
    rw [haveTypes, haveTypes_eq_zip vs ts, hlength, List.zip_cons_cons, List.all_cons,
      Bool.and_left_comm]

theorem checkType_apply (v : Value) (t : Ty) (w : Writer) :
    Write.checkType v t w
      = if v.ty = t then .ok () w else .error (.invalidVariant t.signature) w := by
  by_cases h : v.hasType t = true
  · rw [if_pos (hasType_iff.1 h), Write.checkType, if_pos h]
    rfl
  · rw [if_neg (mt hasType_iff.2 h), Write.checkType, if_neg h]
    rfl

/-- The test of a type says yes just when a value has the type, whatever tree it is asked about. Of
structs it tests the fields in pairs, and none may be left over on either side. The check before an
element is stored lets it pass just when it has the type of the elements; otherwise it names that
type, and changes nothing. -/
theorem hasType_exact :
    (∀ (v : Value) (t : Ty), v.hasType t = true ↔ v.ty = t) ∧
    (∀ (vs : List Value) (ts : List Ty), (Value.struct vs).hasType (.struct ts)
      = (vs.length == ts.length && (vs.zip ts).all fun p => p.1.hasType p.2)) ∧
    ∀ (v : Value) (t : Ty) (w : Writer), Write.checkType v t w
      = if v.ty = t then .ok () w else .error (.invalidVariant t.signature) w := by
  refine ⟨fun v t => hasType_iff, fun vs ts => ?_, checkType_apply⟩
  rw [hasType, haveTypes_eq_zip]

end Value

end DBus

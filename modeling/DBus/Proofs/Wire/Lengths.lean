import DBus.Proofs.Wire.Marshalling
import DBus.Proofs.Wire.Storing

/-!
# Where values end

A value that begins earlier in a body also ends earlier, or at the same place: there is more padding
at some positions than at others, but never so much more that it makes up for the distance. And a
body into which a value has been written is not too long. So what could be written somewhere can be
written further in front, unless an array becomes too long there.
-/

namespace DBus

namespace Layout

/-- A layout does not end earlier if it begins later. -/
def Grows (l : Layout) : Prop :=
  ∀ (order order' : ByteOrder) {pos pos' : Nat}, pos ≤ pos' →
    pos + l.size order pos ≤ pos' + l.size order' pos'

/-- Padding leads to the next multiple, so never past one. -/
theorem add_paddingTo_le (align : Nat) {pos pos' : Nat} (h : pos ≤ pos') :
    pos + paddingTo align pos ≤ pos' + paddingTo align pos' := by
  rcases Nat.eq_zero_or_pos align with rfl | halign
  · simp only [paddingTo, Nat.mod_zero, Nat.zero_sub]
    omega
  · obtain ⟨a, ha⟩ := dvd_add_paddingTo halign pos
    obtain ⟨b, hb⟩ := dvd_add_paddingTo halign pos'
    have hlt : paddingTo align pos < align := Nat.mod_lt _ halign
    by_contra hgt
    have hba : b + 1 ≤ a := by
      refine Nat.lt_of_mul_lt_mul_left (a := align) ?_
      omega
    have hmul := Nat.mul_le_mul_left align hba
    rw [Nat.mul_add, Nat.mul_one] at hmul
    omega

theorem firstElement_le (align : Nat) {pos pos' : Nat} (h : pos ≤ pos') :
    firstElement align pos ≤ firstElement align pos' :=
  add_paddingTo_le align (Nat.add_le_add_right (add_paddingTo_le 4 h) 4)

theorem Grows.fixed (bs : List UInt8) : (fixed bs).Grows :=
  fun _ _ _ _ h => Nat.add_le_add_right h bs.length

theorem Grows.padding (align : Nat) : (padding align).Grows := by
  intro order order' pos pos' h
  rw [size_padding, size_padding]
  exact add_paddingTo_le align h

theorem Grows.append {l m : Layout} (hl : l.Grows) (hm : m.Grows) : (l ++ m).Grows := by
  intro order order' pos pos' h
  rw [size_append, size_append, ← Nat.add_assoc, ← Nat.add_assoc]
  exact hm order order' (hl order order' h)

theorem Grows.number (width n : Nat) : (number width n).Grows := by
  refine (Grows.padding width).append ?_
  intro order order' pos pos' h
  rw [size_encoded, size_encoded]
  exact Nat.add_le_add_right h width

theorem Grows.text (width : Nat) (s : String) : (text width s).Grows :=
  (Grows.number _ _).append (Grows.fixed _)

theorem Grows.array (align : Nat) {elements : Layout} (h : elements.Grows) :
    (array align elements).Grows := by
  intro order order' pos pos' hle
  rw [size_array, size_array, ← Nat.add_assoc, ← Nat.add_assoc, size_array_head, size_array_head]
  exact h order order' (firstElement_le align hle)

end Layout

namespace Value

open Layout

mutual

theorem grows_layout : ∀ v : Value, v.layout.Grows
  | .byte _ | .boolean _ | .int16 _ | .uint16 _ | .int32 _ | .uint32 _ | .int64 _ | .uint64 _
  | .double _ | .unixFd _ => Grows.number _ _
  | .string _ | .objectPath _ | .signature _ => Grows.text _ _
  | .variant payload => (Grows.text _ _).append (grows_layout payload)
  | .array _ vs => Grows.array _ (grows_layouts vs)
  | .dict _ _ es => Grows.array _ (grows_entryLayouts es)
  | .struct fields => (Grows.padding _).append (grows_layouts fields)

theorem grows_layouts : ∀ vs : List Value, (layouts vs).Grows
  | [] => Grows.fixed _
  | v :: vs => (grows_layout v).append (grows_layouts vs)

theorem grows_entryLayouts : ∀ es : List (Value × Value), (entryLayouts es).Grows
  | [] => Grows.fixed _
  | (a, b) :: es =>
    (((Grows.padding _).append (grows_layout a)).append (grows_layout b)).append
      (grows_entryLayouts es)

end

end Value

namespace Write

open Writer Layout

variable {w w' : Writer}

/-- An array leaves a body that is not too long, if its elements do. -/
theorem length_le_of_array {align : Nat} {body : Write Unit} {elements : Layout}
    (h : (arrayStart align >>= fun a => body >>= fun _ => arrayEnd a) w = .ok () w')
    (hbody : ∀ {w₁ w₂}, body w₁ = .ok () w₂ → w₂ = w₁.append elements)
    (hle : ∀ {w₁ w₂}, body w₁ = .ok () w₂ → w₁.length ≤ maxBodyLength →
      w₂.length ≤ maxBodyLength) :
    w'.length ≤ maxBodyLength := by
  obtain ⟨hw', -⟩ := array_ok h hbody
  obtain ⟨a, w₁, hstart, h⟩ := bind_apply_eq_ok_iff.1 h
  obtain ⟨_, w₂, helements, -⟩ := bind_apply_eq_ok_iff.1 h
  obtain ⟨⟨rfl, -⟩, hfirst⟩ := arrayStart_eq_ok_iff.1 hstart
  have hlength : (w.append (openArray align)).length = firstElement align w.length := by
    rw [length_append, size_openArray]
  have hend := hle helements (hlength ▸ hfirst)
  rw [hbody helements, length_append, hlength, order_append] at hend
  rw [hw', length_append, size_array, ← Nat.add_assoc, size_array_head]
  exact hend

/-- An array whose elements are written but take too many bytes is refused when it ends. -/
theorem array_error {align : Nat} {body : Write Unit} {elements : Layout}
    (hbody : Writes w.order (firstElement align w.length) body elements)
    (hroom : firstElement align w.length + elements.size w.order (firstElement align w.length)
      ≤ maxBodyLength)
    (hlt : maxArrayLength < elements.size w.order (firstElement align w.length)) :
    ∃ w', (arrayStart align >>= fun a => body >>= fun _ => arrayEnd a) w
      = .error (.arrayTooLong (elements.size w.order (firstElement align w.length))) w' := by
  have hlength : (w.append (openArray align)).length = firstElement align w.length := by
    rw [length_append, size_openArray]
  have hstart : arrayStart align w = .ok _ (w.append (openArray align)) :=
    arrayStart_eq_ok_iff.2 ⟨⟨rfl, rfl⟩, by omega⟩
  have helements := hbody (w.append (openArray align)) rfl hlength hroom
  have hsize : ((w.append (openArray align)).append elements).length - firstElement align w.length
      = elements.size w.order (firstElement align w.length) := by
    rw [length_append, hlength, order_append, Nat.add_sub_cancel_left]
  refine ⟨(w.append (openArray align)).append elements, ?_⟩
  rw [bind_apply_of_ok hstart, bind_apply_of_ok helements, arrayEnd, bind_apply_of_ok get_eq]
  dsimp only
  rw [hsize, if_pos hlt]
  rfl

mutual

/-- A value of a type that a signature can spell leaves a body that is not too long. -/
theorem length_le_of_value : ∀ {v : Value} {w w' : Writer}, v.ty.isShaped = true →
    value v w = .ok () w' → w'.length ≤ maxBodyLength
  | .byte _, _, _, _, h | .boolean _, _, _, _, h | .int16 _, _, _, _, h | .uint16 _, _, _, _, h
  | .int32 _, _, _, _, h | .uint32 _, _, _, _, h | .int64 _, _, _, _, h | .uint64 _, _, _, _, h
  | .double _, _, _, _, h | .unixFd _, _, _, _, h => (number_eq_ok_iff.1 h).2
  | .string _, _, _, _, h | .objectPath _, _, _, _, h => (string_eq_ok_iff.1 h).1.2
  | .signature _, _, _, _, h => (text_eq_ok_iff.1 h).2
  | .variant payload, _, _, _, h => by
    obtain ⟨_, w₁, h₁, h₂⟩ := bind_apply_eq_ok_iff.1 h
    obtain ⟨-, hsig⟩ := typeOf_eq_ok_iff.1 h₁
    exact length_le_of_value (Read.parse_spelling hsig).2.shaped h₂
  | .array element vs, _, _, hshape, h =>
    length_le_of_array h (fun h => (elements_ok h).1)
      fun h hle => length_le_of_elements (Ty.isShaped_of_array hshape) h hle
  | .dict k v es, _, _, hshape, h => by
    obtain ⟨-, hv⟩ := Read.shaped_of_dict hshape
    exact length_le_of_array h (fun h => (entries_ok h).1)
      fun h hle => length_le_of_entries hv h hle
  | .struct fields, _, _, hshape, h => by
    obtain ⟨_, w₁, -, h⟩ := bind_apply_eq_ok_iff.1 h
    rw [Value.ty, Ty.isShaped, Bool.and_eq_true] at hshape
    refine length_le_of_values hshape.2 h (.inl ?_)
    rintro rfl
    simp [Value.tys] at hshape

/-- So do several values, if there is at least one or the body was not too long before. -/
theorem length_le_of_values : ∀ {vs : List Value} {w w' : Writer},
    Ty.areShaped (Value.tys vs) = true → values vs w = .ok () w' →
    vs ≠ [] ∨ w.length ≤ maxBodyLength → w'.length ≤ maxBodyLength
  | [], _, _, _, h, hle => by
    cases h
    exact hle.resolve_left (not_not_intro rfl)
  | v :: vs, _, _, hshape, h, _ => by
    rw [Value.tys, Ty.areShaped, Bool.and_eq_true] at hshape
    obtain ⟨_, w₁, hv, hvs⟩ := bind_apply_eq_ok_iff.1 h
    exact length_le_of_values hshape.2 hvs (.inr (length_le_of_value hshape.1 hv))

theorem length_le_of_elements {element : Ty} : ∀ {vs : List Value} {w w' : Writer},
    (element.isShaped = true ∨ ∃ k v, element = .entry k v ∧ k.isBasic = true ∧ v.isShaped = true) →
    elements element vs w = .ok () w' → w.length ≤ maxBodyLength → w'.length ≤ maxBodyLength
  | [], _, _, _, h, hle => by
    cases h
    exact hle
  | a :: vs, _, _, hshape, h, _ => by
    obtain ⟨_, w₁, hcheck, h⟩ := bind_apply_eq_ok_iff.1 h
    obtain ⟨_, w₂, ha, hvs⟩ := bind_apply_eq_ok_iff.1 h
    have hty := Value.ty_of_hasType (checkType_eq_ok_iff.1 hcheck).2
    have hshape' : a.ty.isShaped = true := by
      rcases hshape with helement | ⟨k, v, rfl, -⟩
      · rwa [hty]
      · cases a <;> cases hty
    exact length_le_of_elements hshape hvs (length_le_of_value hshape' ha)

theorem length_le_of_entries {k v : Ty} : ∀ {es : List (Value × Value)} {w w' : Writer},
    v.isShaped = true → entries k v es w = .ok () w' → w.length ≤ maxBodyLength →
    w'.length ≤ maxBodyLength
  | [], _, _, _, h, hle => by
    cases h
    exact hle
  | (a, b) :: es, _, _, hshape, h, _ => by
    obtain ⟨_, w₁, -, h⟩ := bind_apply_eq_ok_iff.1 h
    obtain ⟨_, w₂, hcheck, h⟩ := bind_apply_eq_ok_iff.1 h
    obtain ⟨_, w₃, -, h⟩ := bind_apply_eq_ok_iff.1 h
    obtain ⟨_, w₄, -, h⟩ := bind_apply_eq_ok_iff.1 h
    obtain ⟨_, w₅, hb, hes⟩ := bind_apply_eq_ok_iff.1 h
    have hty := Value.ty_of_hasType (checkType_eq_ok_iff.1 hcheck).2
    exact length_le_of_entries hshape hes (length_le_of_value (hty ▸ hshape) hb)

end

/-- What was written into one body can be written into another that is not longer, if no array of it
becomes too long there. -/
theorem fitsBody_of_value {v : Value} {w₁ : Writer} (hshape : v.ty.isShaped = true)
    (h : value v w = .ok () w') (hle : w₁.length ≤ w.length)
    (hfits : v.Fits w₁.order w₁.length) : v.FitsBody w₁ := by
  refine ⟨hfits, Nat.le_trans (v.grows_layout w₁.order w.order hle) ?_⟩
  have hend := length_le_of_value hshape h
  rwa [(value_ok h).1, length_append] at hend

end Write

end DBus

import DBus.Proofs.Wire.Writing

/-!
# Writing appends

Whether it succeeds or fails on the way, an action leaves the bytes that it finds and adds more behind
them. Only the end of an array goes back: it fills in the four bytes that were kept for the length of
the array, and these stand behind everything that was there when the array was started.
-/

namespace DBus

/-! ### Filling in -/

/-- Patching replaces the bytes that stand where it begins, and no others. -/
theorem Bytes.toList_patch_eq {a : ByteArray} {pos : Nat} {bs : List UInt8}
    (h : pos + bs.length ≤ a.size) :
    (Writer.patch a pos bs).data.toList
      = a.data.toList.take pos ++ bs ++ a.data.toList.drop (pos + bs.length) := by
  rw [← length_toList] at h
  have hsplit : a.data.toList = a.data.toList.take pos ++ (a.data.toList.drop pos).take bs.length
      ++ a.data.toList.drop (pos + bs.length) := by
    rw [List.append_assoc, ← List.drop_drop, List.take_append_drop, List.take_append_drop]
  have hpos : (a.data.toList.take pos).length = pos :=
    List.length_take_of_le (Nat.le_trans (Nat.le_add_right ..) h)
  have hlength : ((a.data.toList.drop pos).take bs.length).length = bs.length := by
    rw [List.length_take, List.length_drop]
    omega
  have hpatch := toList_patch hsplit hlength
  rwa [hpos] at hpatch

namespace Writer

/-- A body with something behind it. -/
structure Extended (w w' : Writer) : Prop where
  order_eq : w'.order = w.order
  bytes_prefix : w.bytes.data.toList <+: w'.bytes.data.toList

variable {w w' w'' : Writer}

theorem Extended.refl (w : Writer) : w.Extended w :=
  ⟨rfl, List.prefix_rfl⟩

theorem Extended.trans (h : w.Extended w') (h' : w'.Extended w'') : w.Extended w'' :=
  ⟨h'.order_eq.trans h.order_eq, h.bytes_prefix.trans h'.bytes_prefix⟩

theorem Extended.length_le (h : w.Extended w') : w.length ≤ w'.length := by
  have hle := h.bytes_prefix.length_le
  rwa [Bytes.length_toList, Bytes.length_toList] at hle

theorem Extended.getElem? (h : w.Extended w') {i : Nat} (hi : i < w.length) :
    w'.bytes.data[i]? = w.bytes.data[i]? := by
  obtain ⟨bs, hbs⟩ := h.bytes_prefix
  rw [← Array.getElem?_toList, ← Array.getElem?_toList, ← hbs, List.getElem?_append_left]
  rwa [Bytes.length_toList]

theorem extended_append (w : Writer) (l : Layout) : w.Extended (w.append l) :=
  ⟨rfl, ⟨_, (w.toList_append l).symm⟩⟩

end Writer

/-! ### Actions that append -/

namespace Write

open Writer Layout

variable {α β : Type}

/-- The body that an action leaves behind, whether it succeeds or fails. -/
def left (x : Write α) (w : Writer) : Writer :=
  match x w with
  | .ok _ w' | .error _ w' => w'

/-- An action that leaves what it finds, and may add something behind it. -/
def Appends (x : Write α) : Prop :=
  ∀ w : Writer, w.Extended (left x w)

section

variable {x : Write α} {f : α → Write β} {w w' : Writer}

theorem left_of_ok {a : α} (h : x w = .ok a w') : left x w = w' := by
  rw [left, h]

theorem left_of_error {e : Error} (h : x w = .error e w') : left x w = w' := by
  rw [left, h]

theorem Appends.of_ok {a : α} (h : Appends x) (hx : x w = .ok a w') : w.Extended w' :=
  left_of_ok hx ▸ h w

theorem Appends.of_error {e : Error} (h : Appends x) (hx : x w = .error e w') : w.Extended w' :=
  left_of_error hx ▸ h w

/-- The second of two actions may count on where the first one ends. -/
theorem Appends.bind_of_ok (hx : Appends x)
    (hf : ∀ w a w', x w = .ok a w' → w.Extended (left (f a) w')) : Appends (x >>= f) := by
  intro w
  cases h : x w with
  | error e w' =>
    rw [left_of_error (bind_apply_of_error h)]
    exact hx.of_error h
  | ok a w' =>
    have hbind : left (x >>= f) w = left (f a) w' := by
      rw [left, left, bind_apply_of_ok h]
    rw [hbind]
    exact hf w a w' h

theorem Appends.bind (hx : Appends x) (hf : ∀ a, Appends (f a)) : Appends (x >>= f) :=
  hx.bind_of_ok fun _ a w' h => (hx.of_ok h).trans (hf a w')

theorem Appends.pure (a : α) : Appends (Pure.pure a : Write α) := Extended.refl

theorem Appends.throw (e : Error) : Appends (throw e : Write α) := Extended.refl

theorem Appends.get : Appends (get : Write Writer) := Extended.refl

end

theorem appends_edit {f : ByteArray → ByteArray}
    (h : ∀ bytes, bytes.data.toList <+: (f bytes).data.toList) : Appends (edit f) :=
  fun w => ⟨rfl, h w.bytes⟩

theorem appends_align (n : Nat) : Appends (align n) :=
  appends_edit fun _ => ⟨_, (Bytes.toList_pushZeros ..).symm⟩

theorem appends_checkLength : Appends checkLength := by
  refine Appends.get.bind fun w => ?_
  dsimp only
  split
  · exact .throw _
  · exact .pure ()

theorem appends_number (width n : Nat) : Appends (number width n) := by
  refine (appends_align width).bind fun _ => Appends.get.bind fun w => ?_
  have hpush : Appends (edit fun bytes => pushAll bytes (w.order.encode width n)) :=
    appends_edit fun _ => ⟨_, (Bytes.toList_pushAll ..).symm⟩
  exact hpush.bind fun _ => appends_checkLength

theorem appends_terminated (text : ByteArray) : Appends (terminated text) := by
  refine Appends.bind (appends_edit fun bytes => ?_) fun _ => appends_checkLength
  rw [Bytes.toList_push, ByteArray.toList_data_append, List.append_assoc]
  exact List.prefix_append ..

theorem appends_string (s : String) : Appends (string s) := by
  unfold string
  dsimp only
  split
  · exact .throw _
  · split
    · exact .throw _
    · exact (appends_number 4 _).bind fun _ => appends_terminated _

theorem appends_signature (s : Signature) : Appends (signature s) :=
  (appends_number 1 _).bind fun _ => appends_terminated _

theorem appends_typeOf (v : Value) : Appends (typeOf v) := by
  unfold typeOf
  split
  · exact appends_signature _
  · exact .throw _

theorem appends_checkType (v : Value) (t : Ty) : Appends (checkType v t) := by
  unfold checkType
  split
  · exact .pure ()
  · exact .throw _

theorem appends_arrayStart (elementAlign : Nat) : Appends (arrayStart elementAlign) := by
  refine (appends_align 4).bind fun _ => Appends.get.bind fun w => ?_
  have hzeros : Appends (edit fun bytes => pushZeros bytes 4) :=
    appends_edit fun _ => ⟨_, (Bytes.toList_pushZeros ..).symm⟩
  refine hzeros.bind fun _ => (appends_align elementAlign).bind fun _ => ?_
  exact appends_checkLength.bind fun _ => Appends.get.bind fun _ => .pure _

end Write

/-! ### The ends of arrays -/

namespace OpenArray

/-- Whether a byte is one of the four that are kept for the length of an array. -/
def Holds (a : OpenArray) (i : Nat) : Prop :=
  a.slot ≤ i ∧ i < a.slot + 4

/-- An array that has been started in a body: its length stands before its elements, and these begin
inside the body. -/
structure Inside (a : OpenArray) (w : Writer) : Prop where
  slot_add_le : a.slot + 4 ≤ a.start
  start_le : a.start ≤ w.length

theorem Inside.extended {a : OpenArray} {w w' : Writer} (h : a.Inside w) (hle : w.length ≤ w'.length) :
    a.Inside w' :=
  ⟨h.slot_add_le, Nat.le_trans h.start_le hle⟩

/-- What a body becomes when an array in it ends: just the slot of the array changes, and holds the
number of bytes behind the start of the elements from then on. -/
structure Filled (a : OpenArray) (w w' : Writer) : Prop where
  order_eq : w'.order = w.order
  length_eq : w'.length = w.length
  getElem?_eq : ∀ i, ¬a.Holds i → w'.bytes.data[i]? = w.bytes.data[i]?
  start_add : a.start + w'.order.decode ((w'.bytes.data.toList.drop a.slot).take 4) = w.length
  le_max : w'.order.decode ((w'.bytes.data.toList.drop a.slot).take 4) ≤ maxArrayLength

end OpenArray

namespace Write

open Writer Layout

variable {a : OpenArray} {w w' : Writer}

/-- An array is started behind everything that is there. -/
theorem inside_of_arrayStart {align : Nat} (h : arrayStart align w = .ok a w') :
    w.length ≤ a.slot ∧ a.Inside w' := by
  obtain ⟨⟨rfl, rfl⟩, -⟩ := arrayStart_eq_ok_iff.1 h
  refine ⟨Nat.le_add_right .., ⟨Nat.le_add_right .., Nat.le_of_eq ?_⟩⟩
  rw [length_append, size_openArray]

/-- An array ends if it is not too long, and then its length is filled in. -/
theorem filled_of_arrayEnd (ha : a.Inside w) (h : arrayEnd a w = .ok () w') : a.Filled w w' := by
  obtain ⟨rfl, hle⟩ := arrayEnd_eq_ok_iff.1 h
  obtain ⟨n, hn⟩ : ∃ n, w.length = a.start + n := Nat.exists_eq_add_of_le ha.start_le
  rw [hn, Nat.add_sub_cancel_left] at hle ⊢
  have hfour : (w.order.encode 4 n).length = 4 := ByteOrder.encode_length ..
  have hroom : a.slot + 4 ≤ w.bytes.size := Nat.le_trans ha.slot_add_le ha.start_le
  have hlist : (patch w.bytes a.slot (w.order.encode 4 n)).data.toList
      = w.bytes.data.toList.take a.slot ++ w.order.encode 4 n
        ++ w.bytes.data.toList.drop (a.slot + 4) := by
    have hpatch := Bytes.toList_patch_eq (hfour.symm ▸ hroom)
    rwa [hfour] at hpatch
  have hslot : (w.bytes.data.toList.take a.slot).length = a.slot := by
    rw [List.length_take_of_le]
    rw [Bytes.length_toList]
    omega
  have hdecode : w.order.decode
      (((patch w.bytes a.slot (w.order.encode 4 n)).data.toList.drop a.slot).take 4) = n := by
    rw [hlist, List.append_assoc, List.drop_left' hslot, List.take_left' hfour]
    exact ByteOrder.decode_encode _ _ _ (Nat.lt_of_le_of_lt hle (by decide))
  refine ⟨rfl, ?_, fun i hi => ?_, ?_, ?_⟩
  · show (patch w.bytes a.slot (w.order.encode 4 n)).size = w.bytes.size
    rw [← Bytes.length_toList, hlist, List.length_append, List.length_append, hslot, hfour,
      List.length_drop, Bytes.length_toList]
    omega
  · rw [← Array.getElem?_toList, ← Array.getElem?_toList, hlist]
    rcases Nat.lt_or_ge i a.slot with hlt | hge
    · rw [List.append_assoc, List.getElem?_append_left (by rwa [hslot]), List.getElem?_take_of_lt hlt]
    · have hbehind : a.slot + 4 ≤ i := Nat.not_lt.1 fun hlt => hi ⟨hge, hlt⟩
      rw [List.getElem?_append_right (by rwa [List.length_append, hslot, hfour]),
        List.length_append, hslot, hfour, List.getElem?_drop, Nat.add_sub_cancel' hbehind]
  · exact (congrArg (a.start + ·) hdecode).trans hn.symm
  · exact Nat.le_trans (Nat.le_of_eq hdecode) hle

/-- An array that does not end is too long, and leaves the body as it was. -/
theorem arrayEnd_error {e : Error} (ha : a.Inside w) (h : arrayEnd a w = .error e w') :
    w' = w ∧ ∃ n, a.start + n = w.length ∧ maxArrayLength < n ∧ e = .arrayTooLong n := by
  unfold arrayEnd at h
  rw [bind_apply_of_ok get_eq] at h
  dsimp only at h
  split at h
  · next hlt =>
    cases h
    exact ⟨rfl, _, Nat.add_sub_cancel' ha.start_le, hlt, rfl⟩
  · cases h

/-- Where an array ends does not matter to what stood before it was started. -/
theorem extended_of_arrayEnd {w₁ : Writer} (ha : a.Inside w₁) (hle : w.length ≤ a.slot)
    (h : w.Extended w₁) : w.Extended (left (arrayEnd a) w₁) := by
  cases hend : arrayEnd a w₁ with
  | error e w₂ =>
    rw [left_of_error hend, (arrayEnd_error ha hend).1]
    exact h
  | ok _ w₂ =>
    have hfilled := filled_of_arrayEnd ha hend
    rw [left_of_ok hend]
    refine ⟨hfilled.order_eq.trans h.order_eq, ?_⟩
    rw [List.prefix_iff_getElem?]
    intro i hi
    rw [Bytes.length_toList] at hi
    have hbefore : ¬a.Holds i := fun hslot => Nat.not_lt.2 (Nat.le_trans hle hslot.1) hi
    rw [Array.getElem?_toList, hfilled.getElem?_eq i hbefore, h.getElem? hi,
      ← Array.getElem?_toList, List.getElem?_eq_getElem]

/-- An array appends if what writes its elements does. -/
theorem Appends.array {align : Nat} {body : Write Unit} (hbody : Appends body) :
    Appends (arrayStart align >>= fun a => body >>= fun _ => arrayEnd a) := by
  refine (appends_arrayStart align).bind_of_ok fun w a w₁ hstart => ?_
  obtain ⟨hslot, ha⟩ := inside_of_arrayStart hstart
  have hextended := (appends_arrayStart align).of_ok hstart
  cases h : body w₁ with
  | error e w₂ =>
    rw [left_of_error (bind_apply_of_error h)]
    exact hextended.trans (hbody.of_error h)
  | ok _ w₂ =>
    have hend : left (body >>= fun _ => arrayEnd a) w₁ = left (arrayEnd a) w₂ := by
      rw [left, left, bind_apply_of_ok h]
    have helements := hbody.of_ok h
    rw [hend]
    exact extended_of_arrayEnd (ha.extended helements.length_le) hslot (hextended.trans helements)

mutual

/-- Writing a value appends, also where it fails on the way. -/
theorem appends_value : ∀ v : Value, Appends (value v)
  | .byte _ | .boolean _ | .int16 _ | .uint16 _ | .int32 _ | .uint32 _ | .int64 _ | .uint64 _
  | .double _ | .unixFd _ => appends_number _ _
  | .string s => appends_string s
  | .objectPath p => appends_string p.text
  | .signature s => appends_signature s
  | .variant payload => (appends_typeOf payload).bind fun _ => appends_value payload
  | .array element vs => (appends_elements element vs).array
  | .dict k v es => (appends_entries k v es).array
  | .struct fields => (appends_align 8).bind fun _ => appends_values fields

theorem appends_values : ∀ vs : List Value, Appends (values vs)
  | [] => .pure ()
  | v :: vs => (appends_value v).bind fun _ => appends_values vs

theorem appends_elements (element : Ty) : ∀ vs : List Value, Appends (elements element vs)
  | [] => .pure ()
  | v :: vs => (appends_checkType v element).bind fun _ =>
    (appends_value v).bind fun _ => appends_elements element vs

theorem appends_entries (k v : Ty) : ∀ es : List (Value × Value), Appends (entries k v es)
  | [] => .pure ()
  | (a, b) :: es => (appends_checkType a k).bind fun _ => (appends_checkType b v).bind fun _ =>
    (appends_align 8).bind fun _ => (appends_value a).bind fun _ =>
      (appends_value b).bind fun _ => appends_entries k v es

end

end Write

end DBus

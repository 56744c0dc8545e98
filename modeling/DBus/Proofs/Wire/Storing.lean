import DBus.Proofs.Wire.Writing

/-!
# What can be written is written

The other half of writing: an action succeeds wherever the body has room for its layout, as long as
the value can be written at all and none of its texts and arrays is too long. So whether a value can
be stored is decided by the value, by the position at which it begins, and by the length of the body.
-/

namespace DBus

/-! ### Paths -/

namespace ObjectPath

theorem zero_not_mem_of_componentsFrom : ∀ {bs : List UInt8} {begun : Bool},
    componentsFrom begun bs = true → 0 ∉ bs
  | [], _, _ => List.not_mem_nil
  | b :: bs, begun, h => by
    rw [componentsFrom] at h
    rw [List.mem_cons, not_or]
    split at h
    · next hb =>
      refine ⟨?_, zero_not_mem_of_componentsFrom h⟩
      rintro rfl
      exact absurd hb (by decide)
    · rw [Bool.and_eq_true, Bool.and_eq_true] at h
      refine ⟨?_, zero_not_mem_of_componentsFrom h.2⟩
      rintro rfl
      exact absurd h.1.1 (by decide)

/-- No path holds a zero. -/
theorem zero_not_mem_utf8 (p : ObjectPath) : 0 ∉ Bytes.utf8 p.text := by
  have hvalid : isValidBytes (Bytes.utf8 p.text) = true := p.valid
  cases hbytes : Bytes.utf8 p.text with
  | nil => exact List.not_mem_nil
  | cons b rest =>
    rw [hbytes, isValidBytes, Bool.and_eq_true, Bool.or_eq_true] at hvalid
    rw [List.mem_cons, not_or]
    refine ⟨?_, ?_⟩
    · rintro rfl
      exact absurd hvalid.1 (by decide)
    · rcases hvalid.2 with hroot | hrest
      · rw [List.isEmpty_iff.1 hroot]
        exact List.not_mem_nil
      · exact zero_not_mem_of_componentsFrom hrest

end ObjectPath

namespace Value

/-- Whether a value can go into a body that has some bytes already: no text and no array of it is too
long, and neither is the body that it makes. -/
structure FitsBody (v : Value) (w : Writer) : Prop where
  fits : v.Fits w.order w.length
  room : w.length + v.layout.size w.order w.length ≤ maxBodyLength

end Value

namespace Write

open Writer Layout

/-! ### Steps -/

/-- An action that appends a layout at a position, if the body has room for it. -/
def Writes (order : ByteOrder) (pos : Nat) (x : Write Unit) (l : Layout) : Prop :=
  ∀ w : Writer, w.order = order → w.length = pos → pos + l.size order pos ≤ maxBodyLength →
    x w = .ok () (w.append l)

section

variable {order : ByteOrder} {pos : Nat} {x : Write Unit} {f : Unit → Write Unit} {l m : Layout}

theorem Writes.nil : Writes order pos (pure ()) (fixed []) := by
  intro w _ _ _
  rw [Writer.append_nil]
  rfl

theorem Writes.bind (hx : Writes order pos x l)
    (hf : Writes order (pos + l.size order pos) (f ()) m) :
    Writes order pos (x >>= f) (l ++ m) := by
  intro w ho hp hroom
  rw [size_append] at hroom
  have hfirst := hx w ho hp (by omega)
  have hlength : (w.append l).length = pos + l.size order pos := by
    rw [length_append, ho, hp]
  rw [bind_apply_of_ok hfirst, ← append_append]
  exact hf (w.append l) ho hlength (by omega)

/-- A check before an action. -/
theorem Writes.check (hx : Writes order pos x (fixed [])) (hf : Writes order pos (f ()) m) :
    Writes order pos (x >>= f) m := by
  have h : Writes order pos (x >>= f) (fixed [] ++ m) := hx.bind hf
  exact h

theorem Writes.align (n : Nat) : Writes order pos (align n) (padding n) :=
  fun _ _ _ _ => align_eq n

theorem Writes.number (width n : Nat) : Writes order pos (number width n) (.number width n) := by
  intro w ho hp hroom
  refine number_eq_ok_iff.2 ⟨rfl, ?_⟩
  rwa [length_append, ho, hp]

theorem Writes.text (width : Nat) (s : String) :
    Writes order pos (Write.number width s.toUTF8.size >>= fun _ => terminated s.toUTF8)
      (.text width s) := by
  intro w ho hp hroom
  refine text_eq_ok_iff.2 ⟨rfl, ?_⟩
  rwa [length_append, ho, hp]

theorem Writes.string {s : String} (hnul : 0 ∉ Bytes.utf8 s) (hlen : s.toUTF8.size < UInt32.size) :
    Writes order pos (string s) (.text 4 s) := by
  intro w ho hp hroom
  refine string_eq_ok_iff.2 ⟨⟨rfl, ?_⟩, hnul, hlen⟩
  rwa [length_append, ho, hp]

theorem Writes.typeOf {v : Value} (h : (Signature.ofString v.spelling).isOk = true) :
    Writes order pos (typeOf v) (.text 1 v.spelling) := by
  intro w ho hp hroom
  refine typeOf_eq_ok_iff.2 ⟨⟨rfl, ?_⟩, h⟩
  rwa [length_append, ho, hp]

theorem Writes.checkType {v : Value} {t : Ty} (h : v.hasType t = true) :
    Writes order pos (checkType v t) (fixed []) := by
  intro w _ _ _
  exact checkType_eq_ok_iff.2 ⟨Writer.append_nil w, h⟩

/-- An array is written if its elements are, and if it is not too long. -/
theorem Writes.array {align : Nat} {body : Write Unit} {elements : Layout}
    (hbody : Writes order (firstElement align pos) body elements)
    (hle : elements.size order (firstElement align pos) ≤ maxArrayLength) :
    Writes order pos (arrayStart align >>= fun a => body >>= fun _ => arrayEnd a)
      (.array align elements) := by
  intro w ho hp hroom
  rw [size_array, ← Nat.add_assoc, size_array_head] at hroom
  obtain rfl := ho
  obtain rfl := hp
  have hlength : (w.append (openArray align)).length = firstElement align w.length := by
    rw [length_append, size_openArray]
  have hstart : arrayStart align w = .ok _ (w.append (openArray align)) :=
    arrayStart_eq_ok_iff.2 ⟨⟨rfl, rfl⟩, by omega⟩
  have helements := hbody (w.append (openArray align)) rfl hlength hroom
  have hsize : ((w.append (openArray align)).append elements).length - firstElement align w.length
      = elements.size w.order (firstElement align w.length) := by
    rw [length_append, hlength, order_append, Nat.add_sub_cancel_left]
  rw [bind_apply_of_ok hstart, bind_apply_of_ok helements]
  refine arrayEnd_eq_ok_iff.2 ⟨ext rfl ?_, hsize.symm ▸ hle⟩
  rw [toList_append, ← toList_patch_openArray, ← append_append, ← hsize]
  rfl

end

/-! ### Values -/

mutual

/-- A value that can be written is written where there is room for it. -/
theorem writes_value {order : ByteOrder} : ∀ {v : Value} {pos : Nat}, v.Storable →
    v.Fits order pos → Writes order pos (value v) v.layout
  | .byte _, _, _, _ | .boolean _, _, _, _ | .int16 _, _, _, _ | .uint16 _, _, _, _
  | .int32 _, _, _, _ | .uint32 _, _, _, _ | .int64 _, _, _, _ | .uint64 _, _, _, _
  | .double _, _, _, _ | .unixFd _, _, _, _ => Writes.number _ _
  | .string _, _, hs, hfit => Writes.string hs hfit
  | .objectPath p, _, _, hfit => Writes.string p.zero_not_mem_utf8 hfit
  | .signature s, _, _, _ => Writes.text 1 s.text
  | .variant payload, _, hs, hfit => (Writes.typeOf hs.1).bind (writes_value hs.2 hfit)
  | .array element vs, _, hs, hfit => Writes.array (writes_elements hs hfit.2) hfit.1
  | .dict k v es, _, hs, hfit => Writes.array (writes_entries hs hfit.2) hfit.1
  | .struct fields, pos, hs, hfit => by
    refine (Writes.align 8).bind ?_
    rw [size_padding]
    exact writes_fields hs hfit

theorem writes_fields {order : ByteOrder} : ∀ {vs : List Value} {pos : Nat},
    Value.FieldsStorable vs → Value.AllFit order pos vs →
    Writes order pos (values vs) (Value.layouts vs)
  | [], _, _, _ => Writes.nil
  | _ :: _, _, hs, hfit => (writes_value hs.1 hfit.1).bind (writes_fields hs.2 hfit.2)

theorem writes_elements {order : ByteOrder} {element : Ty} : ∀ {vs : List Value} {pos : Nat},
    Value.ElementsStorable element vs → Value.AllFit order pos vs →
    Writes order pos (elements element vs) (Value.layouts vs)
  | [], _, _, _ => Writes.nil
  | _ :: _, _, hs, hfit => by
    have hvalue := writes_value hs.2.1 hfit.1
    have hrest := writes_elements hs.2.2 hfit.2
    exact (Writes.checkType hs.1).check (hvalue.bind hrest)

theorem writes_entries {order : ByteOrder} {k v : Ty} : ∀ {es : List (Value × Value)} {pos : Nat},
    Value.EntriesStorable k v es → Value.EntriesFit order pos es →
    Writes order pos (entries k v es) (Value.entryLayouts es)
  | [], _, _, _ => Writes.nil
  | (a, b) :: es, pos, hs, hfit => by
    have hkey := writes_value hs.2.1 hfit.1
    have hvalue := writes_value hs.2.2.1 hfit.2.1
    have hrest := writes_entries hs.2.2.2 hfit.2.2
    rw [size_append, ← Nat.add_assoc] at hvalue hrest
    rw [size_append, ← Nat.add_assoc] at hrest
    rw [Value.entryLayouts, append_assoc, append_assoc]
    refine (Writes.checkType hs.1.1).check ((Writes.checkType hs.1.2).check ?_)
    exact (Writes.align 8).bind (hkey.bind (hvalue.bind hrest))

end

/-- Whether a value is written depends on the value and on what it makes of the body. -/
theorem value_eq_ok {v : Value} {w : Writer} (hs : v.Storable) (hfit : v.FitsBody w) :
    value v w = .ok () (w.append v.layout) :=
  writes_value hs hfit.fits w rfl rfl hfit.room

end Write

end DBus

import DBus.Proofs.Signature.Reading
import DBus.Proofs.Steps
import DBus.Proofs.Wire.Layout

/-!
# Writing appends layouts

What an action leaves behind that succeeds: the body it found, and behind that the layout of what it
wrote. That it succeeds tells that the value can be written and is not too long.
-/

namespace DBus

namespace Writer

/-- A body with something laid out behind it. -/
def append (w : Writer) (l : Layout) : Writer :=
  { w with bytes := w.bytes ++ (l.bytesAt w.order w.length).toByteArray }

section

variable (w : Writer) (l m : Layout)

theorem order_append : (w.append l).order = w.order := rfl

theorem toList_append :
    (w.append l).bytes.data.toList = w.bytes.data.toList ++ l.bytesAt w.order w.length := by
  rw [append, ByteArray.toList_data_append, List.toList_data_toByteArray]

theorem length_append : (w.append l).length = w.length + l.size w.order w.length := by
  show (w.append l).bytes.size = w.length + l.size w.order w.length
  rw [← Bytes.length_toList, toList_append, List.length_append, Bytes.length_toList]
  rfl

end

theorem ext {w w' : Writer} (ho : w.order = w'.order)
    (hb : w.bytes.data.toList = w'.bytes.data.toList) : w = w' := by
  obtain ⟨o, b⟩ := w
  obtain ⟨o', b'⟩ := w'
  obtain rfl : o = o' := ho
  obtain rfl : b = b' := Bytes.ext hb
  rfl

theorem append_append (w : Writer) (l m : Layout) : (w.append l).append m = w.append (l ++ m) := by
  refine ext rfl ?_
  rw [toList_append, toList_append, toList_append, length_append, order_append, List.append_assoc,
    Layout.bytesAt_append]

theorem append_nil (w : Writer) : w.append (.fixed []) = w := by
  refine ext rfl ?_
  rw [toList_append]
  exact List.append_nil _

end Writer

namespace Write

open Writer Layout

variable {w w' : Writer}

theorem edit_eq_append {f : ByteArray → ByteArray} {l : Layout}
    (h : (f w.bytes).data.toList = w.bytes.data.toList ++ l.bytesAt w.order w.length) :
    edit f w = .ok () (w.append l) := by
  have hw : { w with bytes := f w.bytes } = w.append l :=
    ext rfl (by rw [toList_append]; exact h)
  rw [← hw]
  rfl

theorem get_eq : (get : Write Writer) w = .ok w w := rfl

theorem align_eq (n : Nat) : align n w = .ok () (w.append (padding n)) :=
  edit_eq_append (Bytes.toList_pushZeros ..)

theorem checkLength_eq_ok_iff : checkLength w = .ok () w' ↔ w' = w ∧ w.length ≤ maxBodyLength := by
  unfold checkLength
  rw [bind_apply_of_ok get_eq]
  by_cases h : maxBodyLength < w.length
  · rw [if_pos h]
    exact ⟨nofun, fun ⟨_, hle⟩ => absurd h (Nat.not_lt.2 hle)⟩
  · rw [if_neg h]
    constructor
    · rintro ⟨⟩
      exact ⟨rfl, Nat.not_lt.1 h⟩
    · rintro ⟨rfl, -⟩
      rfl

theorem number_eq_ok_iff {width n : Nat} :
    number width n w = .ok () w' ↔
      w' = w.append (.number width n) ∧ w'.length ≤ maxBodyLength := by
  have hpush : edit (fun bytes => pushAll bytes ((w.append (padding width)).order.encode width n))
      (w.append (padding width)) = .ok () (w.append (.number width n)) := by
    rw [Layout.number, ← append_append]
    exact edit_eq_append (Bytes.toList_pushAll ..)
  unfold number
  rw [bind_apply_of_ok (align_eq width), bind_apply_of_ok get_eq, bind_apply_of_ok hpush,
    checkLength_eq_ok_iff]
  exact and_congr_right fun h => by rw [h]

theorem terminated_eq_ok_iff {s : String} :
    terminated s.toUTF8 w = .ok () w' ↔
      w' = w.append (.fixed (Bytes.utf8 s ++ [0])) ∧ w'.length ≤ maxBodyLength := by
  have hpush : edit (fun bytes => (bytes ++ s.toUTF8).push 0) w
      = .ok () (w.append (.fixed (Bytes.utf8 s ++ [0]))) := by
    refine edit_eq_append ?_
    rw [Bytes.toList_push, ByteArray.toList_data_append, List.append_assoc]
    rfl
  unfold terminated
  rw [bind_apply_of_ok hpush, checkLength_eq_ok_iff]
  exact and_congr_right fun h => by rw [h]

/-- A text of some width is written as its layout. -/
theorem text_eq_ok_iff {width : Nat} {s : String} :
    (number width s.toUTF8.size >>= fun _ => terminated s.toUTF8) w = .ok () w' ↔
      w' = w.append (.text width s) ∧ w'.length ≤ maxBodyLength := by
  have happend : (w.append (.number width s.toUTF8.size)).append (.fixed (Bytes.utf8 s ++ [0]))
      = w.append (.text width s) := append_append ..
  rw [bind_apply_eq_ok_iff]
  constructor
  · rintro ⟨_, w₁, h₁, h₂⟩
    obtain ⟨rfl, -⟩ := number_eq_ok_iff.1 h₁
    rwa [terminated_eq_ok_iff, happend] at h₂
  · rintro ⟨rfl, hle⟩
    have hprefix : (w.append (.number width s.toUTF8.size)).length ≤ maxBodyLength := by
      rw [← happend, Writer.length_append] at hle
      omega
    exact ⟨(), _, number_eq_ok_iff.2 ⟨rfl, hprefix⟩, terminated_eq_ok_iff.2 ⟨happend.symm, hle⟩⟩

theorem string_eq_ok_iff {s : String} :
    string s w = .ok () w' ↔
      (w' = w.append (.text 4 s) ∧ w'.length ≤ maxBodyLength) ∧
        0 ∉ Bytes.utf8 s ∧ s.toUTF8.size < UInt32.size := by
  have hclean : hasNul s.toUTF8 s.toUTF8.size = false ↔ 0 ∉ Bytes.utf8 s := by
    rw [Bytes.hasNul_eq_false (Nat.le_refl _), ← Bytes.length_toList, List.take_length]
    rfl
  rw [← hclean, ← Nat.not_le, ← text_eq_ok_iff]
  unfold string
  dsimp only
  cases hasNul s.toUTF8 s.toUTF8.size with
  | true => exact ⟨nofun, fun h => nomatch h.2.1⟩
  | false =>
    by_cases hlen : UInt32.size ≤ s.toUTF8.size
    · simp only [Bool.false_eq_true, if_false, hlen, if_true, not_true, and_false, iff_false]
      exact nofun
    · simp only [Bool.false_eq_true, if_false, hlen, not_false_eq_true, and_true]

theorem signature_ok {s : Signature} (h : signature s w = .ok () w') :
    w' = w.append (.text 1 s.text) :=
  (text_eq_ok_iff.1 h).1

theorem typeOf_eq_ok_iff {v : Value} :
    typeOf v w = .ok () w' ↔
      (w' = w.append (.text 1 v.spelling) ∧ w'.length ≤ maxBodyLength) ∧
        (Signature.ofString v.spelling).isOk = true := by
  unfold typeOf
  cases hs : Signature.ofString v.spelling with
  | ok s =>
    rw [← Signature.text_of_ofString hs]
    exact text_eq_ok_iff.trans (and_iff_left rfl).symm
  | error e => exact ⟨nofun, fun h => nomatch h.2⟩

theorem checkType_eq_ok_iff {v : Value} {t : Ty} :
    checkType v t w = .ok () w' ↔ w' = w ∧ v.hasType t = true := by
  unfold checkType
  by_cases ht : v.hasType t = true
  · rw [if_pos ht]
    exact ⟨fun h => by cases h; exact ⟨rfl, ht⟩, fun h => by rw [h.1]; rfl⟩
  · rw [if_neg ht]
    exact ⟨nofun, fun h => absurd h.2 ht⟩

/-! ### Arrays -/

/-- What stands before the elements of an array until the array ends. -/
def openArray (align : Nat) : Layout :=
  padding 4 ++ .fixed (List.replicate 4 0) ++ padding align

theorem size_openArray (align : Nat) (order : ByteOrder) (pos : Nat) :
    pos + (openArray align).size order pos = firstElement align pos := by
  rw [openArray, size_append, size_append, size_padding, size_padding, size_fixed,
    List.length_replicate, firstElement]
  simp only [Nat.add_assoc]

theorem arrayStart_eq_ok_iff {align : Nat} {a : OpenArray} :
    arrayStart align w = .ok a w' ↔
      (w' = w.append (openArray align) ∧
        a = ⟨w.length + paddingTo 4 w.length, firstElement align w.length⟩) ∧
        firstElement align w.length ≤ maxBodyLength := by
  have hzeros : edit (fun bytes => pushZeros bytes 4) (w.append (padding 4))
      = .ok () (w.append (padding 4 ++ .fixed (List.replicate 4 0))) := by
    rw [← append_append]
    exact edit_eq_append (Bytes.toList_pushZeros ..)
  have hslot : (w.append (padding 4)).length = w.length + paddingTo 4 w.length := by
    rw [Writer.length_append, size_padding]
  have hstart : (w.append (openArray align)).length = firstElement align w.length := by
    rw [Writer.length_append, size_openArray]
  unfold arrayStart
  rw [bind_apply_of_ok (align_eq 4), bind_apply_of_ok get_eq, bind_apply_of_ok hzeros,
    bind_apply_of_ok (align_eq align), append_append, bind_apply_eq_ok_iff]
  constructor
  · rintro ⟨_, w₁, h₁, h⟩
    obtain ⟨rfl, hle⟩ := checkLength_eq_ok_iff.1 h₁
    cases h
    exact ⟨⟨rfl, congrArg₂ OpenArray.mk hslot hstart⟩, hstart ▸ hle⟩
  · rintro ⟨⟨rfl, rfl⟩, hle⟩
    refine ⟨(), _, checkLength_eq_ok_iff.2 ⟨rfl, hstart.symm ▸ hle⟩, ?_⟩
    rw [← hslot, ← hstart]
    rfl

theorem arrayEnd_eq_ok_iff {a : OpenArray} :
    arrayEnd a w = .ok () w' ↔
      w' = { w with bytes := patch w.bytes a.slot (w.order.encode 4 (w.length - a.start)) } ∧
        w.length - a.start ≤ maxArrayLength := by
  unfold arrayEnd
  rw [bind_apply_of_ok get_eq]
  dsimp only
  by_cases hlt : maxArrayLength < w.length - a.start
  · rw [if_pos hlt]
    exact ⟨nofun, fun h => absurd h.2 (Nat.not_le.2 hlt)⟩
  · rw [if_neg hlt]
    exact ⟨fun h => by cases h; exact ⟨rfl, Nat.not_lt.1 hlt⟩, fun h => by rw [h.1]; rfl⟩

/-- Filling in the length makes an array of what was opened. -/
theorem toList_patch_openArray (w : Writer) (align : Nat) (elements : Layout) :
    (patch (w.append (openArray align ++ elements)).bytes (w.length + paddingTo 4 w.length)
        (w.order.encode 4 (elements.size w.order (firstElement align w.length)))).data.toList
      = w.bytes.data.toList ++ (array align elements).bytesAt w.order w.length := by
  have hslot : w.length + paddingTo 4 w.length
      = (w.bytes.data.toList ++ (padding 4).bytesAt w.order w.length).length := by
    rw [List.length_append, Bytes.length_toList, Writer.length, padding, List.length_replicate]
  have hlist : (w.append (openArray align ++ elements)).bytes.data.toList
      = (w.bytes.data.toList ++ (padding 4).bytesAt w.order w.length) ++ List.replicate 4 0
        ++ ((padding align).bytesAt w.order (w.length + (paddingTo 4 w.length + 4))
          ++ elements.bytesAt w.order (firstElement align w.length)) := by
    rw [toList_append, bytesAt_append, size_openArray, openArray, bytesAt_append, bytesAt_append,
      size_append, size_padding, size_fixed, List.length_replicate]
    simp only [fixed, List.append_assoc]
  rw [hslot, Bytes.toList_patch hlist (by rw [List.length_replicate, ByteOrder.encode_length]),
    bytesAt_array, Layout.number, bytesAt_append, bytesAt_append, size_append, size_padding,
    size_encoded]
  simp only [encoded, List.append_assoc]

/-- An array is written as its layout, if its elements are. -/
theorem array_ok {align : Nat} {body : Write Unit} {elements : Layout}
    (h : (arrayStart align >>= fun a => body >>= fun _ => arrayEnd a) w = .ok () w')
    (hbody : ∀ {w₁ w₂}, body w₁ = .ok () w₂ → w₂ = w₁.append elements) :
    w' = w.append (.array align elements) ∧
      elements.size w.order (firstElement align w.length) ≤ maxArrayLength ∧
      ∃ w₁ w₂, body w₁ = .ok () w₂ ∧ w₁.order = w.order ∧
        w₁.length = firstElement align w.length := by
  obtain ⟨a, w₁, h₁, h⟩ := bind_apply_eq_ok_iff.1 h
  obtain ⟨_, w₂, h₂, h₃⟩ := bind_apply_eq_ok_iff.1 h
  obtain ⟨⟨rfl, rfl⟩, -⟩ := arrayStart_eq_ok_iff.1 h₁
  have hstart : (w.append (openArray align)).length = firstElement align w.length := by
    rw [Writer.length_append, size_openArray]
  obtain rfl := hbody h₂
  obtain ⟨rfl, hle⟩ := arrayEnd_eq_ok_iff.1 h₃
  have hlength : ((w.append (openArray align)).append elements).length - firstElement align w.length
      = elements.size w.order (firstElement align w.length) := by
    rw [Writer.length_append, hstart, order_append, Nat.add_sub_cancel_left]
  rw [hlength] at hle
  refine ⟨ext rfl ?_, hle, _, _, h₂, rfl, hstart⟩
  rw [toList_append, ← toList_patch_openArray, ← append_append, ← hlength]
  rfl

/-! ### Values -/

mutual

/-- A value that is written is laid out behind the body. -/
theorem value_ok : ∀ {v : Value} {w w' : Writer}, value v w = .ok () w' →
    w' = w.append v.layout ∧ v.Storable ∧ v.Fits w.order w.length
  | .byte n, w, w' | .boolean b, w, w' | .int16 n, w, w' | .uint16 n, w, w' | .int32 n, w, w'
  | .uint32 n, w, w' | .int64 n, w, w' | .uint64 n, w, w' | .double bits, w, w'
  | .unixFd index, w, w' => by
    intro h
    exact ⟨(number_eq_ok_iff.1 h).1, trivial, trivial⟩
  | .string s, w, w' => by
    intro h
    obtain ⟨⟨hw, -⟩, hnul, hlen⟩ := string_eq_ok_iff.1 h
    exact ⟨hw, hnul, hlen⟩
  | .objectPath p, w, w' => by
    intro h
    obtain ⟨⟨hw, -⟩, -, hlen⟩ := string_eq_ok_iff.1 h
    exact ⟨hw, trivial, hlen⟩
  | .signature s, w, w' => by
    intro h
    exact ⟨signature_ok h, trivial, trivial⟩
  | .variant payload, w, w' => by
    intro h
    obtain ⟨_, w₁, h₁, h₂⟩ := bind_apply_eq_ok_iff.1 h
    obtain ⟨⟨rfl, -⟩, hsig⟩ := typeOf_eq_ok_iff.1 h₁
    obtain ⟨rfl, hstorable, hfits⟩ := value_ok h₂
    rw [Writer.length_append] at hfits
    exact ⟨append_append .., ⟨hsig, hstorable⟩, hfits⟩
  | .array element vs, w, w' => by
    intro h
    obtain ⟨rfl, hle, w₁, w₂, hbody, ho, hlen⟩ := array_ok h fun h => (elements_ok h).1
    obtain ⟨-, hstorable, hfit⟩ := elements_ok hbody
    rw [ho, hlen] at hfit
    exact ⟨rfl, hstorable, hle, hfit⟩
  | .dict k v es, w, w' => by
    intro h
    obtain ⟨rfl, hle, w₁, w₂, hbody, ho, hlen⟩ := array_ok h fun h => (entries_ok h).1
    obtain ⟨-, hstorable, hfit⟩ := entries_ok hbody
    rw [ho, hlen] at hfit
    exact ⟨rfl, hstorable, hle, hfit⟩
  | .struct fields, w, w' => by
    intro h
    obtain ⟨_, w₁, h₁, h₂⟩ := bind_apply_eq_ok_iff.1 h
    rw [align_eq] at h₁
    cases h₁
    obtain ⟨rfl, hstorable, hfit⟩ := values_ok h₂
    rw [Writer.length_append, size_padding] at hfit
    exact ⟨append_append .., hstorable, hfit⟩

theorem values_ok : ∀ {vs : List Value} {w w' : Writer}, values vs w = .ok () w' →
    w' = w.append (Value.layouts vs) ∧ Value.FieldsStorable vs ∧ Value.AllFit w.order w.length vs
  | [], w, w' => by
    intro h
    cases h
    exact ⟨(append_nil w).symm, trivial, trivial⟩
  | v :: vs, w, w' => by
    intro h
    obtain ⟨_, w₁, h₁, h₂⟩ := bind_apply_eq_ok_iff.1 h
    obtain ⟨rfl, hv, hfit⟩ := value_ok h₁
    obtain ⟨rfl, hvs, hfits⟩ := values_ok h₂
    rw [Writer.length_append] at hfits
    exact ⟨append_append .., ⟨hv, hvs⟩, hfit, hfits⟩

theorem elements_ok {element : Ty} : ∀ {vs : List Value} {w w' : Writer},
    elements element vs w = .ok () w' →
      w' = w.append (Value.layouts vs) ∧ Value.ElementsStorable element vs ∧
        Value.AllFit w.order w.length vs
  | [], w, w' => by
    intro h
    cases h
    exact ⟨(append_nil w).symm, trivial, trivial⟩
  | v :: vs, w, w' => by
    intro h
    obtain ⟨_, w₁, hcheck, hrest⟩ := bind_apply_eq_ok_iff.1 h
    obtain ⟨rfl, ht⟩ := checkType_eq_ok_iff.1 hcheck
    obtain ⟨_, w₂, hvalue, hrest⟩ := bind_apply_eq_ok_iff.1 hrest
    obtain ⟨rfl, hv, hfit⟩ := value_ok hvalue
    obtain ⟨rfl, hvs, hfits⟩ := elements_ok hrest
    rw [Writer.length_append] at hfits
    exact ⟨append_append .., ⟨ht, hv, hvs⟩, hfit, hfits⟩

theorem entries_ok {k v : Ty} : ∀ {es : List (Value × Value)} {w w' : Writer},
    entries k v es w = .ok () w' →
      w' = w.append (Value.entryLayouts es) ∧ Value.EntriesStorable k v es ∧
        Value.EntriesFit w.order w.length es
  | [], w, w' => by
    intro h
    cases h
    exact ⟨(append_nil w).symm, trivial, trivial⟩
  | (a, b) :: es, w, w' => by
    intro h
    obtain ⟨_, w₁, hcheck, hrest⟩ := bind_apply_eq_ok_iff.1 h
    obtain ⟨rfl, ha⟩ := checkType_eq_ok_iff.1 hcheck
    obtain ⟨_, w₂, hcheck', hpair⟩ := bind_apply_eq_ok_iff.1 hrest
    obtain ⟨rfl, hb⟩ := checkType_eq_ok_iff.1 hcheck'
    rw [bind_apply_of_ok (align_eq 8)] at hpair
    obtain ⟨_, w₃, hkey, hvalue⟩ := bind_apply_eq_ok_iff.1 hpair
    obtain ⟨rfl, ha', hfit⟩ := value_ok hkey
    rw [append_append] at hvalue
    obtain ⟨_, w₄, hvalue, hes⟩ := bind_apply_eq_ok_iff.1 hvalue
    obtain ⟨rfl, hb', hfit'⟩ := value_ok hvalue
    rw [append_append] at hes
    obtain ⟨rfl, hes, hfits⟩ := entries_ok hes
    rw [Writer.length_append] at hfit hfit' hfits
    exact ⟨append_append .., ⟨⟨ha, hb⟩, ha', hb', hes⟩, hfit, hfit', hfits⟩

end

end Write

end DBus

import DBus.Wire.Boxed
import Mathlib.Algebra.Group.Nat.Defs

/-!
# Bytes as lists

What the operations on bodies do to the list of their bytes, and which bytes give back the number or
the text that they stand for.
-/

namespace DBus

/-! ### Numbers -/

namespace ByteOrder

theorem ofLittleBytes_littleBytes (width n : Nat) (h : n < 256 ^ width) :
    ofLittleBytes (littleBytes width n) = n := by
  induction width generalizing n with
  | zero => simp at h; simp [littleBytes, ofLittleBytes, h]
  | succ width ih =>
    have : n / 256 < 256 ^ width := by
      rw [Nat.pow_succ] at h
      exact Nat.div_lt_of_lt_mul (by omega)
    simp only [littleBytes, ofLittleBytes, ih _ this, UInt8.toNat_ofNat']
    omega

theorem decode_encode (order : ByteOrder) (width n : Nat) (h : n < 256 ^ width) :
    order.decode (order.encode width n) = n := by
  unfold decode encode
  split <;> simp [ofLittleBytes_littleBytes _ _ h]

theorem littleBytes_ofLittleBytes (bs : List UInt8) :
    littleBytes bs.length (ofLittleBytes bs) = bs := by
  induction bs with
  | nil => rfl
  | cons b bs ih =>
    have hlow : UInt8.ofNat (b.toNat + 256 * ofLittleBytes bs) = b := by
      refine UInt8.toNat_inj.1 ?_
      rw [UInt8.toNat_ofNat', Nat.add_mul_mod_self_left, Nat.mod_eq_of_lt b.toNat_lt]
    have hhigh : (b.toNat + 256 * ofLittleBytes bs) / 256 = ofLittleBytes bs := by
      have := b.toNat_lt
      omega
    rw [List.length_cons, ofLittleBytes, littleBytes, hlow, hhigh, ih]

theorem ofLittleBytes_lt (bs : List UInt8) : ofLittleBytes bs < 256 ^ bs.length := by
  induction bs with
  | nil => decide
  | cons b bs ih =>
    have := b.toNat_lt
    rw [ofLittleBytes, List.length_cons, Nat.pow_succ]
    omega

/-- Bytes are the encoding of the number that they spell. -/
theorem encode_decode (order : ByteOrder) (bs : List UInt8) :
    order.encode bs.length (order.decode bs) = bs := by
  unfold decode encode
  split
  · have h := littleBytes_ofLittleBytes bs.reverse
    rw [List.length_reverse] at h
    rw [h, List.reverse_reverse]
  · exact littleBytes_ofLittleBytes bs

theorem decode_lt (order : ByteOrder) (bs : List UInt8) : order.decode bs < 256 ^ bs.length := by
  unfold decode
  split
  · exact Nat.lt_of_lt_of_eq (ofLittleBytes_lt _) (by rw [List.length_reverse])
  · exact ofLittleBytes_lt bs

/-- A number of one byte is that byte, in either order. -/
theorem encode_one (order : ByteOrder) (n : Nat) : order.encode 1 n = [UInt8.ofNat n] := by
  unfold encode
  split <;> rfl

end ByteOrder

namespace Bytes

theorem ext {a b : ByteArray} (h : a.data.toList = b.data.toList) : a = b :=
  ByteArray.ext (Array.toList_inj.1 h)

theorem toList_push (a : ByteArray) (b : UInt8) :
    (a.push b).data.toList = a.data.toList ++ [b] := by
  rw [ByteArray.data_push, Array.toList_push]

theorem length_toList (a : ByteArray) : a.data.toList.length = a.size := by
  rw [Array.length_toList, ByteArray.size_data]

theorem toList_extract (a : ByteArray) (i j : Nat) :
    (a.extract i j).data.toList = (a.data.toList.drop i).take (j - i) := by
  rw [ByteArray.data_extract, Array.toList_extract, List.extract_eq_take_drop]

theorem get!_eq {a : ByteArray} {i : Nat} (h : i < a.data.toList.length) :
    a.get! i = a.data.toList[i] := by
  obtain ⟨bs⟩ := a
  have hi : i < bs.size := by simpa using h
  show bs[i]! = _
  simp [getElem!_pos, hi]

theorem toList_set {a : ByteArray} (i : Nat) (b : UInt8) :
    (a.set! i b).data.toList = a.data.toList.set i b := by
  obtain ⟨bs⟩ := a
  show (bs.set! i b).toList = _
  simp

/-! ### Writing -/

theorem toList_pushAll (a : ByteArray) (bs : List UInt8) :
    (Writer.pushAll a bs).data.toList = a.data.toList ++ bs := by
  induction bs generalizing a with
  | nil => simp [Writer.pushAll]
  | cons b bs ih => rw [Writer.pushAll, ih, toList_push, List.append_assoc, List.singleton_append]

theorem toList_pushZeros (a : ByteArray) (n : Nat) :
    (Writer.pushZeros a n).data.toList = a.data.toList ++ List.replicate n 0 := by
  induction n generalizing a with
  | zero => simp [Writer.pushZeros]
  | succ n ih =>
    rw [Writer.pushZeros, ih, toList_push, List.append_assoc, List.singleton_append,
      List.replicate_succ]

/-- Patching replaces as many bytes as it writes. -/
theorem toList_patch {a : ByteArray} {xs ys zs bs : List UInt8}
    (h : a.data.toList = xs ++ ys ++ zs) (hlen : ys.length = bs.length) :
    (Writer.patch a xs.length bs).data.toList = xs ++ bs ++ zs := by
  induction bs generalizing a xs ys with
  | nil =>
    rw [List.length_nil, List.length_eq_zero_iff] at hlen
    rw [Writer.patch, h, hlen]
  | cons b bs ih =>
    obtain ⟨y, ys, rfl⟩ := List.exists_cons_of_length_eq_add_one hlen
    have hset : (a.set! xs.length b).data.toList = (xs ++ [b]) ++ ys ++ zs := by
      rw [toList_set, h]
      simp
    have hpatch := ih hset (by simpa using hlen)
    rw [List.length_append, List.length_singleton] at hpatch
    rw [Writer.patch, hpatch]
    simp

theorem hasNul_eq_false {a : ByteArray} {n : Nat} (hn : n ≤ a.size) :
    Writer.hasNul a n = false ↔ 0 ∉ a.data.toList.take n := by
  induction n with
  | zero => simp [Writer.hasNul]
  | succ n ih =>
    have hlt : n < a.data.toList.length := by rw [length_toList]; omega
    rw [Writer.hasNul, Bool.or_eq_false_iff, ih (by omega), get!_eq hlt,
      List.take_succ_eq_append_getElem hlt, List.mem_append, List.mem_singleton, not_or, and_comm,
      beq_eq_false_iff_ne, ne_comm]

/-! ### Texts -/

/-- The bytes of a text. -/
def utf8 (s : String) : List UInt8 := s.toUTF8.data.toList

theorem length_utf8 (s : String) : (utf8 s).length = s.toUTF8.size :=
  length_toList _

theorem fromUTF8?_of_toList {a : ByteArray} {s : String} (h : a.data.toList = utf8 s) :
    String.fromUTF8? a = some s := by
  rw [ext h, String.fromUTF8?, String.toUTF8_eq_toByteArray, dif_pos s.isValidUTF8]
  rfl

theorem toUTF8_of_fromUTF8? {a : ByteArray} {s : String} (h : String.fromUTF8? a = some s) :
    s.toUTF8 = a := by
  unfold String.fromUTF8? at h
  split at h
  · cases h
    rfl
  · cases h

theorem utf8_eq_flatMap (s : String) : utf8 s = s.toList.flatMap String.utf8EncodeChar := by
  rw [utf8, String.toUTF8_eq_toByteArray, ← String.utf8Encode_toList, List.utf8Encode,
    List.toList_data_toByteArray]

theorem utf8_append (s t : String) : utf8 (s ++ t) = utf8 s ++ utf8 t := by
  simp only [utf8_eq_flatMap, String.toList_append, List.flatMap_append]

end Bytes

end DBus

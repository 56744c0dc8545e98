import DBus.Proofs.Wire.Bytes

/-!
# The wire format

The bytes that stand for a value, apart from how they are written and read. They depend on the order
of the bytes of numbers, and on the position at which they begin, since everything starts at a
multiple of its alignment. A layout is the bytes as a function of both, and layouts are put one
behind the other.
-/

namespace DBus

/-- Bytes that depend on the order of the bytes of numbers and on where they begin. -/
structure Layout where
  /-- The bytes from a position on. -/
  bytesAt : ByteOrder → Nat → List UInt8

namespace Layout

/-- The number of bytes from a position on. -/
def size (l : Layout) (order : ByteOrder) (pos : Nat) : Nat :=
  (l.bytesAt order pos).length

/-- Bytes that depend on nothing. -/
def fixed (bs : List UInt8) : Layout := ⟨fun _ _ => bs⟩

/-- One layout behind another. -/
instance : Append Layout where
  append l m := ⟨fun order pos => l.bytesAt order pos ++ m.bytesAt order (pos + l.size order pos)⟩

/-- Zeros up to a multiple of `align`. -/
def padding (align : Nat) : Layout :=
  ⟨fun _ pos => List.replicate (paddingTo align pos) 0⟩

/-- A number of a fixed width, not aligned. -/
def encoded (width n : Nat) : Layout :=
  ⟨fun order _ => order.encode width n⟩

/-- A number of a fixed width. -/
def number (width n : Nat) : Layout :=
  padding width ++ encoded width n

/-- A text: the number of its bytes, the bytes, and a zero. -/
def text (width : Nat) (s : String) : Layout :=
  number width s.toUTF8.size ++ fixed (Bytes.utf8 s ++ [0])

/-- Where the first element of an array stands that begins at a position. -/
def firstElement (align pos : Nat) : Nat :=
  pos + paddingTo 4 pos + 4 + paddingTo align (pos + paddingTo 4 pos + 4)

/-- An array: the number of bytes of its elements, and the elements. The padding before the first
element does not count. -/
def array (align : Nat) (elements : Layout) : Layout :=
  ⟨fun order pos =>
    (number 4 (elements.size order (firstElement align pos)) ++ padding align
      ++ elements).bytesAt order pos⟩

section

variable (l m n : Layout) (order : ByteOrder) (pos : Nat)

theorem bytesAt_append :
    (l ++ m).bytesAt order pos
      = l.bytesAt order pos ++ m.bytesAt order (pos + l.size order pos) := rfl

theorem size_append :
    (l ++ m).size order pos = l.size order pos + m.size order (pos + l.size order pos) :=
  List.length_append

theorem append_assoc : l ++ m ++ n = l ++ (m ++ n) := by
  refine congrArg Layout.mk (funext fun order => funext fun pos => ?_)
  simp only [bytesAt_append, size_append, List.append_assoc, Nat.add_assoc]

theorem append_nil : l ++ fixed [] = l :=
  congrArg Layout.mk (funext fun _ => funext fun _ => List.append_nil _)

theorem size_fixed (bs : List UInt8) : (fixed bs).size order pos = bs.length := rfl

theorem size_padding (align : Nat) : (padding align).size order pos = paddingTo align pos :=
  List.length_replicate

theorem size_encoded (width n : Nat) : (encoded width n).size order pos = width :=
  ByteOrder.encode_length ..

theorem size_number (width n : Nat) :
    (number width n).size order pos = paddingTo width pos + width := by
  rw [number, size_append, size_padding, size_encoded]

theorem size_text (width : Nat) (s : String) :
    (text width s).size order pos = paddingTo width pos + width + (s.toUTF8.size + 1) := by
  rw [text, size_append, size_number, size_fixed, List.length_append, Bytes.length_utf8,
    List.length_singleton]

/-- The first element of an array stands behind the length of the array. -/
theorem size_array_head (align length : Nat) :
    pos + (number 4 length ++ padding align).size order pos = firstElement align pos := by
  rw [size_append, size_number, size_padding, firstElement]
  simp only [Nat.add_assoc]

theorem bytesAt_array (align : Nat) (elements : Layout) :
    (array align elements).bytesAt order pos =
      (number 4 (elements.size order (firstElement align pos)) ++ padding align).bytesAt order pos
        ++ elements.bytesAt order (firstElement align pos) := by
  rw [array, bytesAt_append, size_array_head]

theorem size_array (align : Nat) (elements : Layout) :
    (array align elements).size order pos =
      (number 4 (elements.size order (firstElement align pos)) ++ padding align).size order pos
        + elements.size order (firstElement align pos) := by
  rw [size, bytesAt_array, List.length_append]
  rfl

end

end Layout

/-! ### Values -/

namespace Value

open Layout

mutual

/-- The bytes of a value. -/
def layout : Value → Layout
  | .byte n => number 1 n.toNat
  | .boolean b => number 4 (if b then 1 else 0)
  | .int16 n => number 2 n.toUInt16.toNat
  | .uint16 n => number 2 n.toNat
  | .int32 n => number 4 n.toUInt32.toNat
  | .uint32 n => number 4 n.toNat
  | .int64 n => number 8 n.toUInt64.toNat
  | .uint64 n => number 8 n.toNat
  | .double bits => number 8 bits.toNat
  | .string s => text 4 s
  | .objectPath p => text 4 p.text
  | .signature s => text 1 s.text
  | .unixFd index => number 4 index.toNat
  | .variant payload => text 1 payload.spelling ++ layout payload
  | .array element vs => Layout.array element.alignment (layouts vs)
  | .dict _ _ es => Layout.array 8 (entryLayouts es)
  | .struct fields => padding 8 ++ layouts fields

/-- The bytes of values, one after the other. -/
def layouts : List Value → Layout
  | [] => fixed []
  | v :: vs => layout v ++ layouts vs

/-- The bytes of the entries of a dict. -/
def entryLayouts : List (Value × Value) → Layout
  | [] => fixed []
  | (a, b) :: es => padding 8 ++ layout a ++ layout b ++ entryLayouts es

end

mutual

/-- Whether a value can be written at all: its texts hold no zero bytes, the elements of arrays and
dicts have the types that these declare, and the types of variants have signatures. -/
def Storable : Value → Prop
  | .string s => 0 ∉ Bytes.utf8 s
  | .variant payload => (Signature.ofString payload.spelling).isOk = true ∧ Storable payload
  | .array element vs => ElementsStorable element vs
  | .dict k v es => EntriesStorable k v es
  | .struct fields => FieldsStorable fields
  | _ => True

/-- Whether all fields of a struct can be written. -/
def FieldsStorable : List Value → Prop
  | [] => True
  | v :: vs => Storable v ∧ FieldsStorable vs

/-- Whether all elements of an array can be written and are of its element type. -/
def ElementsStorable (element : Ty) : List Value → Prop
  | [] => True
  | v :: vs => v.hasType element = true ∧ Storable v ∧ ElementsStorable element vs

/-- Whether all entries of a dict can be written and are of its key and value types. -/
def EntriesStorable (k v : Ty) : List (Value × Value) → Prop
  | [] => True
  | (a, b) :: es =>
    (a.hasType k = true ∧ b.hasType v = true) ∧ Storable a ∧ Storable b ∧ EntriesStorable k v es

end

mutual

/-- Whether no text and no array of a value is too long, if the value begins at a position. -/
def Fits (order : ByteOrder) (pos : Nat) : Value → Prop
  | .string s => s.toUTF8.size < UInt32.size
  | .objectPath p => p.text.toUTF8.size < UInt32.size
  | .variant payload => Fits order (pos + (text 1 payload.spelling).size order pos) payload
  | .array element vs =>
    (layouts vs).size order (firstElement element.alignment pos) ≤ maxArrayLength
      ∧ AllFit order (firstElement element.alignment pos) vs
  | .dict _ _ es =>
    (entryLayouts es).size order (firstElement 8 pos) ≤ maxArrayLength
      ∧ EntriesFit order (firstElement 8 pos) es
  | .struct fields => AllFit order (pos + paddingTo 8 pos) fields
  | _ => True

/-- Whether no text and no array of some values is too long. -/
def AllFit (order : ByteOrder) (pos : Nat) : List Value → Prop
  | [] => True
  | v :: vs => Fits order pos v ∧ AllFit order (pos + (layout v).size order pos) vs

/-- Whether no text and no array of some entries is too long. -/
def EntriesFit (order : ByteOrder) (pos : Nat) : List (Value × Value) → Prop
  | [] => True
  | (a, b) :: es =>
    Fits order (pos + (padding 8).size order pos) a
      ∧ Fits order (pos + (padding 8 ++ layout a).size order pos) b
      ∧ EntriesFit order (pos + (padding 8 ++ layout a ++ layout b).size order pos) es

end

end Value

end DBus

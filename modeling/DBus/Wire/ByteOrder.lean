import DBus.TypeCode

/-!
# Byte order

The order in which the bytes of a number stand, and numbers as bytes. A message names its order by a
mark, one byte; every mark but the one for big endian means little endian. `ByteOrder.decode` undoes
`ByteOrder.encode` for numbers that fit the width.
-/

namespace DBus

/-- The mark of a byte order. -/
structure ByteOrder where
  /-- The byte that names the order. -/
  mark : UInt8
  deriving DecidableEq, Repr

namespace ByteOrder

/-- Least significant byte first. -/
def little : ByteOrder := ⟨0x6C⟩

/-- Most significant byte first. -/
def big : ByteOrder := ⟨0x42⟩

/-- The order in which bodies are written unless another one is asked for. -/
def native : ByteOrder := little

instance : Inhabited ByteOrder := ⟨native⟩

/-- Whether the most significant byte comes first. -/
def isBig (order : ByteOrder) : Bool :=
  order == big

/-- The name of a byte order. -/
def name (order : ByteOrder) : String :=
  if order = little then "LITTLE"
  else if order = big then "BIG"
  else unnamedByte order.mark

/-- The lowest `width` bytes of a number, least significant first. -/
def littleBytes : (width : Nat) → Nat → List UInt8
  | 0, _ => []
  | width + 1, n => UInt8.ofNat n :: littleBytes width (n / 256)

/-- The number that bytes spell, least significant first. -/
def ofLittleBytes : List UInt8 → Nat
  | [] => 0
  | b :: bs => b.toNat + 256 * ofLittleBytes bs

/-- The lowest `width` bytes of a number. -/
def encode (order : ByteOrder) (width n : Nat) : List UInt8 :=
  if order.isBig then (littleBytes width n).reverse else littleBytes width n

/-- The number that bytes spell. -/
def decode (order : ByteOrder) (bytes : List UInt8) : Nat :=
  ofLittleBytes (if order.isBig then bytes.reverse else bytes)

theorem littleBytes_length (width n : Nat) : (littleBytes width n).length = width := by
  induction width generalizing n with
  | zero => rfl
  | succ width ih => simp [littleBytes, ih]

theorem encode_length (order : ByteOrder) (width n : Nat) :
    (encode order width n).length = width := by
  unfold encode
  split <;> simp [littleBytes_length]

end ByteOrder

/-- The bytes that are missing to the next multiple of `align`. -/
def paddingTo (align length : Nat) : Nat :=
  (align - length % align) % align

end DBus

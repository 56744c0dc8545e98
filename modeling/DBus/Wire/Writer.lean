import DBus.Error
import DBus.Value
import DBus.Wire.ByteOrder

/-!
# Writing bodies

A body is written from front to back into a growing sequence of bytes. Each value starts at a
multiple of its alignment, with zeros in between. An array begins with its length in bytes, which is
filled in when the array ends. A write that fails leaves what it has written so far.
-/

namespace DBus

/-- A body in the making. -/
structure Writer where
  /-- The order of the bytes of numbers. -/
  order : ByteOrder
  /-- What has been written. -/
  bytes : ByteArray
  deriving Inhabited

/-- An action that appends to a body. -/
abbrev Write := EStateM Error Writer

/-- An array that has been started and not yet ended. -/
structure OpenArray where
  /-- Where the length of the array stands. -/
  slot : Nat
  /-- Where the first element starts. -/
  start : Nat
  deriving Repr

namespace Writer

/-- A body without any bytes. -/
def new (order : ByteOrder) : Writer := ⟨order, .empty⟩

/-- The number of bytes written. -/
def length (w : Writer) : Nat := w.bytes.size

/-- Appends a list of bytes. -/
def pushAll (bytes : ByteArray) : List UInt8 → ByteArray
  | [] => bytes
  | b :: bs => pushAll (bytes.push b) bs

/-- Appends zeros. -/
def pushZeros (bytes : ByteArray) : Nat → ByteArray
  | 0 => bytes
  | n + 1 => pushZeros (bytes.push 0) n

/-- Replaces the bytes from a position on. -/
def patch (bytes : ByteArray) (pos : Nat) : List UInt8 → ByteArray
  | [] => bytes
  | b :: bs => patch (bytes.set! pos b) (pos + 1) bs

/-- Whether one of the first `n` bytes is zero. -/
def hasNul (bytes : ByteArray) : Nat → Bool
  | 0 => false
  | n + 1 => bytes.get! n == 0 || hasNul bytes n

end Writer

namespace Write

/-- Changes the bytes written so far. -/
def edit (f : ByteArray → ByteArray) : Write Unit :=
  modify fun w => { w with bytes := f w.bytes }

/-- Pads with zeros to a multiple of `n`. -/
def align (n : Nat) : Write Unit :=
  edit fun bytes => Writer.pushZeros bytes (paddingTo n bytes.size)

/-- Refuses a body that has become too long. -/
def checkLength : Write Unit := do
  let length := (← get).length
  if maxBodyLength < length then throw (.bodyTooLong length)

/-- Writes a number of a fixed width, aligned to that width. -/
def number (width n : Nat) : Write Unit := do
  align width
  let order := (← get).order
  edit fun bytes => Writer.pushAll bytes (order.encode width n)
  checkLength

/-- Writes a truth value as a number of four bytes. -/
def boolean (b : Bool) : Write Unit :=
  number 4 (if b then 1 else 0)

/-- Writes bytes and a zero after them. -/
def terminated (text : ByteArray) : Write Unit := do
  edit fun bytes => (bytes ++ text).push 0
  checkLength

/-- Writes a text, which may not hold a zero byte. -/
def string (s : String) : Write Unit := do
  let text := s.toUTF8
  if Writer.hasNul text text.size then throw .nulInString
  if UInt32.size ≤ text.size then throw (.bodyTooLong text.size)
  number 4 text.size
  terminated text

/-- Writes the path of an object. -/
def objectPath (p : ObjectPath) : Write Unit :=
  string p.text

/-- Writes a signature, whose length takes one byte. -/
def signature (s : Signature) : Write Unit := do
  let text := s.text.toUTF8
  number 1 text.size
  terminated text

/-- Starts an array whose elements have an alignment. -/
def arrayStart (elementAlign : Nat) : Write OpenArray := do
  align 4
  let slot := (← get).length
  edit fun bytes => Writer.pushZeros bytes 4
  align elementAlign
  checkLength
  return ⟨slot, (← get).length⟩

/-- Ends an array by filling in its length. -/
def arrayEnd (a : OpenArray) : Write Unit := do
  let w ← get
  let length := w.length - a.start
  if maxArrayLength < length then throw (.arrayTooLong length)
  edit fun bytes => Writer.patch bytes a.slot (w.order.encode 4 length)

end Write

end DBus

import DBus.Error
import DBus.Value
import DBus.Wire.ByteOrder

/-!
# Reading bodies

A reader is a window of a body: what lies before its position has been read, what lies beyond its
end is out of reach. A step that fails keeps the position it had reached by then. An array is read
by a reader of its own, which covers just its elements; the reader that found the array goes on
behind it.
-/

namespace DBus

/-- A window of a body. -/
structure Reader where
  /-- The order of the bytes of numbers. -/
  order : ByteOrder
  /-- The whole body. -/
  data : ByteArray
  /-- Where the next byte stands. -/
  pos : Nat
  /-- Where the window ends. -/
  stop : Nat
  deriving Inhabited

/-- An action that reads from a window. -/
abbrev Read := EStateM Error Reader

namespace Reader

/-- The reader of a whole body. -/
def new (order : ByteOrder) (data : ByteArray) : Reader := ⟨order, data, 0, data.size⟩

/-- The number of bytes left. -/
def remaining (r : Reader) : Nat := r.stop - r.pos

/-- Whether no bytes are left. -/
def isEmpty (r : Reader) : Bool := r.pos == r.stop

/-- The bytes left. -/
def rest (r : Reader) : ByteArray := r.data.extract r.pos r.stop

/-- Repeats a step until a reader is empty and adds what it reads to `found`, newest first. A step
takes at least one byte, so `fuel` may be the number of bytes left. -/
def untilEmpty (step : Read α) : (fuel : Nat) → (found : List α) → Reader → Except Error (List α)
  | fuel, found, r =>
    if r.isEmpty then .ok found.reverse
    else
      match fuel with
      | 0 => .error .bufferUnderflow
      | fuel + 1 =>
        match step r with
        | .ok a r => untilEmpty step fuel (a :: found) r
        | .error e _ => .error e

/-- Everything that a step reads from a reader until it is empty. -/
def all (step : Read α) (r : Reader) : Except Error (List α) :=
  untilEmpty step r.remaining [] r

end Reader

namespace Read

/-- Takes the next `n` bytes. -/
def take (n : Nat) : Read ByteArray := do
  let r ← get
  if r.remaining < n then throw .bufferUnderflow
  set { r with pos := r.pos + n }
  return r.data.extract r.pos (r.pos + n)

/-- Skips the padding to a multiple of `n`. -/
def align (n : Nat) : Read Unit := do
  let _ ← take (paddingTo n (← get).pos)

/-- Reads a number of a fixed width, aligned to that width. -/
def number (width : Nat) : Read Nat := do
  align width
  let bytes ← take width
  return (← get).order.decode bytes.data.toList

/-- Reads a truth value. -/
def boolean : Read Bool := do
  match ← number 4 with
  | 0 => return false
  | 1 => return true
  | n => throw (.invalidBoolean (UInt32.ofNat n))

/-- Takes `n` bytes and the zero that must follow them. -/
def terminated (n : Nat) : Read ByteArray := do
  let bytes ← take (n + 1)
  if bytes.get! n != 0 then throw .notNullTerminated
  return bytes.extract 0 n

/-- The text that bytes are the UTF-8 form of. -/
def text (bytes : ByteArray) : Read String :=
  match String.fromUTF8? bytes with
  | some s => pure s
  | none => throw .utf8

/-- Reads a text. -/
def string : Read String := do
  let n ← number 4
  text (← terminated n)

/-- Reads the path of an object. -/
def objectPath : Read ObjectPath := do
  match ObjectPath.ofString? (← string) with
  | some p => return p
  | none => throw .objectPath

/-- Reads a signature. -/
def signature : Read Signature := do
  let n ← number 1
  match Signature.ofString (← text (← terminated n)) with
  | .ok s => return s
  | .error e => throw (.signature e)

/-- Reads the length of an array and passes over the array; gives the reader of its elements. -/
def array (elementAlign : Nat) : Read Reader := do
  let n ← number 4
  if maxArrayLength < n then throw (.arrayTooLong n)
  align elementAlign
  let start := (← get).pos
  let _ ← take n
  let r ← get
  return { r with pos := start, stop := r.pos }

/-- Reads an array with a step for its elements. -/
def arrayOf (elementAlign : Nat) (step : Read α) : Read (List α) := do
  let elements ← array elementAlign
  match elements.all step with
  | .ok found => return found
  | .error e => throw e

/-- Reads a value of a basic type. -/
def basic : BasicType → Read Value
  | .byte => do return .byte (UInt8.ofNat (← number 1))
  | .boolean => do return .boolean (← boolean)
  | .int16 => do return .int16 (UInt16.ofNat (← number 2)).toInt16
  | .uint16 => do return .uint16 (UInt16.ofNat (← number 2))
  | .int32 => do return .int32 (UInt32.ofNat (← number 4)).toInt32
  | .uint32 => do return .uint32 (UInt32.ofNat (← number 4))
  | .int64 => do return .int64 (UInt64.ofNat (← number 8)).toInt64
  | .uint64 => do return .uint64 (UInt64.ofNat (← number 8))
  | .double => do return .double (UInt64.ofNat (← number 8))
  | .string => do return .string (← string)
  | .objectPath => do return .objectPath (← objectPath)
  | .signature => do return .signature (← signature)
  | .unixFd => do return .unixFd (UInt32.ofNat (← number 4))

end Read

namespace Reader

/-- What an action reads, whatever becomes of the reader. -/
def run (r : Reader) (action : Read α) : Except Error α :=
  match action r with
  | .ok a _ => .ok a
  | .error e _ => .error e

end Reader

end DBus

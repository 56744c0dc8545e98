/-!
# Basic types

The types whose values have no parts. They are the only types a dict key may have.
-/

namespace DBus

/-- A type without parts. -/
inductive BasicType where
  | byte | boolean | int16 | uint16 | int32 | uint32 | int64 | uint64 | double
  | string | objectPath | signature | unixFd
  deriving DecidableEq, Ord, Repr

namespace BasicType

/-- Every basic type, in order. -/
def all : List BasicType :=
  [.byte, .boolean, .int16, .uint16, .int32, .uint32, .int64, .uint64, .double, .string,
   .objectPath, .signature, .unixFd]

/-- The character that spells a basic type in a signature. -/
def code : BasicType → Char
  | .byte => 'y'
  | .boolean => 'b'
  | .int16 => 'n'
  | .uint16 => 'q'
  | .int32 => 'i'
  | .uint32 => 'u'
  | .int64 => 'x'
  | .uint64 => 't'
  | .double => 'd'
  | .string => 's'
  | .objectPath => 'o'
  | .signature => 'g'
  | .unixFd => 'h'

/-- The basic type that a character spells. -/
def ofCode? (c : Char) : Option BasicType :=
  all.find? fun b => b.code = c

/-- A value starts at a multiple of this many bytes. -/
def alignment : BasicType → Nat
  | .byte | .signature => 1
  | .int16 | .uint16 => 2
  | .boolean | .int32 | .uint32 | .string | .objectPath | .unixFd => 4
  | .int64 | .uint64 | .double => 8

/-- Whether values are texts. -/
def isText : BasicType → Bool
  | .string | .objectPath | .signature => true
  | _ => false

theorem ofCode?_code (b : BasicType) : ofCode? b.code = some b := by
  cases b <;> rfl

theorem code_of_ofCode? {c : Char} {b : BasicType} (h : ofCode? c = some b) : b.code = c := by
  simpa using List.find?_some h

end BasicType

end DBus

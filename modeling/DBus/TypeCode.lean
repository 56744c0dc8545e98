import DBus.Text.Hex

/-!
# Type codes

The bytes that spell signatures, the names by which messages call them, and what can be wrong with a
signature. A text has at most one error: the first in the order in which the text is read, the length
being looked at before any character.
-/

namespace DBus

/-- The bytes with a meaning in a signature, each with its name. Zero ends a list of codes and is
none itself. -/
def typeCodeNames : List (Char × String) :=
  [('\x00', "INVALID"), ('y', "BYTE"), ('b', "BOOLEAN"), ('n', "INT16"), ('q', "UINT16"),
   ('i', "INT32"), ('u', "UINT32"), ('x', "INT64"), ('t', "UINT64"), ('d', "DOUBLE"),
   ('s', "STRING"), ('o', "OBJECT_PATH"), ('g', "SIGNATURE"), ('a', "ARRAY"), ('v', "VARIANT"),
   ('h', "UNIX_FD"), ('(', "OPEN_PAREN"), (')', "CLOSE_PAREN"), ('\x7b', "OPEN_BRACE"),
   ('\x7d', "CLOSE_BRACE")]

/-- How a byte without a name is shown. -/
def unnamedByte (b : UInt8) : String :=
  "INVALID(" ++ String.ofList (Text.hexByte b) ++ ")"

/-- The name of a type code. -/
def typeCodeName (b : UInt8) : String :=
  match typeCodeNames.find? fun entry => entry.1.toNat == b.toNat with
  | some entry => entry.2
  | none => unnamedByte b

/-- The first byte of a character's UTF-8 form. -/
def leadByte (c : Char) : UInt8 :=
  let n := c.toNat
  if n < 0x80 then UInt8.ofNat n
  else if n < 0x800 then UInt8.ofNat (0xC0 + n / 0x40)
  else if n < 0x10000 then UInt8.ofNat (0xE0 + n / 0x1000)
  else UInt8.ofNat (0xF0 + n / 0x40000)

/-! ### Errors of signatures -/

/-- Why a text is not the signature that it should be. -/
inductive SignatureError where
  | unknownTypeCode (code : UInt8)
  | signatureTooLong
  | missingArrayElementType
  | structEndedButNotStarted
  | dictEndedButNotStarted
  | structStartedButNotEnded
  | dictStartedButNotEnded
  | structHasNoFields
  | dictKeyMustBeBasicType
  | dictEntryHasNoFields
  | dictEntryHasOnlyOneField
  | dictEntryHasTooManyFields
  | dictEntryNotInsideArray
  | exceededMaximumArrayRecursion
  | exceededMaximumStructRecursion
  | expectedSingleCompleteType (found : Nat)
  deriving DecidableEq, Repr

namespace SignatureError

/-- The name of the kind of an error, for programs. -/
def kind : SignatureError → String
  | .unknownTypeCode _ => "UnknownTypeCode"
  | .signatureTooLong => "SignatureTooLong"
  | .missingArrayElementType => "MissingArrayElementType"
  | .structEndedButNotStarted => "StructEndedButNotStarted"
  | .dictEndedButNotStarted => "DictEndedButNotStarted"
  | .structStartedButNotEnded => "StructStartedButNotEnded"
  | .dictStartedButNotEnded => "DictStartedButNotEnded"
  | .structHasNoFields => "StructHasNoFields"
  | .dictKeyMustBeBasicType => "DictKeyMustBeBasicType"
  | .dictEntryHasNoFields => "DictEntryHasNoFields"
  | .dictEntryHasOnlyOneField => "DictEntryHasOnlyOneField"
  | .dictEntryHasTooManyFields => "DictEntryHasTooManyFields"
  | .dictEntryNotInsideArray => "DictEntryNotInsideArray"
  | .exceededMaximumArrayRecursion => "ExceededMaximumArrayRecursion"
  | .exceededMaximumStructRecursion => "ExceededMaximumStructRecursion"
  | .expectedSingleCompleteType _ => "ExpectedSingleCompleteType"

/-- The wording of an error. -/
def message : SignatureError → String
  | .unknownTypeCode code => "Unknown type code: " ++ typeCodeName code
  | .signatureTooLong => "Signature too long"
  | .missingArrayElementType => "Missing array element type"
  | .structEndedButNotStarted => "Struct ended but not started"
  | .dictEndedButNotStarted => "Dict ended but not started"
  | .structStartedButNotEnded => "Struct started but not ended"
  | .dictStartedButNotEnded => "Dict started but not ended"
  | .structHasNoFields => "Struct has no fields"
  | .dictKeyMustBeBasicType => "Dict key must be basic type"
  | .dictEntryHasNoFields => "Dict entry has no fields"
  | .dictEntryHasOnlyOneField => "Dict entry has only one field"
  | .dictEntryHasTooManyFields => "Dict entry has too many fields"
  | .dictEntryNotInsideArray => "Dict entry not inside array"
  | .exceededMaximumArrayRecursion => "Exceeded maximum array recursion"
  | .exceededMaximumStructRecursion => "Exceeded maximum struct recursion"
  | .expectedSingleCompleteType found =>
    "Expected a single complete type, found " ++ toString found

end SignatureError

end DBus

import DBus.TypeCode

/-!
# Errors

What can go wrong while values and messages are written, read and exchanged, each cause with its
wording. Some errors come from another one, which `Error.source?` words.
-/

namespace DBus

/-- An array holds at most this many bytes. -/
def maxArrayLength : Nat := 67108864

/-- A body holds at most this many bytes. -/
def maxBodyLength : Nat := 134217728

/-- At most this many variants may be nested in one another. -/
def maxVariantDepth : Nat := 64

/-- Why writing, reading or exchanging messages failed. -/
inductive Error where
  | signature (cause : SignatureError)
  | objectPath
  | utf8
  | bufferUnderflow
  | notNullTerminated
  | invalidBoolean (found : UInt32)
  | arrayTooLong (length : Nat)
  | bodyTooLong (length : Nat)
  | variantTooDeep
  | invalidVariant (expected : String)
  | nulInString
  | unexpectedSignature (expected actual : String)
  | unexpectedReply
  | remote (name text : String)
  deriving DecidableEq, Repr

namespace Error

/-- The name of the kind of an error, for programs. -/
def kind : Error → String
  | .signature _ => "Signature"
  | .objectPath => "ObjectPath"
  | .utf8 => "Utf8Error"
  | .bufferUnderflow => "BufferUnderflow"
  | .notNullTerminated => "NotNullTerminated"
  | .invalidBoolean _ => "InvalidBoolean"
  | .arrayTooLong _ => "ArrayTooLong"
  | .bodyTooLong _ => "BodyTooLong"
  | .variantTooDeep => "VariantTooDeep"
  | .invalidVariant _ => "InvalidVariant"
  | .nulInString => "NulInString"
  | .unexpectedSignature _ _ => "UnexpectedSignature"
  | .unexpectedReply => "UnexpectedReply"
  | .remote _ _ => "Remote"

/-- The wording of an error. -/
def message : Error → String
  | .signature _ => "Signature error"
  | .objectPath => "ObjectPath error"
  | .utf8 => "UTF-8 error"
  | .bufferUnderflow => "Buffer underflow"
  | .notNullTerminated => "String is not null terminated"
  | .invalidBoolean found => "Invalid boolean value " ++ toString found.toNat
  | .arrayTooLong length =>
    "Array of length " ++ toString length ++ " is too long (max is " ++ toString maxArrayLength
      ++ ")"
  | .bodyTooLong length =>
    "Body of length " ++ toString length ++ " is too long (max is " ++ toString maxBodyLength ++ ")"
  | .variantTooDeep => "Variants are nested too deeply"
  | .invalidVariant expected =>
    "Variant value does not match its signature " ++ Text.quoted expected
  | .nulInString => "String contains a nul byte"
  | .unexpectedSignature expected actual =>
    "Expected body signature " ++ Text.quoted expected ++ ", but found " ++ Text.quoted actual
  | .unexpectedReply => "Unexpected reply message"
  | .remote name text =>
    if text.isEmpty then "Remote error " ++ name else "Remote error " ++ name ++ ": " ++ text

/-- The wording of the error that an error comes from. -/
def source? : Error → Option String
  | .signature cause => some cause.message
  | .objectPath => some "Invalid D-Bus object path"
  | _ => none

end Error

end DBus

import DBus.ObjectPath
import DBus.Signature

/-!
# Values

Values that carry their type. `Value.ty` is the type of a value, `Value.hasType` decides whether a
value is of a given type without building that type, and `Value.same` is the equality of values that
compares doubles as numbers.
-/

namespace DBus

/-- A value together with its type. -/
inductive Value where
  | byte (n : UInt8)
  | boolean (b : Bool)
  | int16 (n : Int16)
  | uint16 (n : UInt16)
  | int32 (n : Int32)
  | uint32 (n : UInt32)
  | int64 (n : Int64)
  | uint64 (n : UInt64)
  /-- A double, given by its IEEE 754 bits. -/
  | double (bits : UInt64)
  | string (s : String)
  | objectPath (p : ObjectPath)
  | signature (s : Signature)
  /-- An index into the file descriptors that travel beside a message. -/
  | unixFd (index : UInt32)
  | variant (payload : Value)
  | array (element : Ty) (values : List Value)
  | dict (key value : Ty) (entries : List (Value × Value))
  | struct (fields : List Value)

namespace Value

instance : Inhabited Value := ⟨.byte 0⟩

mutual

/-- The type of a value. -/
def ty : Value → Ty
  | .byte _ => .basic .byte
  | .boolean _ => .basic .boolean
  | .int16 _ => .basic .int16
  | .uint16 _ => .basic .uint16
  | .int32 _ => .basic .int32
  | .uint32 _ => .basic .uint32
  | .int64 _ => .basic .int64
  | .uint64 _ => .basic .uint64
  | .double _ => .basic .double
  | .string _ => .basic .string
  | .objectPath _ => .basic .objectPath
  | .signature _ => .basic .signature
  | .unixFd _ => .basic .unixFd
  | .variant _ => .variant
  | .array element _ => .array element
  | .dict key value _ => .array (.entry key value)
  | .struct fields => .struct (tys fields)

/-- The types of a list of values. -/
def tys : List Value → List Ty
  | [] => []
  | v :: vs => ty v :: tys vs

end

/-- The signature that spells the type of a value. -/
def spelling (v : Value) : String :=
  v.ty.signature

mutual

/-- Whether a value is of a type. -/
def hasType : Value → Ty → Bool
  | .variant _, .variant => true
  | .array element _, .array t => t = element
  | .dict key value _, .array (.entry k v) => k = key && v = value
  | .struct fields, .struct types => haveTypes fields types
  | v, .basic b => v.ty = .basic b
  | _, _ => false

/-- Whether values are of types, one by one. -/
def haveTypes : List Value → List Ty → Bool
  | [], [] => true
  | v :: vs, t :: ts => hasType v t && haveTypes vs ts
  | _, _ => false

end

/-! ### Equality -/

/-- Whether the bits of a double are those of no number. -/
def isNaN (bits : UInt64) : Bool :=
  bits &&& 0x7FFFFFFFFFFFFFFF > 0x7FF0000000000000

/-- Whether two doubles are equal as numbers: no number differs from itself, and both zeros agree. -/
def sameDouble (a b : UInt64) : Bool :=
  !isNaN a && !isNaN b && (a == b || (a ||| b) &&& 0x7FFFFFFFFFFFFFFF == 0)

mutual

/-- Whether two values are equal, doubles being compared as numbers. -/
def same : Value → Value → Bool
  | .byte a, .byte b => a == b
  | .boolean a, .boolean b => a == b
  | .int16 a, .int16 b => a == b
  | .uint16 a, .uint16 b => a == b
  | .int32 a, .int32 b => a == b
  | .uint32 a, .uint32 b => a == b
  | .int64 a, .int64 b => a == b
  | .uint64 a, .uint64 b => a == b
  | .double a, .double b => sameDouble a b
  | .string a, .string b => a == b
  | .objectPath a, .objectPath b => a == b
  | .signature a, .signature b => a == b
  | .unixFd a, .unixFd b => a == b
  | .variant a, .variant b => same a b
  | .array s as, .array t bs => s == t && sameAll as bs
  | .dict k v as, .dict k' v' bs => k == k' && v == v' && sameEntries as bs
  | .struct as, .struct bs => sameAll as bs
  | _, _ => false

/-- Whether two lists of values are equal. -/
def sameAll : List Value → List Value → Bool
  | [], [] => true
  | a :: as, b :: bs => same a b && sameAll as bs
  | _, _ => false

/-- Whether two lists of dict entries are equal. -/
def sameEntries : List (Value × Value) → List (Value × Value) → Bool
  | [], [] => true
  | (k, v) :: as, (k', v') :: bs => same k k' && same v v' && sameEntries as bs
  | _, _ => false

end

end Value

end DBus

import DBus.Wire.Reader
import DBus.Wire.Writer

/-!
# Boxing

Values of any type, as they are written and read. A variant is a value with its signature before it.
The bytes may come from anywhere: so variants are followed at most `maxVariantDepth` deep.

A body that holds one value of a known type can be turned into that value, and back. The two
directions are inverse to each other on what the wire format can hold.
-/

namespace DBus

/-! ### Writing values -/

namespace Write

/-- Refuses a value that is not of a type. -/
def checkType (v : Value) (t : Ty) : Write Unit :=
  unless v.hasType t do throw (.invalidVariant t.signature)

/-- Writes the signature that goes before the value of a variant. -/
def typeOf (v : Value) : Write Unit :=
  match Signature.ofString v.spelling with
  | .ok s => signature s
  | .error e => throw (.signature e)

mutual

/-- Writes a value without its type. -/
def value : Value → Write Unit
  | .byte n => number 1 n.toNat
  | .boolean b => boolean b
  | .int16 n => number 2 n.toUInt16.toNat
  | .uint16 n => number 2 n.toNat
  | .int32 n => number 4 n.toUInt32.toNat
  | .uint32 n => number 4 n.toNat
  | .int64 n => number 8 n.toUInt64.toNat
  | .uint64 n => number 8 n.toNat
  | .double bits => number 8 bits.toNat
  | .string s => string s
  | .objectPath p => objectPath p
  | .signature s => signature s
  | .unixFd index => number 4 index.toNat
  | .variant payload => do
    typeOf payload
    value payload
  | .array element vs => do
    let a ← arrayStart element.alignment
    elements element vs
    arrayEnd a
  | .dict k v es => do
    let a ← arrayStart 8
    entries k v es
    arrayEnd a
  | .struct fields => do
    align 8
    values fields

/-- Writes values one after the other. -/
def values : List Value → Write Unit
  | [] => pure ()
  | v :: vs => do
    value v
    values vs

/-- Writes the elements of an array. -/
def elements (element : Ty) : List Value → Write Unit
  | [] => pure ()
  | v :: vs => do
    checkType v element
    value v
    elements element vs

/-- Writes the entries of a dict. -/
def entries (k v : Ty) : List (Value × Value) → Write Unit
  | [] => pure ()
  | (a, b) :: es => do
    checkType a k
    checkType b v
    align 8
    value a
    value b
    entries k v es

end

/-- Writes a variant: the signature of a value, then the value. -/
def variant (v : Value) : Write Unit := do
  typeOf v
  value v

end Write

/-! ### Reading values -/

namespace Read

/-- The one type that a text spells. -/
def typeOf (spelling : String) : Read Ty :=
  match Ty.parse spelling with
  | .ok t => pure t
  | .error e => throw (.signature e)

mutual

/-- Reads a value of a type, `nested` reading the variants inside it. -/
def typed (nested : Read Value) : Ty → Read Value
  | .basic b => basic b
  | .variant => do return .variant (← nested)
  | .array (.entry k v) => do
    let entries ← arrayOf 8 do
      align 8
      let a ← typed nested k
      let b ← typed nested v
      return (a, b)
    return .dict k v entries
  | .array element => do
    let values ← arrayOf element.alignment (typed nested element)
    return .array element values
  | .struct fields => do
    align 8
    return .struct (← typedAll nested fields)
  | .entry k v => throw (.invalidVariant (Ty.entry k v).signature)

/-- Reads a value of each type in turn. -/
def typedAll (nested : Read Value) : List Ty → Read (List Value)
  | [] => return []
  | t :: ts => do
    let v ← typed nested t
    let vs ← typedAll nested ts
    return v :: vs

end

/-- Reads a variant: a signature and a value of that type. At most `depth` variants may be nested in
one another, this one included. -/
def variantWithin : (depth : Nat) → Read Value
  | 0 => do
    let _ ← typeOf (← signature).text
    throw .variantTooDeep
  | depth + 1 => do
    let t ← typeOf (← signature).text
    typed (variantWithin depth) t

/-- Reads a variant. -/
def variant : Read Value :=
  variantWithin maxVariantDepth

/-- Reads a variant whose signature must be `expected`. -/
def variantOf (expected : String) : Read Value := do
  let s ← signature
  if s.text ≠ expected then throw (.unexpectedSignature expected s.text)
  let t ← typeOf s.text
  typed (variantWithin (maxVariantDepth - 1)) t

/-- Reads a value of a type. -/
def value (t : Ty) : Read Value :=
  typed variant t

end Read

/-! ### Bodies of one value -/

namespace Writer

/-- The reader of what has been written. -/
def reader (w : Writer) : Reader :=
  Reader.new w.order w.bytes

/-- What becomes of a body by an action. -/
def write (w : Writer) (action : Write Unit) : Except Error Writer :=
  match action w with
  | .ok _ w => .ok w
  | .error e _ => .error e

/-- The body that holds just a value, whose signature must be `expected`. -/
def ofValue (v : Value) (expected : String) : Except Error Writer :=
  if v.spelling = expected then (Writer.new .native).write (Write.value v)
  else .error (.unexpectedSignature expected v.spelling)

/-- The value at the start of a body, of the type that a signature spells. -/
def toValue (w : Writer) (spelling : String) : Except Error Value :=
  match Ty.parse spelling with
  | .ok t => w.reader.run (Read.value t)
  | .error e => .error (.signature e)

end Writer

end DBus

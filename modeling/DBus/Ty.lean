import DBus.BasicType

/-!
# Types

The tree of a type, the signature that spells it, and what the wire format needs to know about it.
Every tree has a signature, also the trees that no signature can spell: a struct without fields, a
dict entry that is not the element of an array, a key with parts. `Ty.signature` is the printer that
the parser of signatures is measured by.
-/

namespace DBus

/-- The tree of a type. -/
inductive Ty where
  | basic (type : BasicType)
  | variant
  | array (element : Ty)
  | struct (fields : List Ty)
  | entry (key value : Ty)
  deriving Repr

namespace Ty

/-! ### Equality of trees is decidable -/

mutual

/-- Decides whether two trees are equal. -/
def decEq : (a b : Ty) → Decidable (a = b)
  | .basic a, .basic b =>
    if h : a = b then .isTrue (h ▸ rfl) else .isFalse fun e => h (Ty.basic.inj e)
  | .variant, .variant => .isTrue rfl
  | .array a, .array b =>
    match decEq a b with
    | .isTrue h => .isTrue (h ▸ rfl)
    | .isFalse h => .isFalse fun e => h (Ty.array.inj e)
  | .struct a, .struct b =>
    match decEqList a b with
    | .isTrue h => .isTrue (h ▸ rfl)
    | .isFalse h => .isFalse fun e => h (Ty.struct.inj e)
  | .entry a b, .entry c d =>
    match decEq a c, decEq b d with
    | .isTrue h, .isTrue h' => .isTrue (h ▸ h' ▸ rfl)
    | .isFalse h, _ => .isFalse fun e => h (Ty.entry.inj e).1
    | _, .isFalse h => .isFalse fun e => h (Ty.entry.inj e).2
  | .basic _, .variant | .basic _, .array _ | .basic _, .struct _ | .basic _, .entry _ _
  | .variant, .basic _ | .variant, .array _ | .variant, .struct _ | .variant, .entry _ _
  | .array _, .basic _ | .array _, .variant | .array _, .struct _ | .array _, .entry _ _
  | .struct _, .basic _ | .struct _, .variant | .struct _, .array _ | .struct _, .entry _ _
  | .entry _ _, .basic _ | .entry _ _, .variant | .entry _ _, .array _ | .entry _ _, .struct _ =>
    .isFalse (by intro h; cases h)

/-- Decides whether two lists of trees are equal. -/
def decEqList : (a b : List Ty) → Decidable (a = b)
  | [], [] => .isTrue rfl
  | a :: as, b :: bs =>
    match decEq a b, decEqList as bs with
    | .isTrue h, .isTrue h' => .isTrue (h ▸ h' ▸ rfl)
    | .isFalse h, _ => .isFalse fun e => h (List.cons.inj e).1
    | _, .isFalse h => .isFalse fun e => h (List.cons.inj e).2
  | [], _ :: _ | _ :: _, [] => .isFalse (by intro h; cases h)

end

instance : DecidableEq Ty := decEq

/-! ### Signatures -/

mutual

/-- The characters that spell a type. -/
def spelling : Ty → List Char
  | .basic b => [b.code]
  | .variant => ['v']
  | .array element => 'a' :: spelling element
  | .struct fields => '(' :: spellings fields ++ [')']
  | .entry key value => '\x7b' :: spelling key ++ spelling value ++ ['\x7d']

/-- The characters that spell a list of types, one after the other. -/
def spellings : List Ty → List Char
  | [] => []
  | t :: ts => spelling t ++ spellings ts

end

/-- The signature of a type. -/
def signature (t : Ty) : String :=
  String.ofList (spelling t)

/-- The signature of a list of types. -/
def signatureOf (ts : List Ty) : String :=
  String.ofList (spellings ts)

/-! ### What the wire format asks of a type -/

/-- A value starts at a multiple of this many bytes. -/
def alignment : Ty → Nat
  | .basic b => b.alignment
  | .variant => 1
  | .array _ => 4
  | .struct _ | .entry _ _ => 8

/-- The basic type that a tree is. -/
def basic? : Ty → Option BasicType
  | .basic b => some b
  | _ => none

/-- Whether a type has no parts. -/
def isBasic (t : Ty) : Bool :=
  t.basic?.isSome

/-- Whether a type is an array of dict entries. -/
def isDict : Ty → Bool
  | .array (.entry _ _) => true
  | _ => false

/-- The types that stand directly inside a type. -/
def children : Ty → List Ty
  | .basic _ | .variant => []
  | .array element => [element]
  | .struct fields => fields
  | .entry key value => [key, value]

end Ty

end DBus

import DBus.Bindings.Code

/-!
# Types of generated code

The type in which generated code holds the values of a type, the type it passes to routines that
write them, and how an expression becomes one of the latter.
-/

namespace DBus.Bindings

/-- Whether values can be the keys of an ordered map. -/
def isOrdered (t : Ty) : Bool :=
  t ≠ .basic .double

/-- Whether values are passed as they are and not by reference. -/
def isCopy : Ty → Bool
  | .basic b => !b.isText
  | _ => false

/-- The type of a list of values in parentheses, a comma between each two. -/
def tupleText (types : List String) : String :=
  "(" ++ " , ".intercalate types ++ ")"

/-- An ordered map. -/
def mapText (key value : String) : String :=
  ":: std :: collections :: BTreeMap < " ++ key ++ " , " ++ value ++ " >"

mutual

/-- The type in which values are held, `rt` being the path of the runtime crate. -/
def ownedText (rt : String) : Ty → String
  | .basic .byte => "u8"
  | .basic .boolean => "bool"
  | .basic .int16 => "i16"
  | .basic .uint16 => "u16"
  | .basic .int32 => "i32"
  | .basic .uint32 => "u32"
  | .basic .int64 => "i64"
  | .basic .uint64 => "u64"
  | .basic .double => "f64"
  | .basic .string => "String"
  | .basic .objectPath => rt ++ " :: ObjectPathBuf"
  | .basic .signature => rt ++ " :: SignatureBuf"
  | .basic .unixFd => rt ++ " :: UnixFd"
  | .variant => rt ++ " :: Variant"
  | .array (.entry k v) =>
    if isOrdered k then mapText (ownedText rt k) (ownedText rt v)
    else "Vec < " ++ tupleText [ownedText rt k, ownedText rt v] ++ " >"
  | .array element => "Vec < " ++ ownedText rt element ++ " >"
  | .struct fields => "(" ++ " ".intercalate (fieldTexts rt fields) ++ ")"
  | .entry k v => tupleText [ownedText rt k, ownedText rt v]

/-- The types of the fields of a struct, each with a comma behind it. -/
def fieldTexts (rt : String) : List Ty → List String
  | [] => []
  | t :: ts => (ownedText rt t ++ " ,") :: fieldTexts rt ts

end

/-- The type that routines take values as. -/
def paramText (rt : String) : Ty → String
  | .basic .string => "& str"
  | .basic .objectPath => "& " ++ rt ++ " :: ObjectPath"
  | .basic .signature => "& " ++ rt ++ " :: Signature"
  | .basic b => ownedText rt (.basic b)
  | .array (.entry k v) =>
    if isOrdered k then "& " ++ ownedText rt (.array (.entry k v))
    else "& [" ++ tupleText [ownedText rt k, ownedText rt v] ++ "]"
  | .array element => "& [" ++ ownedText rt element ++ "]"
  | t => "& " ++ ownedText rt t

/-- A reference, as an argument of a routine. -/
def passRef (t : Ty) (expression : String) : String :=
  if isCopy t then "* " ++ expression else expression

/-- A place that holds a value, as an argument of a routine. -/
def passPlace (t : Ty) (expression : String) : String :=
  if isCopy t then expression else "& " ++ expression

/-- The type of the values of some types together: none, the one, or all in parentheses. -/
def ownedTuple (rt : String) : List Ty → String
  | [] => "()"
  | [t] => ownedText rt t
  | ts => tupleText (ts.map (ownedText rt))

end DBus.Bindings

import DBus.Bindings.Resolve
import DBus.Bindings.Synthesis

/-!
# The struct of properties

The proxy and the handler of an interface share a struct that holds the values of the properties that
can be read, and turns them into a map by name and back. Every field may be unset.
-/

namespace DBus.Bindings

namespace PropertiesStruct

open Code (paren brace)

/-- The map of the values of properties by name. -/
def valueMap (rt : String) : String :=
  ":: std :: collections :: BTreeMap < String , " ++ rt ++ " :: Variant >"

/-- The map of the values of properties by name, as the argument of a type that ends with it. -/
def valueMapArgument (rt : String) : String :=
  valueMap rt ++ ">"

/-- The name of the struct. -/
def name (i : ResolvedInterface) : Ident :=
  .plain (i.typeName ++ "Properties")

/-- The properties that have a field. -/
def readable (i : ResolvedInterface) : List ResolvedProperty :=
  i.properties.filter (·.access.isReadable)

/-- The field of a property. -/
def field (rt : String) (p : ResolvedProperty) : Code :=
  Code.doc (p.doc.getD ("The `" ++ p.name ++ "` property."))
    ++ [.fixed "pub", .define p.field, .fixed (": Option < " ++ ownedText rt p.type ++ " > ,")]

/-- Sets the field of a property from its value. -/
def fromArm (rt : String) (p : ResolvedProperty) (read : String) : Code :=
  [.literal p.name, .fixed "=>",
    brace [.fixed ("let buf = " ++ rt ++ " :: BodyBuf :: from_variant"),
      paren [.fixed "value ,", .signature [p.type]], .fixed "? ; this .", .use p.field,
      .fixed "= Some", paren (Code.call .read read ++ [.fixed "(& mut buf . read ()) ?"]),
      .fixed ";"]]

/-- Adds the value of a property whose field is set. -/
def toStatement (rt : String) (p : ResolvedProperty) (write : String) : Code :=
  [.fixed "if let Some (value) = & self .", .use p.field,
    brace ([.fixed ("let mut buf = " ++ rt ++ " :: BodyBuf :: new () ;")]
      ++ Code.call .write write
      ++ [.fixed ("(& mut buf , " ++ passRef p.type "value" ++ ") ? ; values . insert"),
        paren [.fixed "String :: from", paren [.literal p.name], .fixed ", buf . to_variant",
          paren [.signature [p.type]], .fixed "?"],
        .fixed ";"])]

/-- The code for a property with a field: the arm that sets the field, and the statement that adds
its value. Both routines are asked for at once. -/
def conversions (rt : String) (p : ResolvedProperty) : Generator (Code × Code) := do
  let read ← Generator.reader p.type
  let write ← Generator.writer p.type
  return (fromArm rt p read, toStatement rt p write)

/-- The body of the function from a map. -/
def fromBody (arms : List Code) : Code :=
  if arms.isEmpty then [.fixed "let _ = values ; Ok (Self :: default ())"]
  else
    [.fixed "let mut this = Self :: default () ; for (name , value) in values",
      brace [.fixed "match name . as_str ()", brace (arms.flatten ++ [.fixed "_ =>", brace []])],
      .fixed "Ok (this)"]

/-- The body of the function to a map. -/
def toBody (statements : List Code) : Code :=
  if statements.isEmpty then [.fixed "Ok (:: std :: collections :: BTreeMap :: new ())"]
  else
    .fixed "let mut values = :: std :: collections :: BTreeMap :: new () ;"
      :: statements.flatten ++ [.fixed "Ok (values)"]

/-- The struct of an interface and its functions. -/
def code (rt : String) (i : ResolvedInterface) : Generator Code := do
  let ps := readable i
  let parts ← ps.mapM' (conversions rt)
  return Code.doc ("The readable properties of the `" ++ i.name ++ "` interface.")
    ++ [.fixed "# [derive (Debug , Clone , Default , PartialEq)] pub struct", .define (name i),
      brace (ps.flatMap (field rt)), .fixed "impl", .use (name i),
      brace (Code.remark " Decode properties from a map of property names to values."
        ++ Code.remark ""
        ++ Code.remark " Properties which are not part of the interface are ignored."
        ++ [.fixed "pub fn", .define (.plain "from_variants"),
          .fixed ("(values : & " ++ valueMap rt ++ ") -> " ++ rt ++ " :: Result < Self >"),
          brace (fromBody (parts.map (·.1)))]
        ++ Code.remark " Encode the properties which are set into a map of property"
        ++ Code.remark " names to values."
        ++ [.fixed "pub fn", .define (.plain "to_variants"),
          .fixed ("(& self) -> " ++ rt ++ " :: Result < " ++ valueMapArgument rt),
          brace (toBody (parts.map (·.2)))])]

end PropertiesStruct

end DBus.Bindings

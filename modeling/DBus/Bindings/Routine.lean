import DBus.Bindings.TypeText

/-!
# Routines

Values are read and written by routines, one for each type and direction. A routine calls those of
the types directly inside its own, by the names that they were given: the body of a routine is made
of these names.
-/

namespace DBus.Bindings

namespace Routine

/-- The code that every routine begins with: what it does, its name and what it takes and gives. -/
def head (text : String) (inlined : Bool) (name : String) (takes : String) (gives : String) : Code :=
  Code.doc text ++ (if inlined then [.fixed "# [inline]"] else [])
    ++ [.fixed "pub fn", .define (.plain name), .fixed ("(" ++ takes ++ ") -> " ++ gives)]

/-! ### Reading -/

/-- The body of the routine that reads a basic type. -/
def readBasic (rt : String) : BasicType → String
  | .boolean => "buf . load_bool ()"
  | .unixFd => "buf . load_unix_fd ()"
  | .string => "buf . load_string ()"
  | .objectPath => "Ok (buf . load_object_path () ? . to_owned ())"
  | .signature => "Ok (buf . load_signature () ? . to_owned ())"
  | b => "buf . load :: < " ++ ownedText rt (.basic b) ++ " > ()"

/-- The local that holds a field of a struct, by the index of the field. -/
def fieldLocal (n : Nat) : Ident :=
  .plain ("f" ++ toString n)

/-- Reads every field of a struct, counted from an index, into a local of its own. -/
def readFields : Nat → List String → Code
  | _, [] => []
  | n, read :: reads =>
    [.fixed "let", .define (fieldLocal n), .fixed "=", .routine .read read, .fixed "(buf) ? ;"]
      ++ readFields (n + 1) reads

/-- The locals of some fields, counted from an index, each with a comma behind it. -/
def fieldLocals : Nat → Nat → Code
  | _, 0 => []
  | n, count + 1 => [.use (fieldLocal n), .fixed ","] ++ fieldLocals (n + 1) count

/-- The loop that reads the elements of an array. -/
def readElements (element : Ty) (read : String) : Code :=
  match element with
  | .entry k _ =>
    if isOrdered k then
      [.fixed "let mut values = :: std :: collections :: BTreeMap :: new () ; while ! array . is_empty ()",
        Code.brace [.fixed "let (key , value) =", .routine .read read,
          .fixed "(& mut array) ? ; values . insert (key , value) ;"]]
    else pushed
  | _ => pushed
where
  /-- The loop when the values go into a list. -/
  pushed : Code :=
    [.fixed "let mut values = Vec :: new () ; while ! array . is_empty ()",
      Code.brace [.fixed "values . push",
        Code.paren [.routine .read read, .fixed "(& mut array) ?"], .fixed ";"]]

/-- The body of the routine that reads an array. -/
def readArray (element : Ty) (read : String) : Code :=
  .fixed ("let mut array = buf . load_array (" ++ toString element.alignment ++ ") ? ;")
    :: readElements element read ++ [.fixed "Ok (values)"]

/-- The body of the routine that reads a struct. -/
def readStruct (reads : List String) : Code :=
  .fixed "buf . align (8) ? ;" :: readFields 0 reads
    ++ [.fixed "Ok", Code.paren [Code.paren (fieldLocals 0 reads.length)]]

/-- The body of the routine that reads a dict entry. -/
def readEntry (readKey readValue : String) : Code :=
  [.fixed "buf . align (8) ? ; let key =", .routine .read readKey,
    .fixed "(buf) ? ; let value =", .routine .read readValue, .fixed "(buf) ? ; Ok ((key , value))"]

/-- The routine that reads a type. -/
def reader (rt : String) (t : Ty) (name : String) (body : Code) : Code :=
  head ("Read a value with the signature `" ++ t.signature ++ "`.") false name
      ("buf : & mut " ++ rt ++ " :: Body < '_ >") (rt ++ " :: Result < " ++ ownedText rt t ++ " >")
    ++ [Code.brace body]

/-! ### Writing -/

/-- The body of the routine that writes a basic type. -/
def writeBasic : BasicType → String
  | .boolean => "buf . store_bool (value)"
  | .unixFd => "buf . store_unix_fd (value)"
  | .string => "buf . store_str (value)"
  | .objectPath => "buf . store_object_path (value)"
  | .signature => "buf . store_signature (value)"
  | _ => "buf . store (value)"

/-- The empty value of a basic type, if its values are texts. -/
def emptyText? (rt : String) : BasicType → Option String
  | .string => some "\"\""
  | .objectPath => some (rt ++ " :: ObjectPath :: ROOT")
  | .signature => some (rt ++ " :: Signature :: EMPTY")
  | _ => none

/-- Writes every field of a struct, counted from an index. -/
def writeFields : Nat → List (Ty × String) → Code
  | _, [] => []
  | n, (t, write) :: rest =>
    [.routine .write write,
        .fixed ("(buf , " ++ passPlace t ("value . " ++ toString n) ++ ") ? ;")]
      ++ writeFields (n + 1) rest

/-- The loop that writes the elements of an array. -/
def writeElements (element : Ty) (write : String) : Code :=
  match element with
  | .entry k v =>
    [.fixed "for (key , item) in value",
      Code.brace [.routine .write write,
        .fixed ("(buf , " ++ passRef k "key" ++ " , " ++ passRef v "item" ++ ") ? ;")]]
  | element =>
    [.fixed "for item in value",
      Code.brace [.routine .write write, .fixed ("(buf , " ++ passRef element "item" ++ ") ? ;")]]

/-- The body of the routine that writes an array. -/
def writeArray (element : Ty) (write : String) : Code :=
  .fixed ("let array = buf . store_array_start (" ++ toString element.alignment ++ ") ? ;")
    :: writeElements element write ++ [.fixed "buf . finish_array (array)"]

/-- The body of the routine that writes a struct. -/
def writeStruct (fields : List Ty) (writes : List String) : Code :=
  .fixed "buf . align (8) ;" :: writeFields 0 (fields.zip writes) ++ [.fixed "Ok (())"]

/-- The body of the routine that writes a dict entry. -/
def writeEntry (writeKey writeValue : String) : Code :=
  [.fixed "buf . align (8) ;", .routine .write writeKey, .fixed "(buf , key) ? ;",
    .routine .write writeValue, .fixed "(buf , value)"]

/-- What the routine that writes a type takes besides the body. -/
def writeParams (rt : String) : Ty → String
  | .entry k v => "key : " ++ paramText rt k ++ " , value : " ++ paramText rt v
  | t => "value : " ++ paramText rt t

/-- Whether the routine that writes a type is to be inlined. -/
def isInlined : Ty → Bool
  | .basic _ | .variant => true
  | _ => false

/-- The routine that writes an optional text, nothing being written as the empty one. -/
def optionalWriter (rt : String) (t : Ty) (name empty : String) : Code :=
  head ("Write an optional value with the signature `" ++ t.signature
        ++ "`, where `None` is written as the empty value.") true (name ++ "_opt")
      ("buf : & mut " ++ rt ++ " :: BodyBuf , value : Option < " ++ paramText rt t ++ " >")
      (rt ++ " :: Result < () >")
    ++ [Code.brace [.routine .write name, .fixed ("(buf , value . unwrap_or (" ++ empty ++ "))")]]

/-- The routine that writes a type; a type whose values are texts has one for optional texts too. -/
def writer (rt : String) (t : Ty) (name : String) (body : Code) : Code :=
  head ("Write a value with the signature `" ++ t.signature ++ "`.") (isInlined t) name
      ("buf : & mut " ++ rt ++ " :: BodyBuf , " ++ writeParams rt t) (rt ++ " :: Result < () >")
    ++ [Code.brace body]
    ++ match t.basic?.bind (emptyText? rt) with
      | some empty => optionalWriter rt t name empty
      | none => []

/-! ### Both directions -/

/-- The body of the routine for a basic type. -/
def basicBody (rt : String) : Direction → BasicType → Code
  | .read, b => [.fixed (readBasic rt b)]
  | .write, b => [.fixed (writeBasic b)]

/-- The body of the routine for variants. -/
def variantBody : Direction → Code
  | .read => [.fixed "buf . load_variant ()"]
  | .write => [.fixed "buf . store_variant (value)"]

/-- The body of the routine for an array, which calls the one for its elements. -/
def arrayBody : Direction → Ty → String → Code
  | .read => readArray
  | .write => writeArray

/-- The body of the routine for a struct, which calls those for its fields. -/
def structBody : Direction → List Ty → List String → Code
  | .read, _, names => readStruct names
  | .write, fields, names => writeStruct fields names

/-- The body of the routine for a dict entry, which calls those for the key and the value. -/
def entryBody : Direction → String → String → Code
  | .read => readEntry
  | .write => writeEntry

/-- The routine for a type, of which the name and the body are given. -/
def define (rt : String) : Direction → Ty → (name : String) → (body : Code) → Code
  | .read => reader rt
  | .write => writer rt

end Routine

end DBus.Bindings

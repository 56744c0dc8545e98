import DBus.Ty

/-!
# Names in generated code

How the names of interfaces, members and arguments become identifiers. A D-Bus name may hold any
characters, so everything here is defined on all texts.
-/

namespace DBus.Bindings

/-- An identifier. One that is spelled like a keyword is marked as raw. -/
structure Ident where
  raw : Bool
  text : String
  deriving DecidableEq, Repr

namespace Ident

/-- An identifier that is no keyword. -/
def plain (text : String) : Ident := ⟨false, text⟩

/-- How an identifier is written. -/
def print (i : Ident) : String :=
  if i.raw then "r#" ++ i.text else i.text

end Ident

/-- The words that an identifier may be spelled like only when it is raw. -/
def keywords : List String :=
  ["abstract", "as", "async", "await", "become", "box", "break", "const", "continue", "do",
   "dyn", "else", "enum", "extern", "false", "final", "fn", "for", "gen", "if", "impl", "in",
   "let", "loop", "macro", "match", "mod", "move", "mut", "override", "priv", "pub", "ref",
   "return", "static", "struct", "trait", "true", "try", "type", "typeof", "unsafe",
   "unsized", "use", "virtual", "where", "while", "yield"]

/-- The words that no identifier may be spelled like. -/
def neverIdents : List String := ["crate", "self", "super", "Self", "_"]

/-- The locals of generated code, which arguments do not shadow. -/
def reservedLocals : List String :=
  ["array", "body", "buf", "call", "error", "handler", "interface", "item", "key", "message",
   "name", "output", "path", "properties", "reply", "rule", "subscription", "this", "transport",
   "value", "values"]

/-- The identifier that a name becomes. -/
def Ident.ofName (name : String) : Ident :=
  if neverIdents.contains name then ⟨false, name ++ "_"⟩
  else if keywords.contains name then ⟨true, name⟩
  else ⟨false, name⟩

/-! ### Case -/

/-- The name with an underscore before it, if it starts with a digit. -/
def notDigitFirst : List Char → List Char
  | c :: cs => if c.isDigit then '_' :: c :: cs else c :: cs
  | [] => []

/-- The letters and digits of a dotted name, each segment starting with a capital; `first` tells that
the next character kept is the first of its segment. -/
def capitalized (first : Bool) : List Char → List Char
  | [] => []
  | c :: cs =>
    if c = '.' then capitalized true cs
    else if c.isAlphanum then (if first then c.toUpper else c) :: capitalized false cs
    else capitalized first cs

/-- What the names of the types of an interface begin with, such as `OrgExampleFoo` for
`org.example.Foo`. -/
def typeName (interface : String) : String :=
  String.ofList (notDigitFirst (capitalized true interface.toList))

/-- Whether a word begins at a capital between two characters: after a lower case letter or digit,
and before a lower case letter if it comes after another capital. -/
def wordBegins : Option Char → Option Char → Bool
  | some before, next =>
    before.isLower || before.isDigit || before.isUpper && next.any Char.isLower
  | none, _ => false

/-- Writes a name in lower case behind what is written, `before` being the character before it. An
underscore goes before a word unless what is written ends with one. -/
def appendSnake (written : List Char) (before : Option Char) : List Char → List Char
  | [] => written
  | c :: cs =>
    if c.isUpper then
      let marked :=
        if wordBegins before cs.head? && written.getLast? != some '_' then written ++ ['_']
        else written
      appendSnake (marked ++ [c.toLower]) (some c) cs
    else appendSnake (written ++ [c]) (some c) cs

/-- A letter or digit as it is, and an underscore for everything else. -/
def wordChar (c : Char) : Char :=
  if c.isAlphanum then c else '_'

/-- A name in snake case, such as `get_all` for `GetAll` and `d_bus_name` for `DBusName`. -/
def snakeCase (name : String) : String :=
  match notDigitFirst (appendSnake [] none (name.toList.map wordChar)) with
  | [] => "_"
  | cs => String.ofList cs

/-- A signature with letters for its parentheses and braces. The letters are no type codes. -/
def mangle (spelling : List Char) : String :=
  String.ofList (spelling.map fun
    | '(' => 'r'
    | '\x7b' => 'e'
    | ')' | '\x7d' => 'z'
    | c => c)

/-! ### Distinct names -/

/-- The names taken in one place of the generated code, newest first. -/
structure Scope where
  taken : List String
  deriving Repr

namespace Scope

/-- A name with underscores added until it is none of those taken. With as many tries as names are
taken, the last one is free. -/
def freshen (taken : List String) : (tries : Nat) → String → String
  | 0, name => name
  | tries + 1, name => if taken.contains name then freshen taken tries (name ++ "_") else name

/-- Takes a name, or the first free one that comes from it. -/
def claim (s : Scope) (name : String) : String × Scope :=
  let name := if neverIdents.contains name then name ++ "_" else name
  let name := freshen s.taken s.taken.length name
  (name, ⟨name :: s.taken⟩)

/-- Takes an identifier. -/
def ident (s : Scope) (name : String) : Ident × Scope :=
  let (name, s) := s.claim name
  (Ident.ofName name, s)

/-- Takes the identifier of an argument; one without a name is called after its index. -/
def argument (s : Scope) (name : Option String) (index : Nat) : Ident × Scope :=
  match name with
  | some name => s.ident (if name.isEmpty then "arg" ++ toString index else snakeCase name)
  | none => s.ident ("arg" ++ toString index)

/-- The scope of the arguments of a member. -/
def ofArguments : Scope := ⟨reservedLocals⟩

end Scope

end DBus.Bindings

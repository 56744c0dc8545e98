import DBus.Bindings.Name
import DBus.Text.Hex

/-!
# Generated code

Generated code is a list of pieces. Most are fixed text, whose tokens stand one space apart. What
comes from an interface is a piece of its own: the names that the code defines or uses, its string
literals, the signatures it compares, and the routines it calls. So what a piece of code defines and
calls can be read off it without reading its text.
-/

namespace DBus.Bindings

/-- The direction of a routine: out of a body or into one. -/
inductive Direction where
  | read | write
  deriving DecidableEq, Repr

namespace Direction

/-- What the names of routines begin with. -/
def verb : Direction → String
  | .read => "read"
  | .write => "write"

/-- The module that holds the routines. -/
def module : Direction → String
  | .read => "readers"
  | .write => "writers"

end Direction

/-- The name of the routine for a type. -/
def routineName (d : Direction) (t : Ty) : String :=
  d.verb ++ "_" ++ mangle t.spelling

/-- What encloses a group of tokens. -/
inductive Enclosure where
  | paren | bracket | brace
  deriving DecidableEq, Repr

/-- A piece of generated code. -/
inductive Piece where
  /-- Text that is the same for every interface, or spells a type. -/
  | fixed (text : String)
  /-- A name where it is defined. -/
  | define (name : Ident)
  /-- A name where it is used. -/
  | use (name : Ident)
  /-- A string literal. -/
  | literal (text : String)
  /-- The signature of a list of types, as a string literal. -/
  | signature (types : List Ty)
  /-- The name of a routine where it is called. -/
  | routine (direction : Direction) (name : String)
  | group (enclosure : Enclosure) (body : List Piece)
  deriving Repr

/-- A sequence of pieces. -/
abbrev Code := List Piece

/-! ### Printing -/

/-- A string literal. It differs from a quoted text in how a zero before an octal digit is
written. -/
def literalChars : List Char → List Char
  | [] => []
  | '\x00' :: c :: rest =>
    (if '0' ≤ c && c ≤ '7' then ['\\', 'x', '0', '0'] else ['\\', '0']) ++ literalChars (c :: rest)
  | c :: rest => Text.quotedChar c ++ literalChars rest

/-- A text as a string literal. -/
def stringLiteral (s : String) : String :=
  String.ofList ('"' :: literalChars s.toList ++ ['"'])

mutual

/-- The text of a piece. -/
def Piece.print : Piece → String
  | .fixed text => text
  | .define name | .use name => name.print
  | .literal text => stringLiteral text
  | .signature types => stringLiteral (Ty.signatureOf types)
  | .routine _ name => name
  | .group .paren body => "(" ++ Code.print body ++ ")"
  | .group .bracket body => "[" ++ Code.print body ++ "]"
  | .group .brace [] => "\x7b \x7d"
  | .group .brace (p :: ps) => "\x7b " ++ Code.print (p :: ps) ++ " \x7d"

/-- The text of code, its pieces one space apart. -/
def Code.print : Code → String
  | [] => ""
  | [p] => p.print
  | p :: q :: ps => p.print ++ (" " ++ Code.print (q :: ps))

end

/-! ### What code defines and calls -/

/-- The names that code defines at its own level, outside of any group. -/
def Code.defines (code : Code) : List Ident :=
  code.filterMap fun
    | .define name => some name
    | _ => none

mutual

/-- The names of the routines that a piece calls, in order. -/
def Piece.calls : Piece → List (Direction × String)
  | .routine d name => [(d, name)]
  | .group _ body => Code.calls body
  | .fixed _ | .define _ | .use _ | .literal _ | .signature _ => []

/-- The names of the routines that code calls, in order. -/
def Code.calls : Code → List (Direction × String)
  | [] => []
  | p :: ps => p.calls ++ Code.calls ps

end

mutual

/-- The signatures in a piece, in order. -/
def Piece.signatures : Piece → List (List Ty)
  | .signature types => [types]
  | .group _ body => Code.signatures body
  | .fixed _ | .define _ | .use _ | .literal _ | .routine _ _ => []

/-- The signatures in code, in order. -/
def Code.signatures : Code → List (List Ty)
  | [] => []
  | p :: ps => p.signatures ++ Code.signatures ps

end

mutual

/-- The identifiers in a piece, in order. -/
def Piece.idents : Piece → List Ident
  | .define name | .use name => [name]
  | .routine _ name => [.plain name]
  | .group _ body => Code.idents body
  | .fixed _ | .literal _ | .signature _ => []

/-- The identifiers in code, in order. -/
def Code.idents : Code → List Ident
  | [] => []
  | p :: ps => p.idents ++ Code.idents ps

end

/-! ### Building code -/

namespace Code

/-- Code in parentheses. -/
def paren (body : Code) : Piece := .group .paren body

/-- Code in brackets. -/
def bracket (body : Code) : Piece := .group .bracket body

/-- Code in braces. -/
def brace (body : Code) : Piece := .group .brace body

/-- A line of documentation that comes from an interface. -/
def doc (text : String) : Code :=
  [.fixed "#", bracket [.fixed "doc =", .literal text]]

/-- A line of documentation that is the same for every interface. -/
def remark (line : String) : Code :=
  [.fixed "#", bracket [.fixed ("doc = r\"" ++ line ++ "\"")]]

/-- A call of a routine from outside its module. -/
def call (d : Direction) (name : String) : Code :=
  [.fixed (d.module ++ " ::"), .routine d name]

/-- Pieces with a comma between each two. -/
def commaSeparated : List Code → Code
  | [] => []
  | [c] => c
  | c :: cs => c ++ .fixed "," :: commaSeparated cs

end Code

end DBus.Bindings

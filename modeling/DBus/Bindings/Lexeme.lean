import DBus.Bindings.Code
import DBus.Bindings.Literal
import DBus.Text.Split

/-!
# Lexemes

Code that is given as text is cut into lexemes, so that it stands in generated code one space between
tokens like everything else. Comments fall away, except that a documentation comment is the attribute
it stands for. The path of the runtime crate, to which generated code refers, is given in this way; it
is taken from the root unless it says otherwise, and a text that cannot be cut into lexemes is
replaced by the path of the default crate.
-/

namespace DBus.Bindings

/-- A token as it is printed. -/
structure Lexeme where
  text : String
  /-- Whether the next token follows without a space. -/
  glued : Bool
  deriving Repr

namespace Lexeme

/-- A token that a space follows. -/
def alone (cs : List Char) : Lexeme := ⟨String.ofList cs, false⟩

/-- The text of a list of tokens. -/
def join : List Lexeme → String
  | [] => ""
  | [l] => l.text
  | l :: m :: rest => l.text ++ (if l.glued then "" else " ") ++ join (m :: rest)

/-- A group of tokens. -/
def group : Enclosure → List Lexeme → Lexeme
  | .paren, body => ⟨"(" ++ join body ++ ")", false⟩
  | .bracket, body => ⟨"[" ++ join body ++ "]", false⟩
  | .brace, [] => ⟨"\x7b \x7d", false⟩
  | .brace, body => ⟨"\x7b " ++ join body ++ " \x7d", false⟩

/-! ### Blanks and comments -/

/-- Whether a character separates tokens. -/
def isSeparator (c : Char) : Bool :=
  Text.isBlank c || c == '\u200E' || c == '\u200F'

/-- A line, and what follows it. A carriage return before the line feed is no part of the line. -/
def line (cs : List Char) : List Char × List Char :=
  match cs.takeWhile (· != '\n'), cs.dropWhile (· != '\n') with
  | body, [] => (body, [])
  | body, rest => (if body.getLast? == some '\r' then body.dropLast else body, rest)

/-- What follows a comment that is nested `depth` deep, and the comment, newest character first. -/
def blockComment : (depth : Nat) → (passed : List Char) → List Char →
    Option (List Char × List Char)
  | depth, passed, '*' :: '/' :: cs =>
    if depth ≤ 1 then some (passed, cs) else blockComment (depth - 1) ('/' :: '*' :: passed) cs
  | depth, passed, '/' :: '*' :: cs => blockComment (depth + 1) ('*' :: '/' :: passed) cs
  | depth, passed, c :: cs => blockComment depth (c :: passed) cs
  | _, _, [] => none

/-- Whether a text begins in a given way. -/
def begins (beginning : String) (cs : List Char) : Bool :=
  beginning.toList.isPrefixOf cs

/-- What follows the blanks and comments that stand here. A comment that never ends stays. -/
def skipBlanks : (fuel : Nat) → List Char → List Char
  | 0, cs => cs
  | fuel + 1, cs =>
    if begins "//" cs && (!begins "///" cs || begins "////" cs) && !begins "//!" cs then
      skipBlanks fuel (line cs).2
    else if begins "/**/" cs then skipBlanks fuel (cs.drop 4)
    else if begins "/*" cs && (!begins "/**" cs || begins "/***" cs) && !begins "/*!" cs then
      match blockComment 1 [] (cs.drop 2) with
      | some (_, rest) => skipBlanks fuel rest
      | none => cs
    else
      match cs with
      | c :: rest => if isSeparator c then skipBlanks fuel rest else cs
      | [] => []

/-- The attribute that a documentation comment stands for. -/
def docLexemes (inner : Bool) (text : List Char) : List Lexeme :=
  let attr := ⟨"[doc = " ++ stringLiteral (String.ofList text) ++ "]", false⟩
  if inner then [⟨"#", false⟩, ⟨"!", false⟩, attr] else [⟨"#", false⟩, attr]

/-- Whether every carriage return stands before a line feed. -/
def returnsPaired : List Char → Bool
  | [] => true
  | c :: cs => (c != '\r' || cs.head? == some '\n') && returnsPaired cs

/-- The text of a documentation comment, whether it is meant for what surrounds it, and what follows
it. -/
def docText (cs : List Char) : Option (List Char × Bool × List Char) :=
  if begins "//!" cs then
    let (text, rest) := line (cs.drop 3)
    some (text, true, rest)
  else if begins "/*!" cs then
    (blockComment 1 [] (cs.drop 3)).map fun r => (r.1.reverse, true, r.2)
  else if begins "///" cs && !begins "////" cs then
    let (text, rest) := line (cs.drop 3)
    some (text, false, rest)
  else if begins "/**" cs && !begins "/***" cs then
    (blockComment 1 [] (cs.drop 3)).map fun r => (r.1.reverse, false, r.2)
  else none

/-- A documentation comment, and what follows it. -/
def docComment (cs : List Char) : Option (List Lexeme × List Char) := do
  let (text, inner, rest) ← docText cs
  if returnsPaired text then some (docLexemes inner text, rest) else none

/-! ### Single tokens -/

/-- The part of a text before one of its ends. -/
def before (rest cs : List Char) : List Char :=
  cs.take (cs.length - rest.length)

/-- Whether an operator character stands here, and no comment begins. -/
def atOperator (cs : List Char) : Bool :=
  !begins "//" cs && !begins "/*" cs && match cs with
    | c :: _ => "~!@#$%^&*-=+|;:,<.>/?'".toList.contains c
    | [] => false

/-- What follows an identifier, which may be marked as raw. -/
def afterIdentifier? (cs : List Char) : Option (List Char) :=
  if begins "r#" cs then do
    let rest ← Text.afterWord? (cs.drop 2)
    if neverIdents.contains (String.ofList (before rest (cs.drop 2))) then none else some rest
  else Text.afterWord? cs

/-- Whether the mark of a lifetime may stand before a text: before an identifier, and not where the
two would begin a character or a marked text. -/
def beginsLifetime (cs : List Char) : Bool :=
  match afterIdentifier? cs with
  | some ('\'' :: _) => false
  | some ('#' :: _) => begins "r#" cs
  | some _ => true
  | none => false

/-- An operator character, glued to the next one. The mark of a lifetime is glued to its name. -/
def operator (cs : List Char) : Option (Lexeme × List Char) :=
  if atOperator cs then
    match cs with
    | '\'' :: rest => if beginsLifetime rest then some (⟨"'", true⟩, rest) else none
    | c :: rest => some (⟨String.singleton c, atOperator rest⟩, rest)
    | [] => none
  else none

/-- The beginnings of texts, where no identifier is seen. -/
def quotedBeginnings : List String :=
  ["r\"", "r#\"", "r##", "b\"", "b'", "br\"", "br#", "c\"", "cr\"", "cr#"]

/-- The token that marks the place of a literal that could not be read. -/
def placeholder : String := "(/*ERROR*/)"

/-- What follows a literal or the mark of one. -/
def afterLiteral? (cs : List Char) : Option (List Char) :=
  if begins placeholder cs then some (cs.drop placeholder.length) else Literal.after? cs

/-- A single token, and what follows it. -/
def single (cs : List Char) : Option (Lexeme × List Char) :=
  match afterLiteral? cs with
  | some rest => some (alone (before rest cs), rest)
  | none =>
    match operator cs with
    | some r => some r
    | none =>
      if quotedBeginnings.any (begins · cs) then none
      else (afterIdentifier? cs).map fun rest => (alone (before rest cs), rest)

/-- The enclosure that opens where a text begins. -/
def opening? : List Char → Option Enclosure
  | '(' :: cs => if begins placeholder ('(' :: cs) then none else some .paren
  | '[' :: _ => some .bracket
  | '\x7b' :: _ => some .brace
  | _ => none

/-- The enclosure that a character closes. -/
def closing? : Char → Option Enclosure
  | ')' => some .paren
  | ']' => some .bracket
  | '\x7d' => some .brace
  | _ => none

/-- Cuts a text into tokens. `outer` holds the open groups with the tokens before them, and `found`
the tokens of the innermost group, newest first. -/
def run : (fuel : Nat) → (outer : List (Enclosure × List Lexeme)) → (found : List Lexeme) →
    List Char → Option (List Lexeme)
  | 0, _, _, _ => none
  | fuel + 1, outer, found, cs =>
    let cs := skipBlanks cs.length cs
    match docComment cs with
    | some (lexemes, rest) => run fuel outer (lexemes.reverse ++ found) rest
    | none =>
      match cs with
      | [] => if outer.isEmpty then some found.reverse else none
      | c :: rest =>
        match opening? cs, closing? c, outer with
        | some e, _, outer => run fuel ((e, found) :: outer) [] rest
        | none, some e, (opened, before) :: outer =>
          if e = opened then run fuel outer (group e found.reverse :: before) rest else none
        | none, some _, [] => none
        | none, none, outer =>
          match single cs with
          | some (lexeme, rest) => run fuel outer (lexeme :: found) rest
          | none => none

/-- The tokens of a text. -/
def ofText (text : String) : Option (List Lexeme) :=
  run (text.toList.length + 1) [] [] text.toList

end Lexeme

/-! ### The path of the runtime crate -/

/-- The crate that generated code refers to unless another one is asked for. -/
def defaultCrate : String := "tokio_dbus"

/-- Whether a path is meant as it stands, and not relative to the root. -/
def isRooted (path : List Char) : Bool :=
  Lexeme.begins "::" path
    || ["crate", "self", "super"].any fun root =>
      Lexeme.begins root path && let rest := path.drop root.length
        rest.isEmpty || Lexeme.begins "::" rest

/-- The path of a crate as it stands in generated code. -/
def runtimePath (crate : String) : String :=
  let path := Text.trim crate
  let rooted := if isRooted path.toList then path else "::" ++ path
  match Lexeme.ofText rooted with
  | some lexemes => Lexeme.join lexemes
  | none => ":: " ++ defaultCrate

end DBus.Bindings

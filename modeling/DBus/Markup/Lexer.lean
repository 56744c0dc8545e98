import DBus.Markup.Char
import DBus.Markup.Token

/-!
# Cutting a document into tokens

The lexer goes through a document in phases: what stands before the document type, the document type
itself, what stands between it and the first element, the elements, and what stands behind them. It
counts the open elements to know where the last one ends, and does not compare the names of tags.
A text may end wherever a token could begin, also with elements open.

The functions on characters take what is still to be read and give what is left of it; `none` means
that the text is not markup there.
-/

namespace DBus.Markup

/-! ### Pieces of tokens -/

/-- What follows a given beginning. -/
def after (beginning : List Char) (cs : List Char) : Option (List Char) :=
  if beginning.isPrefixOf cs then some (cs.drop beginning.length) else none

/-- Whether a text begins in a given way. -/
def begins (beginning : String) (cs : List Char) : Bool :=
  beginning.toList.isPrefixOf cs

/-- What follows a given word. -/
def afterWord (word : String) (cs : List Char) : Option (List Char) :=
  after word.toList cs

/-- What follows the space that may stand here. -/
def skipSpace (cs : List Char) : List Char :=
  cs.dropWhile isSpace

/-- What follows the space that must stand here. -/
def needSpace : List Char → Option (List Char)
  | c :: cs => if isSpace c then some (skipSpace cs) else none
  | [] => none

/-- What follows an equals sign with the space around it. -/
def equals (cs : List Char) : Option (List Char) :=
  (after ['='] (skipSpace cs)).map skipSpace

/-- The quote that stands here, and what follows it. -/
def quote : List Char → Option (Char × List Char)
  | c :: cs => if c == '"' || c == '\'' then some (c, cs) else none
  | [] => none

/-- Space, or the end of a declaration, which stays. -/
def spaceOrEnd (cs : List Char) : Option (List Char) :=
  if cs.isEmpty || begins "?>" cs then some cs else needSpace cs

/-- A name that may hold colons. -/
def plainName : List Char → Option (String × List Char)
  | c :: cs =>
    if isNameStart c then
      some (String.ofList (c :: cs.takeWhile isNameRest), cs.dropWhile isNameRest)
    else none
  | [] => none

/-- Whether the part of a name begins as a name must, or is missing. -/
def startsWell : List Char → Bool
  | c :: _ => isNameStart c
  | [] => true

/-- A name with at most one colon, which has something after it. -/
def qualifiedName (cs : List Char) : Option (Name × List Char) :=
  let word := cs.takeWhile isNameRest
  let rest := cs.dropWhile isNameRest
  let (space, name) :=
    match word.dropWhile (· != ':') with
    | _ :: name => (word.takeWhile (· != ':'), name)
    | [] => ([], word)
  if name.contains ':' || name.isEmpty || !startsWell space || !startsWell name then none
  else some (⟨String.ofList space, String.ofList name⟩, rest)

/-- The characters up to a given ending, all of them such as a document may hold, and what follows
the ending; `passed` holds the characters so far, newest first. -/
def upTo (ending : List Char) (passed : List Char) : List Char → Option (List Char × List Char)
  | [] => none
  | c :: cs =>
    match after ending (c :: cs) with
    | some rest => some (passed.reverse, rest)
    | none => if isDocumentChar c then upTo ending (c :: passed) cs else none

/-- What follows the next character of a kind. -/
def afterChar (c : Char) (cs : List Char) : Option (List Char) :=
  match cs.dropWhile (· != c) with
  | _ :: rest => some rest
  | [] => none

/-- Whether one list of characters occurs inside another. -/
def occurs (part : List Char) : List Char → Bool
  | [] => part.isEmpty
  | c :: cs => part.isPrefixOf (c :: cs) || occurs part cs

/-! ### Tokens without elements -/

/-- What follows a comment. -/
def comment (cs : List Char) : Option (List Char) := do
  let (body, rest) ← upTo "-->".toList [] (← afterWord "<!--" cs)
  if occurs ['-', '-'] body || body.getLast? == some '-' then none else rest

/-- What follows an instruction. -/
def instruction (cs : List Char) : Option (List Char) := do
  let (_, cs) ← plainName (← afterWord "<?" cs)
  let (_, rest) ← upTo "?>".toList [] (skipSpace cs)
  rest

/-- What follows marked character data. -/
def characterData (cs : List Char) : Option (List Char) := do
  let (_, rest) ← upTo "]]>".toList [] (← afterWord "<![CDATA[" cs)
  rest

/-- What follows the declaration that a document may begin with. -/
def declaration (cs : List Char) : Option (List Char) := do
  let cs ← equals (← afterWord "version" (skipSpace (← afterWord "<?xml " cs)))
  let (q, cs) ← quote cs
  let cs ← after [q] ((← afterWord "1." cs).dropWhile isDigit)
  let cs ← spaceOrEnd cs
  let cs ←
    match afterWord "encoding" cs with
    | none => some cs
    | some cs => do
      let (q, cs) ← quote (← equals cs)
      let isEncodingChar := fun c => isLetter c || isDigit c || c == '.' || c == '-' || c == '_'
      spaceOrEnd (← after [q] (cs.dropWhile isEncodingChar))
  let cs ←
    match afterWord "standalone" cs with
    | none => some cs
    | some cs => do
      let (q, cs) ← quote (← equals cs)
      let (answer, cs) ← plainName cs
      if answer == "yes" || answer == "no" then after [q] cs else none
  afterWord "?>" (skipSpace cs)

/-- What follows a quoted literal. -/
def literal (cs : List Char) : Option (List Char) := do
  let (q, cs) ← quote cs
  afterChar q cs

/-- What follows a reference to something outside the document, if one stands here. -/
def externalReference (cs : List Char) : Option (Option (List Char)) :=
  if begins "SYSTEM" cs then do
    some (← literal (← needSpace (cs.drop 6)))
  else if begins "PUBLIC" cs then do
    let cs ← literal (← needSpace (cs.drop 6))
    some (← literal (← needSpace cs))
  else some none

/-- What follows the head of a document type, and whether declarations come next. -/
def documentType (cs : List Char) : Option (Bool × List Char) := do
  let (_, cs) ← plainName (← needSpace (← afterWord "<!DOCTYPE" cs))
  let cs := skipSpace cs
  let cs := skipSpace ((← externalReference cs).getD cs)
  match cs with
  | '[' :: rest => some (true, rest)
  | '>' :: rest => some (false, rest)
  | _ => none

/-- What follows the definition in the declaration of an entity; `general` when the entity is for
use in content. -/
def entityDefinition (general : Bool) (cs : List Char) : Option (List Char) :=
  match cs with
  | '"' :: _ | '\'' :: _ => literal cs
  | 'S' :: _ | 'P' :: _ => do
    let rest ← (← externalReference cs)
    if general then
      match afterWord "NDATA" (skipSpace rest) with
      | some rest => do
        let (_, rest) ← plainName (← needSpace rest)
        rest
      | none => some rest
    else some rest
  | _ => none

/-- What follows the declaration of an entity. -/
def entity (cs : List Char) : Option (List Char) := do
  let cs ← needSpace (← afterWord "<!ENTITY" cs)
  let (general, cs) ←
    match cs with
    | '%' :: cs => do pure (false, ← needSpace cs)
    | cs => some (true, cs)
  let (_, cs) ← plainName cs
  let cs ← entityDefinition general (← needSpace cs)
  after ['>'] (skipSpace cs)

/-! ### Phases -/

/-- Where in a document the lexer is. -/
inductive Phase where
  /-- Before the document type. -/
  | prolog
  /-- Among the declarations of the document type. -/
  | declarations
  /-- Between the document type and the first element. -/
  | beforeRoot
  /-- In the content of `depth` open elements. -/
  | content (depth : Nat)
  /-- In a start tag inside `depth` open elements. -/
  | tag (depth : Nat)
  /-- Behind the last element. -/
  | epilog
  deriving DecidableEq

/-- One step of the lexer: perhaps a token, the phase to go on in, and what is left. -/
abbrev Step := Option Token × Phase × List Char

/-- The phase in the content of `depth` open elements. -/
def inside (depth : Nat) : Phase :=
  if depth = 0 then .epilog else .content depth

/-- A comment, instruction or space, which may stand outside of elements. `none` if the text begins
in another way. -/
def misc (phase : Phase) (cs : List Char) : Option (Option Step) :=
  if begins "<!--" cs then some ((comment cs).map fun rest => (some .aside, phase, rest))
  else if begins "<?" cs then
    if begins "<?xml " cs then some none
    else some ((instruction cs).map fun rest => (some .aside, phase, rest))
  else
    match cs with
    | c :: cs => if isSpace c then some (some (none, phase, skipSpace cs)) else none
    | [] => none

/-- The name of a start tag. -/
def startTag (depth : Nat) (cs : List Char) : Option Step := do
  let (name, rest) ← qualifiedName (cs.drop 1)
  some (some (.start name), .tag depth, rest)

/-- An end tag inside `depth` open elements. -/
def endTag (depth : Nat) (cs : List Char) : Option Step := do
  let (name, rest) ← qualifiedName (cs.drop 2)
  let rest ← after ['>'] (skipSpace rest)
  some (some (.close name), inside (depth - 1), rest)

/-- The rest of an attribute whose name has been read. -/
def attributeValue (cs : List Char) : Option (String × List Char) := do
  let (q, cs) ← quote (← equals cs)
  let isValueChar := fun c => c != q && c != '<' && isDocumentChar c
  let rest ← after [q] (cs.dropWhile isValueChar)
  some (String.ofList (cs.takeWhile isValueChar), rest)

/-- An attribute or the end of a start tag. -/
def inTag (depth : Nat) (cs : List Char) : Option Step :=
  match skipSpace cs with
  | '/' :: rest => (after ['>'] rest).map fun rest => (some .closedEmpty, inside depth, rest)
  | '>' :: rest => some (some .opened, .content (depth + 1), rest)
  | _ => do
    let (name, rest) ← qualifiedName (← needSpace cs)
    let (value, rest) ← attributeValue rest
    some (some (.attr name value), .tag depth, rest)

/-- Text up to the next tag. -/
def textUpToTag (depth : Nat) (cs : List Char) : Option Step :=
  let body := cs.takeWhile (· != '<')
  if body.all isDocumentChar && !occurs "]]>".toList body then
    some (some (.text (String.ofList body)), .content depth, cs.dropWhile (· != '<'))
  else none

/-- A token in the content of an element. -/
def inContent (depth : Nat) (cs : List Char) : Option Step :=
  match cs with
  | '<' :: '!' :: _ =>
    if begins "<!--" cs then (comment cs).map fun rest => (some .aside, .content depth, rest)
    else (characterData cs).map fun rest => (some .aside, .content depth, rest)
  | '<' :: '?' :: _ =>
    if begins "<?xml " cs then none
    else (instruction cs).map fun rest => (some .aside, .content depth, rest)
  | '<' :: '/' :: _ => endTag depth cs
  | '<' :: _ :: _ => startTag depth cs
  | ['<'] => none
  | _ => textUpToTag depth cs

/-- A token among the declarations of a document type. -/
def inDeclarations (cs : List Char) : Option Step :=
  if begins "<!ENTITY" cs then (entity cs).map fun rest => (some .aside, .declarations, rest)
  else
    match misc .declarations cs with
    | some step => step
    | none =>
      match cs with
      | ']' :: rest =>
        (after ['>'] (skipSpace rest)).map fun rest => (some .aside, .beforeRoot, rest)
      | _ =>
        if begins "<!ELEMENT" cs || begins "<!ATTLIST" cs || begins "<!NOTATION" cs then
          (afterChar '>' cs).map fun rest => (none, .declarations, rest)
        else none

/-- One step of the lexer on a text that has not ended. -/
def step (phase : Phase) (cs : List Char) : Option Step :=
  match phase with
  | .prolog =>
    if begins "<!DOCTYPE" cs then
      (documentType cs).map fun r =>
        (some .aside, if r.1 then .declarations else .beforeRoot, r.2)
    else (misc .prolog cs).getD (some (none, .beforeRoot, cs))
  | .declarations => inDeclarations cs
  | .beforeRoot =>
    match misc .beforeRoot cs with
    | some step => step
    | none =>
      match cs with
      | '<' :: '!' :: _ => none
      | '<' :: _ => startTag 0 cs
      | _ => none
  | .content depth => inContent depth cs
  | .tag depth => inTag depth cs
  | .epilog => (misc .epilog cs).getD none

/-- Lexes on, `found` holding the tokens so far, newest first. A step takes a character or leaves the
prolog, so `fuel` may be one more than the number of characters. -/
def run : (fuel : Nat) → Phase → List Char → (found : List Token) → Tokens
  | _, _, [], found => ⟨found.reverse, true⟩
  | 0, _, _, found => ⟨found.reverse, false⟩
  | fuel + 1, phase, cs, found =>
    match step phase cs with
    | none => ⟨found.reverse, false⟩
    | some (token?, phase, rest) => run fuel phase rest (token?.toList ++ found)

/-- The text of a document behind its declaration, `none` if it is broken. -/
def behindDeclaration (cs : List Char) : Option (List Char) :=
  let cs := match cs with
    | '\uFEFF' :: rest => rest
    | cs => cs
  if begins "<?xml " cs then declaration cs else some cs

/-- The tokens of a document. -/
def tokens (document : String) : Tokens :=
  match behindDeclaration document.toList with
  | some cs => run (cs.length + 1) .prolog cs []
  | none => ⟨[], false⟩

end DBus.Markup

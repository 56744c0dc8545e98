/-!
# Tokens of markup

What a document is cut into. Tags are not matched with each other here: a start tag is its name, its
attributes one by one, and the way it ends; an end tag is one token.
-/

namespace DBus.Markup

/-- A name in two parts. The first is empty where the text has no colon. -/
structure Name where
  /-- What stands before the colon. -/
  space : String
  /-- What stands after it. -/
  name : String
  deriving DecidableEq, Repr

/-- A piece of a document. -/
inductive Token where
  /-- The name of a start tag. -/
  | start (name : Name)
  | attr (name : Name) (value : String)
  /-- The end of a start tag behind which the content of the element begins. -/
  | opened
  /-- The end of a start tag that is the whole element. -/
  | closedEmpty
  /-- An end tag. -/
  | close (name : Name)
  | text (text : String)
  /-- A comment, an instruction, marked character data or a part of the document type. -/
  | aside
  deriving DecidableEq, Repr

/-- The tokens of a text up to its end or to the first place that is not markup. -/
structure Tokens where
  /-- The tokens in order. -/
  tokens : List Token
  /-- Whether the text was read to its end. -/
  complete : Bool
  deriving Repr

end DBus.Markup

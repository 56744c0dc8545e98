import DBus.Text.Character

/-!
# Parts of texts

A text without the blanks at its two ends, what follows its first word, and its parts between
separators. A word starts with a letter or an underscore and goes on with letters, digits, marks and
underscores.
-/

namespace DBus.Text

/-- A list of characters without the blanks it ends in. -/
def trimEnd (cs : List Char) : List Char :=
  (cs.reverse.dropWhile isBlank).reverse

/-- A text without the blanks at its two ends. -/
def trim (s : String) : String :=
  String.ofList (trimEnd (s.toList.dropWhile isBlank))

/-- Whether a text holds nothing but blanks. -/
def allBlank (s : String) : Bool :=
  s.toList.all isBlank

/-- What follows the word that a text starts with. -/
def afterWord? : List Char → Option (List Char)
  | c :: cs => if isWordStart c then some (cs.dropWhile isWordRest) else none
  | [] => none

/-! ### Splitting -/

/-- Adds a character to the first of some parts. -/
def consFirst (c : Char) : List (List Char) → List (List Char)
  | [] => [[c]]
  | part :: parts => (c :: part) :: parts

/-- The parts of a list of characters between separators, at least one. -/
def splitChars (separator : Char) : List Char → List (List Char)
  | [] => [[]]
  | c :: cs =>
    if c = separator then [] :: splitChars separator cs
    else consFirst c (splitChars separator cs)

/-- The parts of a text between separators. -/
def split (separator : Char) (text : String) : List String :=
  (splitChars separator text.toList).map String.ofList

theorem splitChars_ne_nil (separator : Char) (cs : List Char) : splitChars separator cs ≠ [] := by
  cases cs with
  | nil => simp [splitChars]
  | cons c cs =>
    unfold splitChars
    split
    · simp
    · cases splitChars separator cs <;> simp [consFirst]

end DBus.Text

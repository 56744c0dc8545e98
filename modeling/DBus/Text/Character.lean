import DBus.Text.UnseenTable
import DBus.Text.WordTable

/-!
# Classes of characters

A class of characters beyond ASCII is given by the ranges of code points that it holds, in ascending
order. What is blank, what a word is made of and what leaves no mark on the page follows the Unicode
properties; the four characters that separate the parts of a markup document are a smaller set than
the blanks and are defined with the markup.
-/

namespace DBus.Text

/-- Whether a character lies in one of some ranges, both ends included. The ranges ascend, so that
none behind the first that starts later is looked at. -/
def inRanges : List (Nat × Nat) → Char → Bool
  | [], _ => false
  | (first, last) :: rest, c => first ≤ c.toNat && (c.toNat ≤ last || inRanges rest c)

/-! ### White space -/

/-- The characters with the Unicode property `White_Space`. -/
def isBlank (c : Char) : Bool :=
  let n := c.toNat
  (9 ≤ n && n ≤ 13) || n == 0x20 || n == 0x85 || n == 0xA0 || n == 0x1680
    || (0x2000 ≤ n && n ≤ 0x200A) || n == 0x2028 || n == 0x2029 || n == 0x202F || n == 0x205F
    || n == 0x3000

/-! ### Words -/

/-- Whether a word may start with a character. -/
def isWordStart (c : Char) : Bool :=
  c.isAlpha || c == '_' || inRanges wordStartRanges c

/-- Whether a word may go on with a character. -/
def isWordRest (c : Char) : Bool :=
  isWordStart c || c.isDigit || inRanges wordRestRanges c

/-! ### Marks on the page -/

/-- Whether a character leaves no mark of its own. -/
def isUnseen (c : Char) : Bool :=
  inRanges unseenRanges c

end DBus.Text

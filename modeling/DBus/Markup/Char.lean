import DBus.Text.Character

/-!
# Characters of markup

The classes of characters that XML 1.0 distinguishes: space, the characters a document may hold, and
those that names are made of.
-/

namespace DBus.Markup

/-- The four characters that separate the parts of a document. -/
def isSpace (c : Char) : Bool :=
  c == ' ' || c == '\t' || c == '\n' || c == '\r'

/-- Whether a document may hold a character: no controls but space, and no non-characters. -/
def isDocumentChar (c : Char) : Bool :=
  if c.toNat < 0x20 then isSpace c else c.toNat != 0xFFFE && c.toNat != 0xFFFF

/-- The code points beyond ASCII that a name may start with. -/
def nameStartRanges : List (Nat × Nat) :=
  [(0xC0, 0xD6), (0xD8, 0xF6), (0xF8, 0x2FF), (0x370, 0x37D), (0x37F, 0x1FFF), (0x200C, 0x200D),
   (0x2070, 0x218F), (0x2C00, 0x2FEF), (0x3001, 0xD7FF), (0xF900, 0xFDCF), (0xFDF0, 0xFFFD),
   (0x10000, 0xEFFFF)]

/-- The code points beyond ASCII that a name may go on with, besides those it may start with. -/
def nameRestRanges : List (Nat × Nat) :=
  [(0xB7, 0xB7), (0x300, 0x36F), (0x203F, 0x2040)]

/-- Whether a character is an ASCII letter. -/
def isLetter (c : Char) : Bool :=
  ('A' ≤ c && c ≤ 'Z') || ('a' ≤ c && c ≤ 'z')

/-- Whether a character is an ASCII digit. -/
def isDigit (c : Char) : Bool :=
  '0' ≤ c && c ≤ '9'

/-- Whether a name may start with a character. -/
def isNameStart (c : Char) : Bool :=
  isLetter c || c == ':' || c == '_' || Text.inRanges nameStartRanges c

/-- Whether a name may go on with a character. -/
def isNameRest (c : Char) : Bool :=
  isNameStart c || isDigit c || c == '-' || c == '.' || Text.inRanges nameRestRanges c

end DBus.Markup

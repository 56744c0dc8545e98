import DBus.Text.Hex
import DBus.Text.Split

/-!
# Literals

The literals that stand in code: numbers, characters and texts, each with the suffix that it may
have. A literal is known by where it ends, so each function here takes the text from some place of a
literal on and gives what follows the literal, or nothing if none can be there.
-/

namespace DBus.Bindings.Literal

/-! ### Between quotes -/

/-- What stands between the quotes of a literal. -/
inductive Content where
  /-- Characters. -/
  | text
  /-- Bytes, each of them an ASCII character or an escape. -/
  | bytes
  /-- Characters other than the NUL, which is understood at the end. -/
  | terminated
  deriving DecidableEq, Repr

/-- Whether a character may stand for itself. -/
def Content.allows : Content → Char → Bool
  | .text, _ => true
  | .bytes, c => c.toNat < 0x80
  | .terminated, c => c != '\x00'

/-- Whether two hexadecimal digits may follow `\x`. -/
def Content.allowsNumber (k : Content) (high low : Char) : Bool :=
  Text.isHexDigit high && Text.isHexDigit low && match k with
    | .text => Text.hexValue high < 8
    | .bytes => true
    | .terminated => high != '0' || low != '0'

/-- Whether a code point may be written by its number. -/
def Content.allowsCodePoint : Content → Nat → Bool
  | .text, n => decide n.isValidChar
  | .bytes, _ => false
  | .terminated, n => decide n.isValidChar && n != 0

/-- What follows the number of a code point and its closing brace. There are one to six digits, with
underscores behind the first; `value` and `count` tell of the digits passed. -/
def afterCodePoint? (k : Content) (value count : Nat) : List Char → Option (List Char)
  | [] => none
  | c :: rest =>
    if Text.isHexDigit c then
      if count < 6 then afterCodePoint? k (16 * value + Text.hexValue c) (count + 1) rest else none
    else if count = 0 then none
    else if c = '_' then afterCodePoint? k value count rest
    else if c = '\x7d' && k.allowsCodePoint value then some rest
    else none

/-- The characters that may follow a backslash in every literal. -/
def letterEscapes : List Char := ['n', 'r', 't', '\\', '\'', '"']

/-- What follows an escape, from behind its backslash. -/
def afterEscape? (k : Content) : List Char → Option (List Char)
  | 'x' :: high :: low :: rest => if k.allowsNumber high low then some rest else none
  | 'u' :: '\x7b' :: rest => afterCodePoint? k 0 0 rest
  | '0' :: rest => if k = .terminated then none else some rest
  | c :: rest => if letterEscapes.contains c then some rest else none
  | [] => none

/-- What follows the blanks that an escaped line break hides. A carriage return counts with the line
feed behind it only, and the text does not end here. -/
def afterBreak? : List Char → Option (List Char)
  | [] => none
  | '\r' :: '\n' :: rest => afterBreak? rest
  | '\r' :: _ => none
  | c :: rest => if c == ' ' || c == '\t' || c == '\n' then afterBreak? rest else some (c :: rest)

/-- Whether a line break stands here. -/
def atBreak : List Char → Bool
  | c :: _ => c == '\n' || c == '\r'
  | [] => false

/-- What follows the closing quote of a text. -/
def afterText? (k : Content) : (fuel : Nat) → List Char → Option (List Char)
  | 0, _ | _, [] => none
  | _ + 1, '"' :: rest => some rest
  | fuel + 1, '\\' :: rest =>
    (if atBreak rest then afterBreak? rest else afterEscape? k rest).bind (afterText? k fuel)
  | fuel + 1, '\r' :: rest => if rest.head? = some '\n' then afterText? k fuel rest else none
  | fuel + 1, c :: rest => if k.allows c then afterText? k fuel rest else none

/-- What follows the closing quote of a raw text and the marks behind it. -/
def afterRawText? (k : Content) (marks : List Char) : List Char → Option (List Char)
  | [] => none
  | c :: rest =>
    if c = '"' && marks.isPrefixOf rest then some (rest.drop marks.length)
    else if c = '\r' && rest.head? != some '\n' then none
    else if k.allows c then afterRawText? k marks rest
    else none

/-- What follows a raw text, from its marks on. There are at most 255 marks. -/
def afterRaw? (k : Content) (cs : List Char) : Option (List Char) :=
  let marks := cs.takeWhile (· == '#')
  match cs.dropWhile (· == '#') with
  | '"' :: rest => if marks.length ≤ 255 then afterRawText? k marks rest else none
  | _ => none

/-- What follows the closing quote of a character. -/
def afterQuote? : List Char → Option (List Char)
  | '\'' :: rest => some rest
  | _ => none

/-- What follows a character, from behind its opening quote. -/
def afterCharacter? (k : Content) : List Char → Option (List Char)
  | '\\' :: rest => (afterEscape? k rest).bind afterQuote?
  | c :: rest => if k.allows c then afterQuote? rest else none
  | [] => none

/-- What follows a text or a character, without its suffix. -/
def afterQuoted? : List Char → Option (List Char)
  | '"' :: rest => afterText? .text rest.length rest
  | 'b' :: '"' :: rest => afterText? .bytes rest.length rest
  | 'c' :: '"' :: rest => afterText? .terminated rest.length rest
  | 'r' :: rest => afterRaw? .text rest
  | 'b' :: 'r' :: rest => afterRaw? .bytes rest
  | 'c' :: 'r' :: rest => afterRaw? .terminated rest
  | '\'' :: rest => afterCharacter? .text rest
  | 'b' :: '\'' :: rest => afterCharacter? .bytes rest
  | _ => none

/-! ### Numbers -/

/-- Whether a character stands in a decimal number without ending it. -/
def isDigitOrGap (c : Char) : Bool :=
  c.isDigit || c == '_'

/-- What follows an exponent: a sign that may be missing, and at least one digit. -/
def afterExponent? : List Char → Option (List Char)
  | [] => none
  | e :: rest =>
    if e == 'e' || e == 'E' then
      let rest := match rest.dropWhile (· == '_') with
        | c :: more => if c == '+' || c == '-' then more else c :: more
        | [] => []
      let digits := rest.dropWhile (· == '_')
      if digits.head?.any Char.isDigit then some (digits.dropWhile isDigitOrGap) else none
    else none

/-- What follows a number that has a point or an exponent. A point before another point or a word
does not belong to a number. -/
def afterDecimal? (cs : List Char) : Option (List Char) :=
  match cs.dropWhile isDigitOrGap with
  | '.' :: rest =>
    if rest.head?.any fun c => c == '.' || Text.isWordStart c then none
    else
      let rest := rest.dropWhile isDigitOrGap
      some ((afterExponent? rest).getD rest)
  | rest => afterExponent? rest

/-- Whether a character goes on a whole number in a base. A decimal digit always does, so that one
too large for the base is no number and no other token either. -/
def isDigitIn (base : Nat) (c : Char) : Bool :=
  isDigitOrGap c || (Text.isHexDigit c && Text.hexValue c < base)

/-- What follows the digits of a whole number in a base. -/
def afterDigits? (base : Nat) (cs : List Char) : Option (List Char) :=
  let digits := (cs.takeWhile (isDigitIn base)).filter (· != '_')
  if digits.isEmpty || digits.any (base ≤ Text.hexValue ·) then none
  else some (cs.dropWhile (isDigitIn base))

/-- What follows a whole number. -/
def afterWhole? : List Char → Option (List Char)
  | '0' :: 'x' :: rest => afterDigits? 16 rest
  | '0' :: 'o' :: rest => afterDigits? 8 rest
  | '0' :: 'b' :: rest => afterDigits? 2 rest
  | cs => afterDigits? 10 cs

/-- What follows the suffix that a literal may have. -/
def afterSuffix (cs : List Char) : List Char :=
  (Text.afterWord? cs).getD cs

/-- What follows the suffix of a number, behind which no word goes on. -/
def afterNumberSuffix? (cs : List Char) : Option (List Char) :=
  let rest := afterSuffix cs
  if rest.head?.any Text.isWordRest then none else some rest

/-- What follows a number and its suffix. -/
def afterNumber? (cs : List Char) : Option (List Char) :=
  if cs.head?.any Char.isDigit then
    ((afterDecimal? cs).bind afterNumberSuffix?).orElse fun _ =>
      (afterWhole? cs).bind afterNumberSuffix?
  else none

/-- What follows a literal and its suffix. -/
def after? (cs : List Char) : Option (List Char) :=
  match afterQuoted? cs with
  | some rest => some (afterSuffix rest)
  | none => afterNumber? cs

end DBus.Bindings.Literal

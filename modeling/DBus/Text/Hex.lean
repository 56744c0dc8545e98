import DBus.Text.Character

/-!
# Hexadecimal digits and quoted text

Numbers and bytes as lower case hexadecimal digits, and digits of either case as bytes. A text
between double quotes is in the form in which messages about other texts show it: the quote and the
backslash are escaped, the common control characters have a letter, and a character that leaves no
mark of its own on the page is written as its number.
-/

namespace DBus.Text

/-- The lower case hexadecimal digit of a number below sixteen. -/
def hexDigit (n : Nat) : Char :=
  if n < 10 then Char.ofNat (48 + n) else Char.ofNat (87 + n)

/-- The two hexadecimal digits of a byte. -/
def hexByte (b : UInt8) : List Char :=
  [hexDigit (b.toNat / 16), hexDigit (b.toNat % 16)]

/-- The hexadecimal digits of a number, without leading zeros. -/
def hexNumber (n : Nat) : List Char :=
  Nat.toDigits 16 n

/-- The hexadecimal digits of a number, with zeros before them if there are less than `width`. -/
def hexPadded (width n : Nat) : String :=
  let digits := hexNumber n
  String.ofList (List.replicate (width - digits.length) '0' ++ digits)

/-- Appends the digits of the bytes from a position on. -/
def pushHex (bytes : ByteArray) (text : String) : (pos count : Nat) → String
  | _, 0 => text
  | pos, count + 1 =>
    pushHex bytes ((hexByte (bytes.get! pos)).foldl String.push text) (pos + 1) count

/-- The digits of the bytes between two positions. -/
def hexBetween (bytes : ByteArray) (start stop : Nat) : String :=
  pushHex bytes "" start (stop - start)

/-- Whether a character is a hexadecimal digit of either case. -/
def isHexDigit (c : Char) : Bool :=
  c.isDigit || ('a' ≤ c && c ≤ 'f') || ('A' ≤ c && c ≤ 'F')

/-- The value of a hexadecimal digit. -/
def hexValue (c : Char) : Nat :=
  if '0' ≤ c && c ≤ '9' then c.toNat - 48
  else if 'a' ≤ c && c ≤ 'f' then c.toNat - 87
  else c.toNat - 55

/-- The number that hexadecimal digits spell. -/
def ofHexNumber (digits : String) : Nat :=
  digits.toList.foldl (fun n c => 16 * n + hexValue c) 0

/-- Appends the bytes that digits spell, two for each. -/
def pushUnhexed (bytes : ByteArray) : List Char → ByteArray
  | a :: b :: rest => pushUnhexed (bytes.push (UInt8.ofNat (16 * hexValue a + hexValue b))) rest
  | _ => bytes

/-- The bytes that digits spell. -/
def ofHex (digits : String) : ByteArray :=
  pushUnhexed .empty digits.toList

/-! ### Quoted text -/

/-- What stands for a character inside quotes. -/
def quotedChar (c : Char) : List Char :=
  match c with
  | '"' => ['\\', '"']
  | '\\' => ['\\', '\\']
  | '\n' => ['\\', 'n']
  | '\r' => ['\\', 'r']
  | '\t' => ['\\', 't']
  | '\x00' => ['\\', '0']
  | c => if isUnseen c then ['\\', 'u', '\x7b'] ++ hexNumber c.toNat ++ ['\x7d'] else [c]

/-- A text between double quotes. -/
def quoted (s : String) : String :=
  String.ofList ('"' :: s.toList.flatMap quotedChar ++ ['"'])

end DBus.Text

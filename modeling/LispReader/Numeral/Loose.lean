import LispReader.Text.Blank
import LispReader.Text.DecimalDigit

/-! Integers written loosely, in a given base: blanks around them, a sign, for base sixteen a
`0x` marker that one underscore may follow, single underscores between digits, and decimal
digits of any script. A code point that is none of these refuses the whole text. -/

namespace LispReader

namespace Numeral

/-- The ASCII form of a loosely written number: ASCII below 0x7F stays as it is, a blank of
another script reads as a space and a decimal digit of another script as its ASCII digit; any
other code point reads as `?`, which no number holds. -/
def asciiForm (t : Text) : List Char :=
  t.map fun c =>
    if c.val < 0x7F then Char.ofNat c.val
    else if c.isBlank then ' '
    else match c.decimalValue? with
      | some d => Char.ofNat (0x30 + d)
      | none => '?'

/-- The ASCII blanks that may stand around an integer. -/
def isAsciiBlank (c : Char) : Bool :=
  c = ' ' || c = '\t' || c = '\n' || c = '\x0b' || c = '\x0c' || c = '\r'

/-- The value of an ASCII digit or letter as a digit, 36 for anything else. -/
def digitValue (c : Char) : Nat :=
  if '0' ≤ c ∧ c ≤ '9' then c.toNat - '0'.toNat
  else if 'a' ≤ c ∧ c ≤ 'z' then c.toNat - 'a'.toNat + 10
  else if 'A' ≤ c ∧ c ≤ 'Z' then c.toNat - 'A'.toNat + 10
  else 36

/-- Reads digits in a base with single underscores between them, from a value so far; gives the
value and what follows the digits, or none for a doubled or trailing underscore. The text is
read up to the first code point that is neither a digit of the base nor an underscore. -/
def digitsFrom (base acc : Nat) : List Char → Option (Nat × List Char)
  | [] => some (acc, [])
  | '_' :: c :: rest =>
    if digitValue c < base then digitsFrom base (acc * base + digitValue c) rest else none
  | ['_'] => none
  | c :: rest =>
    if digitValue c < base then digitsFrom base (acc * base + digitValue c) rest
    else some (acc, c :: rest)

/-- Drops a base marker of base sixteen, and one underscore after it. -/
def dropMarker (base : Nat) : List Char → List Char
  | '0' :: x :: rest =>
    if base = 16 ∧ (x = 'x' ∨ x = 'X') then
      match rest with
      | '_' :: after => after
      | _ => rest
    else '0' :: x :: rest
  | cs => cs

/-- Reads an ASCII integer in a base: blanks, a sign, the marker, digits that start with a digit,
then blanks to the end. -/
def readAscii (base : Nat) (cs : List Char) : Option Int :=
  let body := cs.dropWhile isAsciiBlank
  let (negative, unsigned) : Bool × List Char :=
    match body with
    | '+' :: rest => (false, rest)
    | '-' :: rest => (true, rest)
    | _ => (false, body)
  match dropMarker base unsigned with
  | c :: rest =>
    if digitValue c < base then
      match digitsFrom base (digitValue c) rest with
      | some (value, after) =>
        if after.all isAsciiBlank then some (if negative then -(value : Int) else value) else none
      | none => none
    else none
  | [] => none

/-- Reads a loosely written integer in a base. -/
def readLoose (base : Nat) (t : Text) : Option Int :=
  readAscii base (asciiForm t)

end Numeral

end LispReader

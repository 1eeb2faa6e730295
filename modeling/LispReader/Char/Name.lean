import LispReader.Text.Printable
import LispReader.Numeral.Loose

/-! Names of characters in char literals. A name of one code point stands for itself; fifteen
names stand for control characters and the space, in any case; a name of `x`, `u` or `U` and a
loosely written hexadecimal number stands for the code point of that number. Writing a character
takes its first listed name, else the character itself when it is printable and no space, else
`x` and its number in hexadecimal. -/

namespace LispReader

namespace CharName

/-- The named characters, in the order names are looked up; a character with two names is
written with the one listed first. -/
def table : List (String × Nat) :=
  [("backspace", 0x08), ("newline", 0x0A), ("linefeed", 0x0A), ("nul", 0x00), ("null", 0x00),
    ("page", 0x0C), ("return", 0x0D), ("rubout", 0x7F), ("delete", 0x7F), ("escape", 0x1B),
    ("altmode", 0x1B), ("space", 0x20), ("tab", 0x09), ("vtab", 0x0B), ("alarm", 0x07)]

/-- The character a listed name stands for, the name's case ignored. -/
def lookup (name : Text) : Option CodePoint :=
  let lowered := name.map CodePoint.lowerAscii
  (table.find? fun entry => Text.ofString entry.1 = lowered).bind fun entry => CodePoint.ofNat? entry.2

/-- The character a name stands for, given its first code point and the rest. -/
def resolveFrom (first : CodePoint) (rest : Text) : Option CodePoint :=
  if rest = [] then some first
  else match lookup (first :: rest) with
    | some c => some c
    | none =>
      if first = CodePoint.ofChar 'x' ∨ first = CodePoint.ofChar 'u' ∨ first = CodePoint.ofChar 'U' then
        (Numeral.readLoose 16 rest).bind fun n => if n < 0 then none else CodePoint.ofNat? n.toNat
      else none

/-- Why a name cannot be looked at. -/
inductive LookupError where
  /-- The empty name has no first code point. -/
  | emptyName

/-- The words for a lookup error. -/
def LookupError.message : LookupError → String
  | .emptyName => "string index out of range"

/-- The character a name stands for, none for a name that stands for none. -/
def resolve : Text → Except LookupError (Option CodePoint)
  | [] => .error .emptyName
  | first :: rest => .ok (resolveFrom first rest)

/-- The name a character is written with. -/
def nameOf (c : CodePoint) : Text :=
  match table.find? fun entry => entry.2 = c.val with
  | some entry => Text.ofString entry.1
  | none =>
    if c.isPrintable ∧ c ≠ CodePoint.ofChar ' ' then [c]
    else CodePoint.ofChar 'x' :: Text.hex 1 c.val

/-- Why a text of other than one code point has no name: its length. -/
structure NotOneChar where
  /-- The number of code points in the text. -/
  length : Nat

/-- The message for a text of other than one code point. -/
def NotOneChar.message (e : NotOneChar) : Text :=
  Text.ofString "ord() expected a character, but string of length " ++ Text.ofNat e.length ++
    Text.ofString " found"

/-- The name of a text. One code point is named as above. A longer or empty text names itself
when it is all printable and not all blanks, since no listed name is longer than one code point;
any other such text has no number to write. -/
def nameOfText : Text → Except NotOneChar Text
  | [c] => .ok (nameOf c)
  | t =>
    if t.all CodePoint.isPrintable && !(t ≠ [] && t.all CodePoint.isBlank) then .ok t
    else .error ⟨t.length⟩

end CharName

end LispReader

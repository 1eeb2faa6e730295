import LispReader.Text.Printable

/-! Quoted literals of texts, in two conventions. A quoted literal is delimited by single quotes,
or by double quotes when the text holds a single quote and no double quote; a backslash escapes
the delimiter, the backslash itself, tab, line feed and carriage return, and every code point that
is not printable is written by its number. A JSON literal is delimited by double quotes and keeps
only printable ASCII as it is. -/

namespace LispReader

namespace Text

/-- A backslash followed by the given letters. -/
private def escaped (letters : String) : Text :=
  Text.ofString ("\\" ++ letters)

/-- One code point inside a quoted literal delimited by `quote`. -/
def quotedPoint (quote c : CodePoint) : Text :=
  if c = quote ∨ c.val = 0x5C then CodePoint.ofChar '\\' :: [c]
  else if c.val = 0x09 then escaped "t"
  else if c.val = 0x0A then escaped "n"
  else if c.val = 0x0D then escaped "r"
  else if c.val < 0x20 ∨ c.val = 0x7F then escaped "x" ++ hex 2 c.val
  else if c.val < 0x7F then [c]
  else if c.isPrintable then [c]
  else if c.val ≤ 0xFF then escaped "x" ++ hex 2 c.val
  else if c.val ≤ 0xFFFF then escaped "u" ++ hex 4 c.val
  else escaped "U" ++ hex 8 c.val

/-- The quoted literal of a text: single quotes, unless the text holds a single quote and no
double quote. -/
def quoted (t : Text) : Text :=
  let single := CodePoint.ofChar '\''
  let double := CodePoint.ofChar '"'
  let quote := if single ∈ t ∧ double ∉ t then double else single
  quote :: t.flatMap (quotedPoint quote) ++ [quote]

/-- Four lower-case hexadecimal digits behind a backslash and a u. -/
private def unitEscape (unit : Nat) : Text :=
  escaped "u" ++ hex 4 unit

/-- One code point inside a JSON literal: printable ASCII other than the quote and the backslash
stays, the usual short escapes stand for their controls, and the rest is written in sixteen-bit
units, a code point past 0xFFFF as its surrogate pair. -/
def jsonPoint (c : CodePoint) : Text :=
  if c.val = 0x22 then escaped "\""
  else if c.val = 0x5C then escaped "\\"
  else if 0x20 ≤ c.val ∧ c.val ≤ 0x7E then [c]
  else if c.val = 0x08 then escaped "b"
  else if c.val = 0x0C then escaped "f"
  else if c.val = 0x0A then escaped "n"
  else if c.val = 0x0D then escaped "r"
  else if c.val = 0x09 then escaped "t"
  else if c.val < 0x10000 then unitEscape c.val
  else
    let above := c.val - 0x10000
    unitEscape (0xD800 + above / 0x400) ++ unitEscape (0xDC00 + above % 0x400)

/-- The JSON literal of a text, in ASCII only. -/
def jsonQuoted (t : Text) : Text :=
  CodePoint.ofChar '"' :: t.flatMap jsonPoint ++ [CodePoint.ofChar '"']

end Text

end LispReader

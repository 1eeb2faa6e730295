import LispReader.Form.Basic
import LispReader.Decimal.Layout
import LispReader.Text.Quoted

/-! The display of forms: how a form is shown when it is inspected, as opposed to printed as
source. An atom shows its kind and value in angle brackets, a string shows as its JSON literal,
lists and vectors show their parts between their brackets, and in debug mode every atom but a
string and nil shows its span. -/

namespace LispReader

namespace Numeral

/-- Floats are written with their shortest digits, positionally when the leading digit's exponent
lies from -4 to 15, an integral value keeping a point and a zero, and otherwise with an `e`, a
signed exponent of at least two digits. -/
def floatLayout : Decimal.Layout :=
  { positionalFrom := -4, positionalTo := 15, pointZero := true, mark := "e", plusSign := true,
    exponentDigits := 2, nan := "nan", infinity := "inf" }

/-- The text of a value: an integer in decimal, a float in the float layout. -/
def text : Numeral → Text
  | .int n => Text.ofInt n
  | .float x => floatLayout.render x

end Numeral

namespace Atom

/-- An atom shown in angle brackets behind a three-letter kind, with `suffix` before the closing
bracket; a string shows as its JSON literal. -/
def display (suffix : Text) : Atom → Text
  | .symbol name => Text.ofString "<Sym " ++ Text.quoted name ++ suffix ++ Text.ofString ">"
  | .number n => Text.ofString "<Num " ++ n.value.text ++ suffix ++ Text.ofString ">"
  | .string value => Text.jsonQuoted value
  | .bool b => Text.ofString (if b then "<Boo True" else "<Boo False") ++ suffix ++ Text.ofString ">"
  | .nil => Text.ofString "<Nil>"
  | .char c => Text.ofString "<Cha " ++ Text.quoted c ++ suffix ++ Text.ofString ">"

end Atom

namespace Form

/-- The span of a form as it shows in debug mode. -/
def spanSuffix (span : Span) : Text :=
  Text.ofString " ::" ++ Text.ofNat span.start ++ Text.ofString ":" ++ Text.ofNat span.stop

mutual
/-- The display of a read form; `debug` adds the spans of atoms. -/
def display (debug : Bool) : Form Span → Text
  | .atom a span => a.display (if debug then spanSuffix span else [])
  | .list items _ =>
    Text.ofString "<( " ++ Text.joinWith (Text.ofString ", ") (displayAll debug items) ++
      Text.ofString " )>"
  | .vector items _ =>
    Text.ofString "<[ " ++ Text.joinWith (Text.ofString ", ") (displayAll debug items) ++
      Text.ofString " ]>"

/-- The displays of read forms, in order. -/
def displayAll (debug : Bool) : List (Form Span) → List Text
  | [] => []
  | f :: rest => display debug f :: displayAll debug rest
end

end Form

end LispReader

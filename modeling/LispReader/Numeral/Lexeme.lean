import LispReader.Text.CodePoint

/-! The numbers a reader accepts, as they are written: an optional sign, decimal digits with an
optional point (digits on at least one side of it), and an optional exponent of `e` or `E`, an
optional sign and digits. A number with neither point nor exponent is an integer, and reading one
of more than 4300 digits is refused; every other number is read as the nearest binary64 value. -/

namespace LispReader

/-- The value of a number: an integer, or a binary64 float. -/
inductive Numeral where
  /-- An integer of any size. -/
  | int (value : Int)
  /-- A binary64 value. -/
  | float (value : Float)

namespace Numeral

/-- The value of an ASCII decimal digit, or none for any other code point. -/
def digit? (c : CodePoint) : Option Nat :=
  if 0x30 ≤ c.val ∧ c.val ≤ 0x39 then some (c.val - 0x30) else none

/-- Whether a code point is an ASCII decimal digit. -/
def isDigit (c : CodePoint) : Bool :=
  (digit? c).isSome

/-- The value of a list of decimal digits, most significant first. -/
def digitsValue (digits : Text) : Nat :=
  digits.foldl (fun acc c => acc * 10 + ((digit? c).getD 0)) 0

/-- A number as written: its sign, the digits before the point, the digits after it when there is
a point, and the exponent when there is one. -/
structure Lexeme where
  /-- Whether a minus sign leads. -/
  negative : Bool
  /-- Digits before the point. -/
  whole : Text
  /-- Digits after the point, none without a point. -/
  fraction : Option Text
  /-- The exponent, none without one. -/
  exponent : Option Int

/-- Splits an optional sign off the front of a text. -/
def splitSign : Text → Bool × Text
  | c :: rest =>
    if c = CodePoint.ofChar '-' then (true, rest)
    else if c = CodePoint.ofChar '+' then (false, rest)
    else (false, c :: rest)
  | [] => (false, [])

/-- Reads an exponent after its mark: an optional sign and at least one digit, to the end. -/
def readExponent (t : Text) : Option Int :=
  let (negative, digits) := splitSign t
  if digits ≠ [] ∧ digits.all isDigit then
    let magnitude : Int := digitsValue digits
    some (if negative then -magnitude else magnitude)
  else none

/-- Reads what follows the digits and the point: nothing, or an exponent. -/
def readTail : Text → Option (Option Int)
  | [] => some none
  | c :: rest =>
    if c = CodePoint.ofChar 'e' ∨ c = CodePoint.ofChar 'E' then (readExponent rest).map some
    else none

/-- Reads a whole text as a number, or none when it is not written as one. -/
def Lexeme.read? (t : Text) : Option Lexeme :=
  let (negative, unsigned) := splitSign t
  let whole := unsigned.takeWhile isDigit
  match unsigned.dropWhile isDigit with
  | c :: afterPoint =>
    if c = CodePoint.ofChar '.' then
      let fraction := afterPoint.takeWhile isDigit
      if whole = [] ∧ fraction = [] then none
      else (readTail (afterPoint.dropWhile isDigit)).map fun exponent =>
        ⟨negative, whole, some fraction, exponent⟩
    else if whole = [] then none
    else (readTail (c :: afterPoint)).map fun exponent => ⟨negative, whole, none, exponent⟩
  | [] => if whole = [] then none else some ⟨negative, whole, none, none⟩

/-- Integers of more digits than this are refused, leading zeros counted. -/
def integerDigitLimit : Nat := 4300

/-- The nearest binary64 value of a number as written, infinite past the largest and zero below
the least, its sign kept on zero too. -/
def Lexeme.toFloat (lex : Lexeme) : Float :=
  let fraction := lex.fraction.getD []
  let mantissa := digitsValue (lex.whole ++ fraction)
  let scale := lex.exponent.getD 0 - fraction.length
  let magnitude := Float.ofScientific mantissa (decide (scale < 0)) scale.natAbs
  if lex.negative then -magnitude else magnitude

/-- The value of a number as written: an integer when it has neither point nor exponent, refused
past the digit limit; otherwise its nearest binary64 value. -/
def Lexeme.value? (lex : Lexeme) : Option Numeral :=
  match lex.fraction, lex.exponent with
  | none, none =>
    if lex.whole.length > integerDigitLimit then none
    else
      let magnitude : Int := digitsValue lex.whole
      some (.int (if lex.negative then -magnitude else magnitude))
  | _, _ => some (.float lex.toFloat)

/-- Whether a text starts the way a number does: an optional sign, an optional point, a digit. -/
def looksNumeric (t : Text) : Bool :=
  match (splitSign t).2 with
  | c :: rest =>
    if c = CodePoint.ofChar '.' then
      match rest with
      | d :: _ => isDigit d
      | [] => false
    else isDigit c
  | [] => false

end Numeral

end LispReader

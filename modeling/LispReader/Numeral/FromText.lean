import LispReader.Numeral.Lexeme
import LispReader.Numeral.Loose
import LispReader.Text.Quoted

/-! Numbers read from text the way number constructors read a string. Blanks may stand around the
number, decimal digits of any script count as digits, and single underscores may stand between
digits. An integer is decimal with an optional sign, and has at most 4300 digits, leading zeros
counted; the count is checked as soon as the digits are read, before what follows them. A float
is an optional sign and then either the reader's number grammar or one of `inf`, `infinity` and
`nan` in any case. -/

namespace LispReader

namespace Numeral

/-- Why a text is not an integer. -/
inductive IntTextError where
  /-- The text is not written as an integer. -/
  | invalid
  /-- The text leads with more digits than the limit. -/
  | tooManyDigits (count : Nat)

/-- The message for a text that is not an integer: the text quoted, cut to two hundred code
points, or the count of digits past the limit. -/
def IntTextError.message (e : IntTextError) (t : Text) : Text :=
  match e with
  | .invalid => Text.ofString "invalid literal for int() with base 10: " ++ (Text.quoted t).take 200
  | .tooManyDigits count =>
    Text.ofString ("Exceeds the limit (" ++ toString integerDigitLimit ++
      " digits) for integer string conversion: value has " ++ toString count ++
      " digits; use sys.set_int_max_str_digits() to increase the limit")

/-- Whether an ASCII character is a decimal digit. -/
def isDigitChar (c : Char) : Bool :=
  '0' ≤ c && c ≤ '9'

/-- Counts the digits of a run of digits and single underscores, up to the first other character;
none when two underscores meet or one ends the run. `prev` is the character before. -/
def digitRun (count : Nat) (prev : Char) : List Char → Option Nat
  | [] => if prev = '_' then none else some count
  | c :: rest =>
    if c = '_' then
      if prev = '_' then none else digitRun count c rest
    else if isDigitChar c then digitRun (count + 1) c rest
    else if prev = '_' then none
    else some count

/-- The number of digits an integer text leads with, after its blanks and sign; none when the run
starts with an underscore or breaks the underscore rule. -/
def leadingDigits (cs : List Char) : Option Nat :=
  let body := cs.dropWhile isAsciiBlank
  let unsigned := match body with
    | '+' :: rest => rest
    | '-' :: rest => rest
    | _ => body
  match unsigned with
  | '_' :: _ => none
  | _ => digitRun 0 ' ' unsigned

/-- The integer a text is written as, in base ten. -/
def readInt (t : Text) : Except IntTextError Int :=
  let cs := asciiForm t
  let read : Except IntTextError Int :=
    match readAscii 10 cs with
    | some n => .ok n
    | none => .error .invalid
  match leadingDigits cs with
  | some count => if count > integerDigitLimit then .error (.tooManyDigits count) else read
  | none => read

/-- A float text with its underscores dropped; none when an underscore does not stand between two
digits. `prev` is the character before. -/
def dropUnderscores (prev : Char) : List Char → Option (List Char)
  | [] => if prev = '_' then none else some []
  | c :: rest =>
    if c = '_' then
      if isDigitChar prev then dropUnderscores c rest else none
    else if prev = '_' ∧ !isDigitChar c then none
    else (dropUnderscores c rest).map (c :: ·)

/-- The ASCII lower case of a character. -/
def lowerChar (c : Char) : Char :=
  if 'A' ≤ c ∧ c ≤ 'Z' then Char.ofNat (c.toNat + 32) else c

/-- The value of an infinity or a NaN written without its sign, in any case. -/
def specialValue (cs : List Char) : Option Float :=
  let word := String.ofList (cs.map lowerChar)
  if word = "inf" ∨ word = "infinity" then some ((1 : Float) / 0)
  else if word = "nan" then some ((0 : Float) / 0)
  else none

/-- The float a text is written as, or none when it is not written as one. -/
def readFloat (t : Text) : Option Float := do
  let trimmed := ((asciiForm t).dropWhile isAsciiBlank).reverse.dropWhile isAsciiBlank |>.reverse
  let cs ← dropUnderscores ' ' trimmed
  let (negative, unsigned) : Bool × List Char :=
    match cs with
    | '+' :: rest => (false, rest)
    | '-' :: rest => (true, rest)
    | _ => (false, cs)
  match specialValue unsigned with
  | some x => pure (if negative then -x else x)
  | none => (Lexeme.read? (cs.map CodePoint.ofChar)).map Lexeme.toFloat

/-- The message for a text that is not a float: the text quoted. -/
def floatTextMessage (t : Text) : Text :=
  Text.ofString "could not convert string to float: " ++ Text.quoted t

end Numeral

end LispReader

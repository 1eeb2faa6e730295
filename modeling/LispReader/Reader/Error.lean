import LispReader.Dialect
import LispReader.Cursor

/-! Syntax errors. The reader stops at the first one and records its kind, the point where it
stopped and what it expected there; the line, the column in the line and the byte offset reported
with it are the counters of a cursor moved from the start of the source to the point. -/

namespace LispReader

/-- Something the reader expected where it stopped. -/
inductive Expectation where
  /-- A form. -/
  | expression
  /-- A character of a string or char literal. -/
  | character
  /-- A well-formed number. -/
  | number
  /-- A token of the dialect, possibly one turned off. -/
  | token (t : Token)

/-- How an expectation is written in a message: the quoted literal of its text, or `<unp>` for a
token turned off. -/
def Expectation.text : Expectation → Text
  | .expression => Text.quoted (Text.ofString "expression")
  | .character => Text.quoted (Text.ofString "character")
  | .number => Text.quoted (Text.ofString "number")
  | .token (some t) => Text.quoted t
  | .token none => Text.ofString "<unp>"

/-- The kinds of syntax error. -/
inductive SyntaxKind where
  /-- The source ends inside a string. -/
  | unterminatedString
  /-- The source ends inside a list. -/
  | unterminatedList
  /-- The source ends inside a vector. -/
  | unterminatedVector
  /-- A list or vector is closed by the other's closer. -/
  | mismatchedDelimiter
  /-- A closer where no list or vector is open. -/
  | unexpectedClosingDelimiter
  /-- A quote prefix with no form after it. -/
  | danglingQuotePrefix
  /-- A run that is no number though it must be one. -/
  | malformedNumericLiteral
  /-- A char literal whose name stands for no character. -/
  | malformedCharacterLiteral
  /-- The source ends where a character must follow. -/
  | unexpectedEndOfInput
  deriving DecidableEq

/-- The name of a kind. -/
def SyntaxKind.name : SyntaxKind → String
  | .unterminatedString => "UnterminatedString"
  | .unterminatedList => "UnterminatedList"
  | .unterminatedVector => "UnterminatedVector"
  | .mismatchedDelimiter => "MismatchedDelimiter"
  | .unexpectedClosingDelimiter => "UnexpectedClosingDelimiter"
  | .danglingQuotePrefix => "DanglingQuotePrefix"
  | .malformedNumericLiteral => "MalformedNumericLiteral"
  | .malformedCharacterLiteral => "MalformedCharacterLiteral"
  | .unexpectedEndOfInput => "UnexpectedEndOfInput"

/-- The first syntax error of a source: its kind, the point where reading stopped, and what was
expected there. -/
structure SyntaxError where
  /-- The kind. -/
  kind : SyntaxKind
  /-- The position, in code points, where reading stopped. -/
  point : Nat
  /-- What would have been accepted there. -/
  expected : List Expectation

/-- A point of a source in three coordinates. -/
structure Position where
  /-- The line, from one. -/
  line : Nat
  /-- Code points between the start of the line and the point. -/
  linePoint : Nat
  /-- Bytes of UTF-8 before the point. -/
  column : Nat

/-- The position of a point of a source: one more than the line feeds before it, the code points
after the last of them, and the UTF-8 size of all before it. -/
def Text.positionAt (source : Text) (point : Nat) : Position :=
  let before := source.take point
  { line := before.count CodePoint.newline + 1
    linePoint := (before.reverse.takeWhile (· ≠ CodePoint.newline)).length
    column := Text.utf8Size before }

/-- The position a cursor reports: its line, the code points between the start of its line and its
point, and the bytes of UTF-8 before its point. -/
def Cursor.position (c : Cursor) : Position :=
  ⟨c.line.toNat, c.linePoint.toNat, c.byteOffset⟩

namespace SyntaxError

/-- The position reported with an error in a source: the one a cursor moved from the start of the
source to the error's point reports. -/
def positionIn (e : SyntaxError) (source : Text) : Position :=
  ((Cursor.start source none).advance e.point).position

/-- The message of an error at a position: kind, line, column in the line, byte offset and the
expected items. -/
def msg (e : SyntaxError) (pos : Position) : Text :=
  Text.ofString (e.kind.name ++ " at line " ++ toString pos.line ++ " col " ++
    toString pos.linePoint ++ " (byte " ++ toString pos.column ++ "), expected one of: ") ++
    Text.joinWith (Text.ofString " ") (e.expected.map Expectation.text)

/-- The message with the name of the source after its last slash and the line, or the line alone
when the source has no name. -/
def message (e : SyntaxError) (pos : Position) (filename : Option Text) : Text :=
  e.msg pos ++
    match filename with
    | some name =>
      Text.ofString " (" ++ Text.afterLastSlash name ++ Text.ofString (", line " ++ toString pos.line ++ ")")
    | none => Text.ofString (" (line " ++ toString pos.line ++ ")")

end SyntaxError

end LispReader

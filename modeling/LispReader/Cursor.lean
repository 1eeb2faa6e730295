import LispReader.Text.CodePoint

/-! Cursors over a source: a point, with the line and the column within the line kept up to date
as the point moves, so that reporting a position never rescans the source. Moving clamps at the
end of the source. Offsets follow the rules of slices: a negative bound counts from the end, and
a bound past either end is clamped to it. -/

namespace LispReader

/-- A point in a source, its line from one and the code points between the line's start and the
point. Moving back makes the counters run below their usual range. -/
structure Cursor where
  /-- The source. -/
  source : Text
  /-- The name of the source, if it has one. -/
  filename : Option Text
  /-- The point, in code points. -/
  point : Int
  /-- The line. -/
  line : Int
  /-- Code points between the start of the line and the point. -/
  linePoint : Int

/-- Why a cursor cannot look at a code point. -/
inductive Cursor.OutOfRange where
  /-- The place lies below the least index a machine word holds, `-2 ^ 63`. -/
  | beyondWord
  /-- The offset lies before the start even counted from the end. -/
  | beforeStart

/-- The message of a place out of range. -/
def Cursor.OutOfRange.message : Cursor.OutOfRange → String
  | .beyondWord => "cannot fit 'int' into an index-sized integer"
  | .beforeStart => "string index out of range"

namespace Cursor

/-- A cursor at the start of a source. -/
def start (source : Text) (filename : Option Text) : Cursor :=
  ⟨source, filename, 0, 1, 0⟩

/-- A slice bound in range: a negative bound counts from the end, and a bound past either end is
clamped to it. -/
def bound (length : Nat) (i : Int) : Nat :=
  if i < 0 then (i + length).toNat else min i.toNat length

/-- The code points from `lo` to before `hi`, as a slice takes them. -/
def slice (source : Text) (lo hi : Int) : Text :=
  (source.take (bound source.length hi)).drop (bound source.length lo)

/-- The position of the last line feed from `lo` to before `hi`, or -1 when there is none. -/
def lastNewline (source : Text) (lo hi : Int) : Int :=
  let piece := slice source lo hi
  match piece.reverse.findIdx? (· = CodePoint.newline) with
  | some k => (bound source.length lo : Int) + piece.length - 1 - k
  | none => -1

/-- The cursor `n` code points on, clamped at the end of the source; line feeds passed over move
the line on and restart the column after the last of them. -/
def advance (c : Cursor) (n : Int) : Cursor :=
  let stop := min (c.point + n) c.source.length
  let newlines := (slice c.source c.point stop).count CodePoint.newline
  if newlines > 0 then
    { c with
      line := c.line + newlines
      linePoint := stop - (lastNewline c.source c.point stop + 1)
      point := stop }
  else { c with linePoint := c.linePoint + (stop - c.point), point := stop }

/-- The code point `offset` places from the point, none at or past the end; a negative place
counts from the end, and one below what a machine word holds is refused first. -/
def peek (c : Cursor) (offset : Int) : Except OutOfRange (Option CodePoint) :=
  let place := c.point + offset
  if place < -9223372036854775808 then .error .beyondWord
  else if place < c.source.length then
    let index := if place < 0 then place + c.source.length else place
    if index < 0 then .error .beforeStart else .ok c.source[index.toNat]?
  else .ok none

/-- Whether the point has reached the end. -/
def atEnd (c : Cursor) : Bool :=
  c.point ≥ c.source.length

/-- Bytes of UTF-8 before the point. -/
def byteOffset (c : Cursor) : Nat :=
  Text.utf8Size (c.source.take (bound c.source.length c.point))

/-- How a cursor shows: its source's name, line, column and point. -/
def display (c : Cursor) : Text :=
  Text.ofString "<Cursor " ++ c.filename.getD (Text.ofString "None") ++
    Text.ofString (" " ++ toString c.line ++ ":" ++ toString c.linePoint ++ " @" ++
      toString c.point ++ ">")

/-- An amount to move or look by: a whole number, a number with a fraction part, or a value of
another kind, by the name of its kind. A count of code points is whole. -/
inductive Amount where
  /-- A whole number. -/
  | whole (n : Int)
  /-- A binary64 number, which is no count even when its value is whole. -/
  | fractional (x : Float)
  /-- A value of another kind. -/
  | foreign (kind : String)

/-- Why a cursor cannot take a step by an amount. -/
inductive StepError where
  /-- The place looked at is out of range. -/
  | place (e : OutOfRange)
  /-- A fractional end of the stretch moved over. -/
  | fractionalBound
  /-- A fractional place looked at. -/
  | fractionalIndex
  /-- An amount of another kind added to the point. -/
  | foreignOperand (kind : String)

/-- The kind of error of a step that cannot be taken: a place out of range, or an amount of the
wrong kind. -/
def StepError.kind : StepError → String
  | .place _ => "IndexError"
  | _ => "TypeError"

/-- The message of a step that cannot be taken. -/
def StepError.message : StepError → String
  | .place e => e.message
  | .fractionalBound => "slice indices must be integers or None or have an __index__ method"
  | .fractionalIndex => "string indices must be integers, not 'float'"
  | .foreignOperand kind => "unsupported operand type(s) for +: 'int' and '" ++ kind ++ "'"

/-- Moves by an amount. A fractional amount moves only when the end lies strictly before the
place it names, since the stretch then ends at the end; otherwise it is refused. -/
def advanceBy (c : Cursor) : Amount → Except StepError Cursor
  | .whole n => .ok (c.advance n)
  | .fractional x =>
    if Float.ofInt c.source.length < Float.ofInt c.point + x then
      .ok (c.advance (c.source.length - c.point))
    else .error .fractionalBound
  | .foreign kind => .error (.foreignOperand kind)

/-- Looks by an amount. A fractional place at or past the end holds nothing; one before it is
refused. -/
def peekBy (c : Cursor) : Amount → Except StepError (Option CodePoint)
  | .whole n => (c.peek n).mapError .place
  | .fractional x =>
    if Float.ofInt c.point + x < Float.ofInt c.source.length then .error .fractionalIndex
    else .ok none
  | .foreign kind => .error (.foreignOperand kind)

end Cursor

end LispReader

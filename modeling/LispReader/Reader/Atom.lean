import LispReader.Reader.Scan
import LispReader.Char.Name

/-! Reading what lies between forms and the forms without parts. Atmosphere is blanks and
comments, a comment running through the next line feed. A string runs to its closing delimiter,
an escape making the next code point stand for itself or for the control it names. A char literal
is its prefix, one code point whatever it is, and the constituents after it, which together name
a character. Any other run of constituents is a reserved word, a number or a symbol. -/

namespace LispReader

namespace Dialect

/-- The scan after atmosphere, from `point` on, inside a comment or not. -/
def skipFrom (d : Dialect) (inComment : Bool) (point : Nat) : Text → Scan
  | [] => ⟨point, []⟩
  | c :: rest =>
    if inComment then d.skipFrom (c ≠ CodePoint.newline) (point + 1) rest
    else match d.categoryOf c with
      | .blank => d.skipFrom false (point + 1) rest
      | .commentStart => d.skipFrom true (point + 1) rest
      | _ => ⟨point, c :: rest⟩

/-- The scan after the atmosphere at its front. -/
def skipAtmosphere (d : Dialect) (s : Scan) : Scan :=
  d.skipFrom false s.point s.rest

/-- Skipping never adds code points to what is left. -/
theorem skipFrom_length_le (d : Dialect) (inComment : Bool) (point : Nat) (t : Text) :
    (d.skipFrom inComment point t).rest.length ≤ t.length := by
  -- Each step drops one code point or stops with the text it was given.
  induction t generalizing inComment point with
  | nil => simp [skipFrom]
  | cons c rest ih =>
    unfold skipFrom
    split
    · exact Nat.le_succ_of_le (ih _ _)
    · split
      · exact Nat.le_succ_of_le (ih _ _)
      · exact Nat.le_succ_of_le (ih _ _)
      · exact Nat.le_refl _

/-- Skipping atmosphere never adds code points to what is left. -/
theorem skipAtmosphere_length_le (d : Dialect) (s : Scan) :
    (d.skipAtmosphere s).rest.length ≤ s.rest.length :=
  skipFrom_length_le d false s.point s.rest

end Dialect

/-- The code point an escaped code point stands for: n, t, r and 0 name line feed, tab, carriage
return and the null character; any other stands for itself. -/
def unescape (c : CodePoint) : CodePoint :=
  if c = CodePoint.ofChar 'n' then CodePoint.ofChar '\n'
  else if c = CodePoint.ofChar 't' then CodePoint.ofChar '\t'
  else if c = CodePoint.ofChar 'r' then CodePoint.ofChar '\r'
  else if c = CodePoint.ofChar '0' then CodePoint.ofChar '\x00'
  else c

/-- The value of a string's body and the code points it takes, its closing delimiter included;
none when the text ends before the delimiter. -/
def stringBody (delim : CodePoint) (escape : Token) : Text → Option (Text × Nat)
  | [] => none
  | c :: rest =>
    if c = delim then some ([], 1)
    else if escape == some [c] then
      match rest with
      | [] => none
      | e :: after => (stringBody delim escape after).map fun (value, n) => (unescape e :: value, n + 2)
    else (stringBody delim escape rest).map fun (value, n) => (c :: value, n + 1)

/-- The atom a run of constituents stands for: a reserved word, a number, or a symbol; none for
an integer past the digit limit, and in a strict dialect for a run that starts like a number and
is none. -/
def castAtom (d : Dialect) (run : Text) : Option Atom :=
  if run = Text.ofString "nil" then some .nil
  else if run = Text.ofString "true" ∨ run = Text.ofString "#t" then some (.bool true)
  else if run = Text.ofString "false" ∨ run = Text.ofString "#f" then some (.bool false)
  else match Numeral.Lexeme.read? run with
    | some lexeme => lexeme.value?.map fun value => .number ⟨value, some run⟩
    | none => if d.strictNumbers ∧ Numeral.looksNumeric run then none else some (.symbol run)

namespace Dialect

/-- Reads a string whose delimiter is the first code point of the scan. -/
def readString (d : Dialect) (s : Scan) (delim : CodePoint) (body : Text)
    (front : s.rest = delim :: body) : Except SyntaxError (Step s) :=
  match stringBody delim d.escape body with
  | none => .error ⟨.unterminatedString, s.stop, [.character, .token d.stringDelimiter]⟩
  | some (value, n) =>
    .ok ⟨.atom (.string value) ⟨s.point, s.point + (n + 1)⟩, s.advance (n + 1),
      s.advance_shorter (Nat.succ_pos n) (by simp [front])⟩

/-- Reads a char literal whose prefix `pfx` starts the scan. -/
def readChar (d : Dialect) (s : Scan) (pfx : Text) : Except SyntaxError (Step s) :=
  match after : s.rest.drop pfx.length with
  | [] => .error ⟨.unexpectedEndOfInput, s.stop, [.character]⟩
  | first :: more =>
    let run := more.takeWhile d.isConstituent
    match CharName.resolveFrom first run with
    | none => .error ⟨.malformedCharacterLiteral, s.point, [.character]⟩
    | some c =>
      let width := pfx.length + 1 + run.length
      .ok ⟨.atom (.char [c]) ⟨s.point, s.point + width⟩, s.advance width,
        s.advance_shorter (by omega) (by intro empty; simp [empty] at after)⟩

/-- Reads the run of constituents that starts with the code point `c` of the scan. -/
def readRun (d : Dialect) (s : Scan) (c : CodePoint) (rest : Text) (front : s.rest = c :: rest) :
    Except SyntaxError (Step s) :=
  let run := c :: rest.takeWhile d.isConstituent
  match castAtom d run with
  | none => .error ⟨.malformedNumericLiteral, s.point, [.number]⟩
  | some a =>
    .ok ⟨.atom a ⟨s.point, s.point + run.length⟩, s.advance run.length,
      s.advance_shorter (by simp [run]) (by simp [front])⟩

/-- Reads an atom that starts with the code point `c` of the scan: a char literal when the
dialect reads them and the scan starts with their prefix, otherwise a run of constituents. -/
def readAtom (d : Dialect) (s : Scan) (c : CodePoint) (rest : Text)
    (front : s.rest = c :: rest) : Except SyntaxError (Step s) :=
  match d.charPrefix with
  | some pfx =>
    if d.charLiterals ∧ pfx.isPrefixOf s.rest then d.readChar s pfx else d.readRun s c rest front
  | none => d.readRun s c rest front

end Dialect

end LispReader

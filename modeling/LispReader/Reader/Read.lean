import LispReader.Reader.Atom

/-! Reading forms. One code point after the atmosphere decides what comes: a list or a vector
runs to its own closer, a quote prefix quotes the form after it, a string delimiter opens a
string, a closer is out of place, and anything else starts an atom. A source is read form by form
until its end or its first fault; the forms read before a fault are kept. -/

namespace LispReader

/-- The two kinds of sequence. -/
inductive SeqKind where
  /-- A list. -/
  | list
  /-- A vector. -/
  | vector
  deriving DecidableEq

namespace SeqKind

/-- The category of the code point that closes the sequence. -/
def closer : SeqKind → Category
  | .list => .listClose
  | .vector => .vectorClose

/-- The token that closes the sequence in a dialect. -/
def closeToken (d : Dialect) : SeqKind → Token
  | .list => d.listClose
  | .vector => d.vectorClose

/-- What a sequence expects while it is open: a form or its closer. -/
def expected (d : Dialect) (kind : SeqKind) : List Expectation :=
  [.expression, .token (kind.closeToken d)]

/-- The error of a source that ends inside the sequence. -/
def unterminated : SeqKind → SyntaxKind
  | .list => .unterminatedList
  | .vector => .unterminatedVector

/-- The form of a sequence of the kind. -/
def build (kind : SeqKind) (items : List (Form Span)) (span : Span) : Form Span :=
  match kind with
  | .list => .list items span
  | .vector => .vector items span

end SeqKind

/-- Nesting deeper than this many lists, vectors and quotes is refused, as the reader's own
recursion would go too deep. -/
def nestingLimit : Nat := 490

namespace Dialect

/-- The kind of quote and the width of the prefix at the front of a text whose first code point
`c` is a quote prefix: unquote followed by the splice mark is a two-wide unquote-splicing. -/
def quotePrefixAt (d : Dialect) (c : CodePoint) (rest : Text) : QuoteKind × Nat :=
  match rest with
  | n :: _ => if d.unquote = some [c] ∧ d.splice = some [n] then (.unquoteSplicing, 2) else (d.quoteKind c, 1)
  | [] => (d.quoteKind c, 1)

/-- A quote prefix is one or two code points wide. -/
theorem quotePrefixAt_width_pos (d : Dialect) (c : CodePoint) (rest : Text) :
    0 < (d.quotePrefixAt c rest).2 := by
  unfold quotePrefixAt
  split
  · split <;> simp
  · simp

/-- The scan after a quote prefix whose first code point `c` starts `t`, and the atmosphere after
the prefix. -/
def afterQuotePrefix (d : Dialect) (t : Scan) (c : CodePoint) (rest : Text) : Scan :=
  d.skipAtmosphere (t.advance (d.quotePrefixAt c rest).2)

/-- What follows a quote prefix is shorter than the scan the prefix starts. -/
theorem afterQuotePrefix_shorter (d : Dialect) (t : Scan) (c : CodePoint) (rest : Text)
    (front : t.rest = c :: rest) : (d.afterQuotePrefix t c rest).rest.length < t.rest.length :=
  Nat.lt_of_le_of_lt (d.skipAtmosphere_length_le _)
    (t.advance_shorter (d.quotePrefixAt_width_pos c rest) (by simp [front]))

/-- Whether a text ends or starts with a closer. -/
def endsOrCloses (d : Dialect) : Text → Bool
  | [] => true
  | c :: _ => (d.categoryOf c).isCloser

-- Reading recurses on what is left of the source: each function below either takes code points
-- before it calls another, or calls one that comes later in the order readForm, readItems,
-- readItemsAt, readFormAt, then readSeq and readQuoted; the measures say so.
mutual
/-- Reads one form after the atmosphere, with `depth` levels of nesting still allowed;
`expected` is what the caller expects, named when a closer stands where the form should. -/
def readForm (d : Dialect) (depth : Nat) (expected : List Expectation) (s : Scan) :
    Except Fault (Step s) :=
  d.readFormAt depth expected (d.skipAtmosphere s) (d.skipAtmosphere_length_le s)
termination_by 5 * s.rest.length + 4
decreasing_by
  have := d.skipAtmosphere_length_le s
  omega

/-- Reads one form that starts right at the front of `t`, which lies within `s`. -/
def readFormAt (d : Dialect) (depth : Nat) (expected : List Expectation) (t : Scan) {s : Scan}
    (skipped : t.rest.length ≤ s.rest.length) : Except Fault (Step s) :=
  match front : t.rest with
  | [] => .error (.invalid ⟨.unexpectedEndOfInput, t.point, expected⟩)
  | c :: rest =>
    match d.categoryOf c with
    | .listOpen => d.readSeq depth .list t (by simp [front]) skipped
    | .vectorOpen => d.readSeq depth .vector t (by simp [front]) skipped
    | .listClose | .vectorClose =>
      .error (.invalid ⟨.unexpectedClosingDelimiter, t.point, expected⟩)
    | .quotePrefix => d.readQuoted depth t c rest front skipped
    | .stringDelimiter =>
      match d.readString t c rest front with
      | .error e => .error (.invalid e)
      | .ok step => .ok (step.widen skipped)
    | _ =>
      match d.readAtom t c rest front with
      | .error e => .error (.invalid e)
      | .ok step => .ok (step.widen skipped)
termination_by 5 * t.rest.length + 2
decreasing_by all_goals omega

/-- Reads a quote prefix whose first code point `c` starts `t`, and the form it quotes. -/
def readQuoted (d : Dialect) (depth : Nat) (t : Scan) (c : CodePoint) (rest : Text)
    (front : t.rest = c :: rest) {s : Scan} (skipped : t.rest.length ≤ s.rest.length) :
    Except Fault (Step s) :=
  let prefixed := d.quotePrefixAt c rest
  let head := Form.symbol prefixed.1.name ⟨t.point, t.point + prefixed.2⟩
  if d.endsOrCloses (d.afterQuotePrefix t c rest).rest then
    .error (.invalid ⟨.danglingQuotePrefix, (d.afterQuotePrefix t c rest).point, [.expression]⟩)
  else if depth = 0 then .error .tooDeep
  else
    match d.readForm (depth - 1) [.expression] (d.afterQuotePrefix t c rest) with
    | .error fault => .error fault
    | .ok step =>
      .ok ⟨.list [head, step.form] ⟨t.point, step.next.point⟩, step.next,
        Nat.lt_of_lt_of_le
          (Nat.lt_trans step.shorter (d.afterQuotePrefix_shorter t c rest front)) skipped⟩
termination_by 5 * t.rest.length + 1
decreasing_by
  have := d.afterQuotePrefix_shorter t c rest front
  omega

/-- Reads a sequence whose opener is the first code point of `t`, with `depth` levels of nesting
allowed for the sequence itself. -/
def readSeq (d : Dialect) (depth : Nat) (kind : SeqKind) (t : Scan) (some_left : t.rest ≠ [])
    {s : Scan} (skipped : t.rest.length ≤ s.rest.length) : Except Fault (Step s) :=
  if depth = 0 then .error .tooDeep
  else
    match d.readItems (depth - 1) kind t.point [] (t.advance 1) with
    | .error fault => .error fault
    | .ok step =>
      .ok ⟨step.form, step.next, Nat.lt_of_lt_of_le
        (Nat.lt_trans step.shorter (t.advance_shorter Nat.one_pos some_left)) skipped⟩
termination_by 5 * t.rest.length + 1
decreasing_by
  have := t.advance_shorter Nat.one_pos some_left
  omega

/-- Reads the items of an open sequence up to its closer, after the atmosphere; `start` is where
its opener stands and `items` holds the items read so far, the last first. -/
def readItems (d : Dialect) (depth : Nat) (kind : SeqKind) (start : Nat) (items : List (Form Span))
    (s : Scan) : Except Fault (Step s) :=
  d.readItemsAt depth kind start items (d.skipAtmosphere s) (d.skipAtmosphere_length_le s)
termination_by 5 * s.rest.length + 4
decreasing_by
  have := d.skipAtmosphere_length_le s
  omega

/-- Reads the items of an open sequence from the front of `t`, which lies within `s`. -/
def readItemsAt (d : Dialect) (depth : Nat) (kind : SeqKind) (start : Nat)
    (items : List (Form Span)) (t : Scan) {s : Scan} (skipped : t.rest.length ≤ s.rest.length) :
    Except Fault (Step s) :=
  match front : t.rest with
  | [] => .error (.invalid ⟨kind.unterminated, t.point, kind.expected d⟩)
  | c :: _ =>
    have some_left : t.rest ≠ [] := by simp [front]
    if d.categoryOf c = kind.closer then
      .ok ⟨kind.build items.reverse ⟨start, t.point + 1⟩, t.advance 1,
        Nat.lt_of_lt_of_le (t.advance_shorter Nat.one_pos some_left) skipped⟩
    else if (d.categoryOf c).isCloser then
      .error (.invalid ⟨.mismatchedDelimiter, t.point, kind.expected d⟩)
    else
      match d.readFormAt depth (kind.expected d) t (Nat.le_refl _) with
      | .error fault => .error fault
      | .ok item =>
        match d.readItems depth kind start (item.form :: items) item.next with
        | .error fault => .error fault
        | .ok step =>
          .ok ⟨step.form, step.next, Nat.lt_of_lt_of_le
            (Nat.lt_trans step.shorter item.shorter) skipped⟩
termination_by 5 * t.rest.length + 3
decreasing_by
  · omega
  · have := item.shorter
    omega
end

end Dialect

end LispReader

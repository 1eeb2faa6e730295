import LispReader.Reader.Program

/-! The reader case by case: one equation for each way each reading function can go. -/

namespace LispReader

/-- What a step gives: the form read and the scan after it, without the proof that it is shorter. -/
def Step.out {s : Scan} (step : Step s) : Form Span × Scan :=
  (step.form, step.next)

/-- Widening a step keeps what it gives. -/
@[simp] theorem Step.out_widen {s t : Scan} (step : Step t) (le : t.rest.length ≤ s.rest.length) :
    (step.widen le).out = step.out :=
  rfl

namespace Scan

/-- Advancing past the front of what is left leaves the rest, the point moved by its length. -/
theorem advance_append (s : Scan) {front back : Text} (split : s.rest = front ++ back) :
    s.advance front.length = ⟨s.point + front.length, back⟩ := by
  -- The front fits in what is left, so nothing is clamped.
  simp only [advance, split, List.drop_left, List.length_append, Scan.mk.injEq, and_true]
  omega

/-- Advancing past one code point of a scan whose rest starts with it. -/
theorem advance_one (s : Scan) {c : CodePoint} {rest : Text} (front : s.rest = c :: rest) :
    s.advance 1 = ⟨s.point + 1, rest⟩ :=
  @advance_append s [c] rest front

end Scan

namespace Dialect

/-- Reading a form reads one at the front of the scan after its atmosphere. -/
theorem readForm_eq (d : Dialect) (depth : Nat) (expected : List Expectation) (s : Scan) :
    d.readForm depth expected s =
      d.readFormAt depth expected (d.skipAtmosphere s) (d.skipAtmosphere_length_le s) := by
  rw [readForm]

/-- At the end of the source there is no form to read. -/
theorem readFormAt_nil (d : Dialect) (depth : Nat) (expected : List Expectation) (t : Scan)
    {s : Scan} (skipped : t.rest.length ≤ s.rest.length) (empty : t.rest = []) :
    d.readFormAt depth expected t skipped =
      .error (.invalid ⟨.unexpectedEndOfInput, t.point, expected⟩) := by
  rw [readFormAt]
  split
  · rfl
  · simp_all

/-- The code point in front decides the production: the cases below are the branches of
`readFormAt` once the front is known. -/
private theorem readFormAt_cons (d : Dialect) (depth : Nat) (expected : List Expectation)
    (t : Scan) {s : Scan} (skipped : t.rest.length ≤ s.rest.length) {c : CodePoint} {rest : Text}
    (front : t.rest = c :: rest) :
    d.readFormAt depth expected t skipped =
      match d.categoryOf c with
      | .listOpen => d.readSeq depth .list t (by simp [front]) skipped
      | .vectorOpen => d.readSeq depth .vector t (by simp [front]) skipped
      | .listClose | .vectorClose =>
        .error (.invalid ⟨.unexpectedClosingDelimiter, t.point, expected⟩)
      | .quotePrefix => d.readQuoted depth t c rest front skipped
      | .stringDelimiter =>
        match d.readString t c rest front with
        | .error e => .error (.invalid e)
        | .ok step => .ok (step.widen skipped)
      | _ =>
        match d.readAtom t c rest front with
        | .error e => .error (.invalid e)
        | .ok step => .ok (step.widen skipped) := by
  rw [readFormAt]
  split
  · simp_all
  · -- The front the match found is the one given.
    rename_i c' rest' front'
    rw [front] at front'
    obtain ⟨rfl, rfl⟩ := List.cons.inj front'
    rfl

/-- A list opener starts a list. -/
theorem readFormAt_listOpen (d : Dialect) (depth : Nat) (expected : List Expectation) (t : Scan)
    {s : Scan} (skipped : t.rest.length ≤ s.rest.length) {c : CodePoint} {rest : Text}
    (front : t.rest = c :: rest) (opens : d.categoryOf c = .listOpen) :
    d.readFormAt depth expected t skipped = d.readSeq depth .list t (by simp [front]) skipped := by
  rw [d.readFormAt_cons depth expected t skipped front, opens]

/-- A vector opener starts a vector. -/
theorem readFormAt_vectorOpen (d : Dialect) (depth : Nat) (expected : List Expectation) (t : Scan)
    {s : Scan} (skipped : t.rest.length ≤ s.rest.length) {c : CodePoint} {rest : Text}
    (front : t.rest = c :: rest) (opens : d.categoryOf c = .vectorOpen) :
    d.readFormAt depth expected t skipped =
      d.readSeq depth .vector t (by simp [front]) skipped := by
  rw [d.readFormAt_cons depth expected t skipped front, opens]

/-- A closer where a form should start is out of place. -/
theorem readFormAt_closer (d : Dialect) (depth : Nat) (expected : List Expectation) (t : Scan)
    {s : Scan} (skipped : t.rest.length ≤ s.rest.length) {c : CodePoint} {rest : Text}
    (front : t.rest = c :: rest) (closes : (d.categoryOf c).isCloser) :
    d.readFormAt depth expected t skipped =
      .error (.invalid ⟨.unexpectedClosingDelimiter, t.point, expected⟩) := by
  rw [d.readFormAt_cons depth expected t skipped front]
  -- Only the two closing categories are closers.
  cases category : d.categoryOf c <;> simp_all [Category.isCloser]

/-- A quote prefix quotes the form after it. -/
theorem readFormAt_quotePrefix (d : Dialect) (depth : Nat) (expected : List Expectation)
    (t : Scan) {s : Scan} (skipped : t.rest.length ≤ s.rest.length) {c : CodePoint} {rest : Text}
    (front : t.rest = c :: rest) (quotes : d.categoryOf c = .quotePrefix) :
    d.readFormAt depth expected t skipped = d.readQuoted depth t c rest front skipped := by
  rw [d.readFormAt_cons depth expected t skipped front, quotes]

/-- A string delimiter starts a string. -/
theorem readFormAt_string (d : Dialect) (depth : Nat) (expected : List Expectation) (t : Scan)
    {s : Scan} (skipped : t.rest.length ≤ s.rest.length) {c : CodePoint} {rest : Text}
    (front : t.rest = c :: rest) (delimits : d.categoryOf c = .stringDelimiter) :
    (d.readFormAt depth expected t skipped).map Step.out =
      ((d.readString t c rest front).map Step.out).mapError Fault.invalid := by
  rw [d.readFormAt_cons depth expected t skipped front, delimits]
  -- Either the string is read, or its error becomes the fault.
  cases d.readString t c rest front <;> rfl

/-- Any other code point starts an atom. -/
theorem readFormAt_atom (d : Dialect) (depth : Nat) (expected : List Expectation) (t : Scan)
    {s : Scan} (skipped : t.rest.length ≤ s.rest.length) {c : CodePoint} {rest : Text}
    (front : t.rest = c :: rest) (plain : d.categoryOf c = .constituent) :
    (d.readFormAt depth expected t skipped).map Step.out =
      ((d.readAtom t c rest front).map Step.out).mapError Fault.invalid := by
  rw [d.readFormAt_cons depth expected t skipped front, plain]
  -- Either the atom is read, or its error becomes the fault.
  cases d.readAtom t c rest front <;> rfl

/-- A quote prefix with nothing after it but atmosphere, or a closer, dangles. -/
theorem readQuoted_dangling (d : Dialect) (depth : Nat) (t : Scan) (c : CodePoint) (rest : Text)
    (front : t.rest = c :: rest) {s : Scan} (skipped : t.rest.length ≤ s.rest.length)
    (dangles : d.endsOrCloses (d.afterQuotePrefix t c rest).rest) :
    d.readQuoted depth t c rest front skipped =
      .error (.invalid ⟨.danglingQuotePrefix, (d.afterQuotePrefix t c rest).point,
        [.expression]⟩) := by
  rw [readQuoted, if_pos dangles]

/-- A quote prefix with no nesting left is too deep. -/
theorem readQuoted_tooDeep (d : Dialect) (t : Scan) (c : CodePoint) (rest : Text)
    (front : t.rest = c :: rest) {s : Scan} (skipped : t.rest.length ≤ s.rest.length)
    (operand : d.endsOrCloses (d.afterQuotePrefix t c rest).rest = false) :
    d.readQuoted 0 t c rest front skipped = .error .tooDeep := by
  rw [readQuoted, if_neg (by simp [operand]), if_pos rfl]

/-- A quote prefix with a form after it reads the form, one level deeper, and lists it after the
quote's head symbol. -/
theorem readQuoted_operand (d : Dialect) (depth : Nat) (t : Scan) (c : CodePoint) (rest : Text)
    (front : t.rest = c :: rest) {s : Scan} (skipped : t.rest.length ≤ s.rest.length)
    (operand : d.endsOrCloses (d.afterQuotePrefix t c rest).rest = false) :
    (d.readQuoted (depth + 1) t c rest front skipped).map Step.out =
      (d.readForm depth [.expression] (d.afterQuotePrefix t c rest)).map fun step =>
        (.list [Form.symbol (d.quotePrefixAt c rest).1.name
            ⟨t.point, t.point + (d.quotePrefixAt c rest).2⟩, step.form] ⟨t.point, step.next.point⟩,
          step.next) := by
  rw [readQuoted, if_neg (by simp [operand]), if_neg (by omega), Nat.add_sub_cancel]
  -- The operand is read or its fault passes through.
  cases d.readForm depth [.expression] (d.afterQuotePrefix t c rest) <;> rfl

/-- A sequence with no nesting left is too deep. -/
theorem readSeq_tooDeep (d : Dialect) (kind : SeqKind) (t : Scan) (some_left : t.rest ≠ [])
    {s : Scan} (skipped : t.rest.length ≤ s.rest.length) :
    d.readSeq 0 kind t some_left skipped = .error .tooDeep := by
  rw [readSeq, if_pos rfl]

/-- A sequence reads its items after its opener, one level deeper. -/
theorem readSeq_items (d : Dialect) (depth : Nat) (kind : SeqKind) (t : Scan)
    (some_left : t.rest ≠ []) {s : Scan} (skipped : t.rest.length ≤ s.rest.length) :
    (d.readSeq (depth + 1) kind t some_left skipped).map Step.out =
      (d.readItems depth kind t.point [] (t.advance 1)).map Step.out := by
  rw [readSeq, if_neg (by omega), Nat.add_sub_cancel]
  -- The items are read or their fault passes through.
  cases d.readItems depth kind t.point [] (t.advance 1) <;> rfl

/-- Reading items reads them from the front of the scan after its atmosphere. -/
theorem readItems_eq (d : Dialect) (depth : Nat) (kind : SeqKind) (start : Nat)
    (items : List (Form Span)) (s : Scan) :
    d.readItems depth kind start items s =
      d.readItemsAt depth kind start items (d.skipAtmosphere s) (d.skipAtmosphere_length_le s) := by
  rw [readItems]

/-- The code point in front decides what an open sequence does next: the cases below are the
branches of `readItemsAt` once the front is known. -/
private theorem readItemsAt_cons (d : Dialect) (depth : Nat) (kind : SeqKind) (start : Nat)
    (items : List (Form Span)) (t : Scan) {s : Scan} (skipped : t.rest.length ≤ s.rest.length)
    {c : CodePoint} {rest : Text} (front : t.rest = c :: rest) :
    d.readItemsAt depth kind start items t skipped =
      if d.categoryOf c = kind.closer then
        .ok ⟨kind.build items.reverse ⟨start, t.point + 1⟩, t.advance 1,
          Nat.lt_of_lt_of_le (t.advance_shorter Nat.one_pos (by simp [front])) skipped⟩
      else if (d.categoryOf c).isCloser then
        .error (.invalid ⟨.mismatchedDelimiter, t.point, kind.expected d⟩)
      else
        match d.readFormAt depth (kind.expected d) t (Nat.le_refl _) with
        | .error fault => .error fault
        | .ok item =>
          match d.readItems depth kind start (item.form :: items) item.next with
          | .error fault => .error fault
          | .ok step =>
            .ok ⟨step.form, step.next, Nat.lt_of_lt_of_le
              (Nat.lt_trans step.shorter item.shorter) skipped⟩ := by
  rw [readItemsAt]
  split
  · simp_all
  · -- The front the match found is the one given.
    rename_i c' rest' front'
    rw [front] at front'
    obtain ⟨rfl, rfl⟩ := List.cons.inj front'
    rfl

/-- The source ending inside a sequence leaves it unterminated. -/
theorem readItemsAt_nil (d : Dialect) (depth : Nat) (kind : SeqKind) (start : Nat)
    (items : List (Form Span)) (t : Scan) {s : Scan} (skipped : t.rest.length ≤ s.rest.length)
    (empty : t.rest = []) :
    d.readItemsAt depth kind start items t skipped =
      .error (.invalid ⟨kind.unterminated, t.point, kind.expected d⟩) := by
  rw [readItemsAt]
  split
  · rfl
  · simp_all

/-- The sequence's own closer ends it, with the items read so far. -/
theorem readItemsAt_close (d : Dialect) (depth : Nat) (kind : SeqKind) (start : Nat)
    (items : List (Form Span)) (t : Scan) {s : Scan} (skipped : t.rest.length ≤ s.rest.length)
    {c : CodePoint} {rest : Text} (front : t.rest = c :: rest)
    (closes : d.categoryOf c = kind.closer) :
    (d.readItemsAt depth kind start items t skipped).map Step.out =
      .ok (kind.build items.reverse ⟨start, t.point + 1⟩, t.advance 1) := by
  rw [d.readItemsAt_cons depth kind start items t skipped front, if_pos closes]
  rfl

/-- The closer of the other kind of sequence is a mismatch. -/
theorem readItemsAt_mismatched (d : Dialect) (depth : Nat) (kind : SeqKind) (start : Nat)
    (items : List (Form Span)) (t : Scan) {s : Scan} (skipped : t.rest.length ≤ s.rest.length)
    {c : CodePoint} {rest : Text} (front : t.rest = c :: rest)
    (other : d.categoryOf c ≠ kind.closer) (closes : (d.categoryOf c).isCloser) :
    d.readItemsAt depth kind start items t skipped =
      .error (.invalid ⟨.mismatchedDelimiter, t.point, kind.expected d⟩) := by
  rw [d.readItemsAt_cons depth kind start items t skipped front, if_neg other, if_pos closes]

/-- Anything else is the next item, and the sequence goes on after it. -/
theorem readItemsAt_item (d : Dialect) (depth : Nat) (kind : SeqKind) (start : Nat)
    (items : List (Form Span)) (t : Scan) {s : Scan} (skipped : t.rest.length ≤ s.rest.length)
    {c : CodePoint} {rest : Text} (front : t.rest = c :: rest)
    (opens : (d.categoryOf c).isCloser = false) :
    (d.readItemsAt depth kind start items t skipped).map Step.out =
      (d.readFormAt depth (kind.expected d) t (Nat.le_refl _)).bind fun item =>
        (d.readItems depth kind start (item.form :: items) item.next).map Step.out := by
  -- The sequence's own closer is a closer too, so neither closing branch is taken.
  have other : d.categoryOf c ≠ kind.closer := by
    intro same
    cases kind <;> simp_all [SeqKind.closer, Category.isCloser]
  rw [d.readItemsAt_cons depth kind start items t skipped front, if_neg other,
    if_neg (by simp [opens])]
  -- The item and the rest are each read or pass their fault through.
  cases d.readFormAt depth (kind.expected d) t (Nat.le_refl _) with
  | error fault => rfl
  | ok item =>
    dsimp only [Except.bind]
    cases d.readItems depth kind start (item.form :: items) item.next <;> rfl

/-- A source with nothing left but atmosphere is read to its end. -/
theorem readFrom_end (d : Dialect) (limit : Nat) (s : Scan) (read : List (Form Span))
    (empty : (d.skipAtmosphere s).rest = []) :
    d.readFrom limit s read = ⟨read.reverse, none⟩ := by
  rw [readFrom]
  split
  · rfl
  · simp_all

/-- A source with more than atmosphere left reads one form and goes on after it, or stops at its
fault. -/
theorem readFrom_form (d : Dialect) (limit : Nat) (s : Scan) (read : List (Form Span))
    (some_left : (d.skipAtmosphere s).rest ≠ []) :
    d.readFrom limit s read =
      match d.readFormAt limit [.expression] (d.skipAtmosphere s)
        (d.skipAtmosphere_length_le s) with
      | .error fault => ⟨read.reverse, some fault⟩
      | .ok step => d.readFrom limit step.next (step.form :: read) := by
  rw [readFrom]
  split
  · simp_all
  · rfl

end Dialect

end LispReader

import LispReader.Proofs.Reader.Layout

/-! Reading does not depend on where in a source it starts. Read from a scan whose point lies `k`
code points further on, with the same code points left, every form, span, scan and fault comes
out moved by `k`, and nothing else changes. Nor does it depend on the atmosphere in front of a
scan: two scans whose atmosphere ends at one place read alike. As for soundness, one induction on
what is left carries all the reading functions. -/

namespace LispReader

namespace Scan

/-- The scan with its point `k` code points further on and the same code points left; reducible,
so that what is said of the code points left of a scan is said of the moved scan too. -/
@[reducible] def shift (k : Nat) (s : Scan) : Scan :=
  ⟨s.point + k, s.rest⟩

@[simp] theorem shift_point (k : Nat) (s : Scan) : (s.shift k).point = s.point + k := rfl

@[simp] theorem shift_rest (k : Nat) (s : Scan) : (s.shift k).rest = s.rest := rfl

@[simp] theorem shift_zero (s : Scan) : s.shift 0 = s := rfl

/-- Advancing a moved scan is advancing it and moving the result. -/
theorem advance_shift (k n : Nat) (s : Scan) : (s.shift k).advance n = (s.advance n).shift k := by
  simp only [shift, advance, Scan.mk.injEq, and_true]
  omega

/-- A moved scan ends `k` code points further on. -/
theorem stop_shift (k : Nat) (s : Scan) : (s.shift k).stop = s.stop + k := by
  simp only [stop]
  omega

end Scan

/-- The error moved `k` code points further on: of the same kind, expecting the same. -/
def SyntaxError.shift (k : Nat) (e : SyntaxError) : SyntaxError :=
  ⟨e.kind, e.point + k, e.expected⟩

/-- The fault moved `k` code points further on; nesting too deep stands at no point. -/
def Fault.shift (k : Nat) : Fault → Fault
  | .invalid e => .invalid (e.shift k)
  | .tooDeep => .tooDeep

@[simp] theorem Fault.shift_zero (fault : Fault) : fault.shift 0 = fault := by
  cases fault <;> rfl

/-- A form and the scan after it, both moved `k` code points further on. -/
def shiftRead (k : Nat) (read : Form Span × Scan) : Form Span × Scan :=
  (read.1.shift k, read.2.shift k)

/-- The outcome of a read moved `k` code points further on: the form and the scan after it, or
the fault. -/
def shiftOutcome (k : Nat) (outcome : Except Fault (Form Span × Scan)) :
    Except Fault (Form Span × Scan) :=
  (outcome.map (shiftRead k)).mapError (Fault.shift k)

/-- A reading moved `k` code points further on: its forms and its fault. -/
def Reading.shift (k : Nat) (r : Reading) : Reading :=
  ⟨r.forms.map (Form.shift k), r.fault.map (Fault.shift k)⟩

@[simp] theorem Reading.shift_zero (r : Reading) : r.shift 0 = r := by
  have forms : (Form.shift 0 : Form Span → Form Span) = id := funext Form.shift_zero
  have fault : Fault.shift 0 = id := funext Fault.shift_zero
  simp [Reading.shift, forms, fault]

/-- An atom of `w` code points at `p`, moved by `k`. -/
theorem Form.shift_atom (k : Nat) (a : Atom) (p w : Nat) :
    (Form.atom a ⟨p, p + w⟩).shift k = .atom a ⟨p + k, p + k + w⟩ := by
  simp only [Form.shift, Span.shift, Form.atom.injEq, Span.mk.injEq, true_and]
  omega

/-- Moving forms is moving each of them. -/
theorem Form.shiftAll_eq_map (k : Nat) (fs : List (Form Span)) :
    Form.shiftAll k fs = fs.map (Form.shift k) := by
  induction fs with
  | nil => rfl
  | cons f rest ih => rw [Form.shiftAll, ih, List.map_cons]

/-- What a step gives, with its parts moved further on, is what a step with moved parts gives. -/
theorem Step.exists_of_shift {k : Nat} {s s' : Scan} {e' : Except Fault (Step s')}
    {step : Step s} (shifted : e'.map Step.out = shiftOutcome k (.ok step.out)) :
    ∃ step', e' = .ok step' ∧ step'.form = step.form.shift k ∧ step'.next = step.next.shift k :=
  Step.exists_of_map_out shifted

/-- A fault, moved further on, is the fault of a read that fails. -/
theorem Step.error_of_shift {k : Nat} {s' : Scan} {e' : Except Fault (Step s')} {fault : Fault}
    (shifted : e'.map Step.out = shiftOutcome k (.error fault)) : e' = .error (fault.shift k) := by
  cases e' with
  | error => cases shifted; rfl
  | ok => cases shifted

namespace Dialect

/-! ### Atmosphere and what has no parts -/

/-- Skipping atmosphere from a point further on stops as far further on. -/
theorem skipFrom_shift (d : Dialect) (k : Nat) (inComment : Bool) (point : Nat) (t : Text) :
    d.skipFrom inComment (point + k) t = (d.skipFrom inComment point t).shift k := by
  -- Each step takes one code point and moves both points by one.
  induction t generalizing inComment point with
  | nil => rfl
  | cons c rest ih =>
    rw [skipFrom, skipFrom]
    split
    · rw [Nat.add_right_comm, ih]
    · split
      · rw [Nat.add_right_comm, ih]
      · rw [Nat.add_right_comm, ih]
      · rfl

/-- Skipping atmosphere commutes with moving the scan. -/
theorem skipAtmosphere_shift (d : Dialect) (k : Nat) (s : Scan) :
    d.skipAtmosphere (s.shift k) = (d.skipAtmosphere s).shift k :=
  d.skipFrom_shift k false s.point s.rest

/-- A string read further on is the string read here, moved. -/
theorem readString_shift (d : Dialect) (k : Nat) (s : Scan) {q : CodePoint} {body : Text}
    (front : s.rest = q :: body) :
    ((d.readString (s.shift k) q body front).map Step.out).mapError Fault.invalid =
      shiftOutcome k (((d.readString s q body front).map Step.out).mapError Fault.invalid) := by
  unfold readString
  -- Both read the same body; only the points differ.
  cases stringBody q d.escape body with
  | none =>
    simp [Except.map, Except.mapError, shiftOutcome, Fault.shift, SyntaxError.shift,
      Scan.stop_shift]
  | some found =>
    simp [Except.map, Except.mapError, shiftOutcome, shiftRead, Step.out, Form.shift_atom,
      Scan.advance_shift]

/-- A char literal read further on is the one read here, moved. -/
theorem readChar_shift (d : Dialect) (k : Nat) (s : Scan) (pfx : Text) :
    ((d.readChar (s.shift k) pfx).map Step.out).mapError Fault.invalid =
      shiftOutcome k (((d.readChar s pfx).map Step.out).mapError Fault.invalid) := by
  obtain ⟨point, rest⟩ := s
  dsimp only [Scan.shift]
  unfold readChar
  dsimp only
  -- Both read the same code points after the prefix; only the points differ.
  split
  · simp only [Except.map, Except.mapError, shiftOutcome, Fault.shift, SyntaxError.shift,
      Scan.stop]
    congr 3
    omega
  · split
    · rfl
    · simp only [Except.map, Except.mapError, shiftOutcome, shiftRead, Step.out, Form.shift_atom,
        Scan.advance, Scan.shift, Except.ok.injEq, Prod.mk.injEq, Scan.mk.injEq, true_and,
        and_true]
      omega

/-- A run of constituents read further on is the one read here, moved. -/
theorem readRun_shift (d : Dialect) (k : Nat) (s : Scan) {c : CodePoint} {rest : Text}
    (front : s.rest = c :: rest) :
    ((d.readRun (s.shift k) c rest front).map Step.out).mapError Fault.invalid =
      shiftOutcome k (((d.readRun s c rest front).map Step.out).mapError Fault.invalid) := by
  unfold readRun
  dsimp only
  -- Both cast the same run; only the points differ.
  cases castAtom d (c :: rest.takeWhile d.isConstituent) with
  | none => rfl
  | some a =>
    simp [Except.map, Except.mapError, shiftOutcome, shiftRead, Step.out, Form.shift_atom,
      Scan.advance_shift]

/-- An atom read further on is the one read here, moved. -/
theorem readAtom_shift (d : Dialect) (k : Nat) (s : Scan) {c : CodePoint} {rest : Text}
    (front : s.rest = c :: rest) :
    ((d.readAtom (s.shift k) c rest front).map Step.out).mapError Fault.invalid =
      shiftOutcome k (((d.readAtom s c rest front).map Step.out).mapError Fault.invalid) := by
  unfold readAtom
  cases d.charPrefix with
  | none => exact d.readRun_shift k s front
  | some pfx =>
    dsimp only
    -- Whether a char literal starts depends on the code points alone.
    by_cases leads : d.charLiterals ∧ pfx.isPrefixOf s.rest
    · rw [if_pos (show d.charLiterals ∧ pfx.isPrefixOf (s.shift k).rest from leads), if_pos leads]
      exact d.readChar_shift k s pfx
    · rw [if_neg (show ¬ (d.charLiterals ∧ pfx.isPrefixOf (s.shift k).rest) from leads),
        if_neg leads]
      exact d.readRun_shift k s front

/-! ### Each reading function, given the shorter scans -/

/-- Reading is the same wherever it starts, at every scan with fewer than `n` code points left:
the hypothesis the induction carries. -/
structure ShiftsBelow (d : Dialect) (n : Nat) : Prop where
  /-- A form read after atmosphere further on is the one read here, moved. -/
  form {depth : Nat} {expected : List Expectation} {k : Nat} {s : Scan} :
    s.rest.length < n →
      (d.readForm depth expected (s.shift k)).map Step.out =
        shiftOutcome k ((d.readForm depth expected s).map Step.out)
  /-- Items read after atmosphere further on, after the items read before moved, are the ones
  read here, moved. -/
  items {depth : Nat} {kind : SeqKind} {start : Nat} {items : List (Form Span)} {k : Nat}
    {s : Scan} : s.rest.length < n →
      (d.readItems depth kind (start + k) (items.map (Form.shift k)) (s.shift k)).map Step.out =
        shiftOutcome k ((d.readItems depth kind start items s).map Step.out)

section Below

variable {d : Dialect} {n k : Nat} (ih : d.ShiftsBelow n)
include ih

/-- A sequence read further on is the one read here, moved. -/
theorem readSeq_shift {depth : Nat} {kind : SeqKind} {t s s' : Scan} {some_left : t.rest ≠ []}
    (len : t.rest.length ≤ n) (skipped : t.rest.length ≤ s.rest.length)
    (skipped' : (t.shift k).rest.length ≤ s'.rest.length) :
    (d.readSeq depth kind (t.shift k) some_left skipped').map Step.out =
      shiftOutcome k ((d.readSeq depth kind t some_left skipped).map Step.out) := by
  cases depth with
  | zero => rw [readSeq_tooDeep, readSeq_tooDeep]; rfl
  | succ depth =>
    rw [readSeq_items, readSeq_items, Scan.shift_point, Scan.advance_shift]
    -- The items start after the opener, with less left.
    have shorter : (t.advance 1).rest.length < n := by
      have := t.advance_shorter Nat.one_pos some_left
      omega
    have items_shift : (d.readItems depth kind (t.point + k) ([].map (Form.shift k))
        ((t.advance 1).shift k)).map Step.out =
          shiftOutcome k ((d.readItems depth kind t.point [] (t.advance 1)).map Step.out) :=
      ih.items shorter
    simpa using items_shift

/-- A quote read further on is the one read here, moved. -/
theorem readQuoted_shift {depth : Nat} {t s s' : Scan} {c : CodePoint} {rest : Text}
    {front : t.rest = c :: rest} (len : t.rest.length ≤ n)
    (skipped : t.rest.length ≤ s.rest.length) (skipped' : (t.shift k).rest.length ≤ s'.rest.length) :
    (d.readQuoted depth (t.shift k) c rest front skipped').map Step.out =
      shiftOutcome k ((d.readQuoted depth t c rest front skipped).map Step.out) := by
  have after : d.afterQuotePrefix (t.shift k) c rest = (d.afterQuotePrefix t c rest).shift k := by
    rw [afterQuotePrefix, afterQuotePrefix, Scan.advance_shift, skipAtmosphere_shift]
  cases operand : d.endsOrCloses (d.afterQuotePrefix t c rest).rest with
  | true =>
    rw [readQuoted_dangling _ _ _ _ _ _ _ operand,
      readQuoted_dangling _ _ (t.shift k) _ _ _ _ (by rw [after]; exact operand), after]
    rfl
  | false =>
  cases depth with
  | zero =>
    rw [readQuoted_tooDeep _ _ _ _ _ _ operand,
      readQuoted_tooDeep _ (t.shift k) _ _ _ _ (by rw [after]; exact operand)]
    rfl
  | succ depth =>
    rw [readQuoted_operand _ _ _ _ _ _ _ operand,
      readQuoted_operand _ _ (t.shift k) _ _ _ _ (by rw [after]; exact operand), after]
    -- The operand is read after the prefix, with less left; the quote around it moves with it.
    have shorter : (d.afterQuotePrefix t c rest).rest.length < n := by
      have := d.afterQuotePrefix_shorter t c rest front
      omega
    have operand_shift : (d.readForm depth [.expression]
        ((d.afterQuotePrefix t c rest).shift k)).map Step.out =
          shiftOutcome k ((d.readForm depth [.expression] (d.afterQuotePrefix t c rest)).map
            Step.out) :=
      ih.form shorter
    cases found : d.readForm depth [.expression] (d.afterQuotePrefix t c rest) with
    | error fault =>
      rw [found] at operand_shift
      rw [Step.error_of_shift operand_shift]
      rfl
    | ok step =>
      rw [found] at operand_shift
      obtain ⟨step', found', same_form, same_next⟩ := Step.exists_of_shift operand_shift
      rw [found']
      simp only [Except.map, Except.mapError, shiftOutcome, shiftRead, same_form, same_next,
        Form.shift, Form.shiftAll, Form.symbol, Span.shift, Scan.shift_point, Except.ok.injEq,
        Prod.mk.injEq, and_true, Form.list.injEq, Form.atom.injEq, List.cons.injEq,
        Span.mk.injEq, true_and]
      omega

/-- A form read further on from the front of a scan no atmosphere starts is the one read here,
moved. -/
theorem readFormAt_shift {depth : Nat} {expected : List Expectation} {t s s' : Scan}
    (len : t.rest.length ≤ n) (ends : d.AtmosphereEnds t.rest)
    (skipped : t.rest.length ≤ s.rest.length) (skipped' : (t.shift k).rest.length ≤ s'.rest.length) :
    (d.readFormAt depth expected (t.shift k) skipped').map Step.out =
      shiftOutcome k ((d.readFormAt depth expected t skipped).map Step.out) := by
  cases front : t.rest with
  | nil =>
    rw [readFormAt_nil _ _ _ _ _ front, readFormAt_nil _ _ _ (t.shift k) _ front]
    rfl
  | cons c rest =>
  rw [front] at ends
  -- The category of the code point in front picks the same branch for both.
  cases category : d.categoryOf c with
  | listOpen =>
    rw [readFormAt_listOpen _ _ _ _ _ front category,
      readFormAt_listOpen _ _ _ (t.shift k) _ front category]
    exact readSeq_shift ih len skipped skipped'
  | vectorOpen =>
    rw [readFormAt_vectorOpen _ _ _ _ _ front category,
      readFormAt_vectorOpen _ _ _ (t.shift k) _ front category]
    exact readSeq_shift ih len skipped skipped'
  | listClose | vectorClose =>
    rw [readFormAt_closer _ _ _ _ _ front (by simp [category, Category.isCloser]),
      readFormAt_closer _ _ _ (t.shift k) _ front (by simp [category, Category.isCloser])]
    rfl
  | quotePrefix =>
    rw [readFormAt_quotePrefix _ _ _ _ _ front category,
      readFormAt_quotePrefix _ _ _ (t.shift k) _ front category]
    exact readQuoted_shift ih len skipped skipped'
  | stringDelimiter =>
    rw [readFormAt_string _ _ _ _ _ front category,
      readFormAt_string _ _ _ (t.shift k) _ front category]
    exact d.readString_shift k t front
  | constituent =>
    rw [readFormAt_atom _ _ _ _ _ front category, readFormAt_atom _ _ _ (t.shift k) _ front category]
    exact d.readAtom_shift k t front
  | blank => exact absurd category ends.1
  | commentStart => exact absurd category ends.2

/-- Items read further on from the front of a scan no atmosphere starts, after the items read
before moved, are the ones read here, moved. -/
theorem readItemsAt_shift {depth : Nat} {kind : SeqKind} {start : Nat} {items : List (Form Span)}
    {t s s' : Scan} (len : t.rest.length ≤ n) (ends : d.AtmosphereEnds t.rest)
    (skipped : t.rest.length ≤ s.rest.length) (skipped' : (t.shift k).rest.length ≤ s'.rest.length) :
    (d.readItemsAt depth kind (start + k) (items.map (Form.shift k)) (t.shift k) skipped').map
        Step.out =
      shiftOutcome k ((d.readItemsAt depth kind start items t skipped).map Step.out) := by
  cases front : t.rest with
  | nil =>
    rw [readItemsAt_nil _ _ _ _ _ _ _ front, readItemsAt_nil _ _ _ _ _ (t.shift k) _ front]
    rfl
  | cons c rest =>
  by_cases closes : d.categoryOf c = kind.closer
  · -- The sequence's own closer ends both, over the same items.
    rw [readItemsAt_close _ _ _ _ _ _ _ front closes,
      readItemsAt_close _ _ _ _ _ (t.shift k) _ front closes, Scan.advance_shift]
    simp only [Except.map, Except.mapError, shiftOutcome, shiftRead, SeqKind.shift_build,
      Form.shiftAll_eq_map, List.map_reverse, Span.shift, Except.ok.injEq, Prod.mk.injEq, and_true]
    congr 2
    omega
  cases closer : (d.categoryOf c).isCloser with
  | true =>
    rw [readItemsAt_mismatched _ _ _ _ _ _ _ front closes (by simp [closer]),
      readItemsAt_mismatched _ _ _ _ _ (t.shift k) _ front closes (by simp [closer])]
    rfl
  | false =>
    rw [readItemsAt_item _ _ _ _ _ _ _ front closer,
      readItemsAt_item _ _ _ _ _ (t.shift k) _ front closer]
    -- The item is read from the same scan; the items after it from a shorter one.
    have item_shift : (d.readFormAt depth (kind.expected d) (t.shift k) (Nat.le_refl _)).map
        Step.out =
          shiftOutcome k ((d.readFormAt depth (kind.expected d) t (Nat.le_refl _)).map Step.out) :=
      readFormAt_shift ih len (front ▸ ends) _ _
    cases found : d.readFormAt depth (kind.expected d) t (Nat.le_refl _) with
    | error fault =>
      rw [found] at item_shift
      rw [Step.error_of_shift item_shift]
      rfl
    | ok item =>
      rw [found] at item_shift
      obtain ⟨item', found', same_form, same_next⟩ := Step.exists_of_shift item_shift
      rw [found']
      dsimp only [Except.bind]
      have shorter : item.next.rest.length < n := by
        have := item.shorter
        omega
      rw [same_form, same_next, ← List.map_cons]
      exact ih.items shorter

/-- A form read after atmosphere further on is the one read here, moved. -/
theorem readForm_shift_within {depth : Nat} {expected : List Expectation} {s : Scan}
    (len : s.rest.length ≤ n) :
    (d.readForm depth expected (s.shift k)).map Step.out =
      shiftOutcome k ((d.readForm depth expected s).map Step.out) := by
  rw [readForm_eq, readForm_eq]
  have skipped_len := d.skipAtmosphere_length_le s
  have moved := d.skipAtmosphere_shift k s
  -- The atmosphere ends at the moved place, where the same form starts.
  have at_moved (t : Scan) (same : t = (d.skipAtmosphere s).shift k)
      (skipped' : t.rest.length ≤ (s.shift k).rest.length) :
      (d.readFormAt depth expected t skipped').map Step.out =
        shiftOutcome k ((d.readFormAt depth expected (d.skipAtmosphere s)
          (d.skipAtmosphere_length_le s)).map Step.out) := by
    subst same
    exact readFormAt_shift ih (by omega) (d.skipAtmosphere_ends s) _ _
  exact at_moved _ moved _

/-- Items read after atmosphere further on are the ones read here, moved. -/
theorem readItems_shift_within {depth : Nat} {kind : SeqKind} {start : Nat}
    {items : List (Form Span)} {s : Scan} (len : s.rest.length ≤ n) :
    (d.readItems depth kind (start + k) (items.map (Form.shift k)) (s.shift k)).map Step.out =
      shiftOutcome k ((d.readItems depth kind start items s).map Step.out) := by
  rw [readItems_eq, readItems_eq]
  have skipped_len := d.skipAtmosphere_length_le s
  have moved := d.skipAtmosphere_shift k s
  have at_moved (t : Scan) (same : t = (d.skipAtmosphere s).shift k)
      (skipped' : t.rest.length ≤ (s.shift k).rest.length) :
      (d.readItemsAt depth kind (start + k) (items.map (Form.shift k)) t skipped').map Step.out =
        shiftOutcome k ((d.readItemsAt depth kind start items (d.skipAtmosphere s)
          (d.skipAtmosphere_length_le s)).map Step.out) := by
    subst same
    exact readItemsAt_shift ih (by omega) (d.skipAtmosphere_ends s) _ _
  exact at_moved _ moved _

end Below

/-! ### The whole reader -/

/-- Reading is the same wherever it starts, on every scan, by induction on what is left. -/
theorem shiftsBelow (d : Dialect) : ∀ n, d.ShiftsBelow n
  | 0 => ⟨fun short => absurd short (Nat.not_lt_zero _), fun short => absurd short (Nat.not_lt_zero _)⟩
  | n + 1 =>
    have ih := d.shiftsBelow n
    ⟨fun short => readForm_shift_within ih (Nat.lt_succ_iff.mp short),
      fun short => readItems_shift_within ih (Nat.lt_succ_iff.mp short)⟩

/-- A form read from the front of a scan no atmosphere starts, from any scan moved `k` further on
(with whatever it lies within), is the form read here moved. -/
theorem readFormAt_shift_eq (d : Dialect) {depth : Nat} {expected : List Expectation} {k : Nat}
    {t t' s s' : Scan} (ends : d.AtmosphereEnds t.rest) (moved : t' = t.shift k)
    (skipped : t.rest.length ≤ s.rest.length) (skipped' : t'.rest.length ≤ s'.rest.length) :
    (d.readFormAt depth expected t' skipped').map Step.out =
      shiftOutcome k ((d.readFormAt depth expected t skipped).map Step.out) := by
  subst moved
  exact readFormAt_shift (d.shiftsBelow (t.rest.length + 1)) (Nat.le_succ _) ends skipped skipped'

/-- Reading the forms of a source depends on a scan only through where its atmosphere ends: from a
scan whose atmosphere ends `k` further on, after the forms read before moved, the forms and the
fault are the ones read here, moved. -/
theorem readFrom_shift (d : Dialect) (limit k : Nat) (s s' : Scan) (read : List (Form Span))
    (moved : d.skipAtmosphere s' = (d.skipAtmosphere s).shift k) :
    d.readFrom limit s' (read.map (Form.shift k)) = (d.readFrom limit s read).shift k := by
  -- Induction on what is left: each form read leaves less.
  induction h : s.rest.length using Nat.strongRecOn generalizing s s' read with
  | ind len ih =>
  by_cases empty : (d.skipAtmosphere s).rest = []
  · have empty' : (d.skipAtmosphere s').rest = [] := by rw [moved]; exact empty
    rw [d.readFrom_end limit s' _ empty', d.readFrom_end limit s read empty]
    simp [Reading.shift, List.map_reverse]
  · have some_left' : (d.skipAtmosphere s').rest ≠ [] := by rw [moved]; exact empty
    rw [d.readFrom_form limit s' _ some_left', d.readFrom_form limit s read empty]
    have shifted : (d.readFormAt limit [.expression] (d.skipAtmosphere s')
        (d.skipAtmosphere_length_le s')).map Step.out =
          shiftOutcome k ((d.readFormAt limit [.expression] (d.skipAtmosphere s)
            (d.skipAtmosphere_length_le s)).map Step.out) :=
      d.readFormAt_shift_eq (d.skipAtmosphere_ends s) moved _ _
    cases found : d.readFormAt limit [.expression] (d.skipAtmosphere s)
      (d.skipAtmosphere_length_le s) with
    | error fault =>
      rw [found] at shifted
      rw [Step.error_of_shift shifted]
      simp [Reading.shift, List.map_reverse]
    | ok step =>
      rw [found] at shifted
      obtain ⟨step', found', same_form, same_next⟩ := Step.exists_of_shift shifted
      rw [found']
      dsimp only
      -- The next form is read after the one read here, from scans moved alike.
      rw [same_form, ← List.map_cons]
      exact ih _ (h ▸ step.shorter) step.next step'.next (step.form :: read)
        (by rw [same_next, skipAtmosphere_shift]) rfl

/-- Two scans whose atmosphere ends at one place read alike. -/
theorem readFrom_congr (d : Dialect) (limit : Nat) {s s' : Scan} (read : List (Form Span))
    (same : d.skipAtmosphere s' = d.skipAtmosphere s) :
    d.readFrom limit s' read = d.readFrom limit s read := by
  have unmoved := d.readFrom_shift limit 0 s s' read (by rw [same, Scan.shift_zero])
  have same_read : read.map (Form.shift 0) = read := by
    simp [show (Form.shift 0 : Form Span → Form Span) = id from funext Form.shift_zero]
  rwa [same_read, Reading.shift_zero] at unmoved

end Dialect

end LispReader

import LispReader.Proofs.Reader.Complete

/-! The reader ends, and every step it takes moves it on. Skipping atmosphere never moves the point
back; every form and every sequence read takes at least one code point and keeps the end of the
source where it was; so a source is read as at most as many forms as it has code points. Nesting
is bounded too: each level of lists, vectors and quotes opens at one code point of its own, an
opener or a quote prefix, so a limit of as many levels as the source has such code points is never
reached, and the reading under it is the reading under any larger limit. The nesting reached in
the functions that read a form is thus at most one more than the openers and quote prefixes of the
source. -/

namespace LispReader

/-- Whether a category opens a level of nesting: the opener of a list or a vector, or a quote
prefix. -/
def Category.opensNesting : Category → Bool
  | .listOpen | .vectorOpen | .quotePrefix => true
  | _ => false

/-- Two steps that give the same form and scan are the same step. -/
theorem Step.map_out_injective {ε : Type} {s : Scan} {r r' : Except ε (Step s)}
    (same : r.map Step.out = r'.map Step.out) : r = r' := by
  cases r with
  | error e => cases r' <;> simp_all [Except.map]
  | ok step =>
    cases r' with
    | error => simp [Except.map] at same
    | ok step' =>
      simp only [Except.map, Except.ok.injEq, Step.out, Prod.mk.injEq] at same
      obtain ⟨form, shorter, less⟩ := step
      obtain ⟨form', shorter', less'⟩ := step'
      obtain ⟨rfl, rfl⟩ := same
      rfl

namespace Dialect

/-- The code points of a text that open a level of nesting. -/
def openings (d : Dialect) (t : Text) : Nat :=
  t.countP fun c => (d.categoryOf c).opensNesting

/-- A text that ends another opens no more levels than it. -/
theorem openings_le_of_suffix (d : Dialect) {t u : Text} (suffix : u <:+ t) :
    d.openings u ≤ d.openings t :=
  suffix.sublist.countP_le

/-- A text whose first code point opens a level opens one more than what follows it. -/
theorem openings_cons (d : Dialect) {c : CodePoint} {rest : Text}
    (opens : (d.categoryOf c).opensNesting) : d.openings (c :: rest) = d.openings rest + 1 :=
  List.countP_cons_of_pos opens

/-- What is left after atmosphere ends what was left before it. -/
theorem skipAtmosphere_suffix (d : Dialect) (s : Scan) : (d.skipAtmosphere s).rest <:+ s.rest := by
  obtain ⟨a, e, split, -⟩ := d.skipAtmosphere_skipped s
  exact ⟨a ++ e, split.symm⟩

/-! ### Every step moves on -/

/-- Skipping atmosphere never moves the point back, and keeps the end of the source. -/
theorem skipAtmosphere_progress (d : Dialect) (s : Scan) :
    s.point ≤ (d.skipAtmosphere s).point ∧ (d.skipAtmosphere s).stop = s.stop := by
  have kept := d.skipAtmosphere_stop_eq s
  have shorter := d.skipAtmosphere_length_le s
  refine ⟨?_, kept⟩
  simp only [Scan.stop] at kept
  omega

/-- A form read after atmosphere takes at least one code point, and keeps the end of the
source. -/
theorem readForm_progress (d : Dialect) {depth : Nat} {expected : List Expectation} {s : Scan}
    {step : Step s} (read : d.readForm depth expected s = .ok step) :
    s.point < step.next.point ∧ step.next.stop = s.stop := by
  obtain ⟨⟨a, x, split, moved, -, expr⟩, -⟩ := d.readForm_sound read
  -- The form's text starts with a code point.
  obtain ⟨c, more, rfl, -⟩ := expr.front
  refine ⟨by simp only [moved, List.length_cons]; omega, ?_⟩
  simp only [Scan.stop, split, moved, List.length_append, List.length_cons]
  omega

/-- The items of an open sequence read through its closer take at least the closer, and keep the
end of the source. -/
theorem readItems_progress (d : Dialect) {depth : Nat} {kind : SeqKind} {start : Nat}
    {items : List (Form Span)} {s : Scan} {step : Step s}
    (read : d.readItems depth kind start items s = .ok step) :
    s.point < step.next.point ∧ step.next.stop = s.stop := by
  obtain ⟨inner, c, more, split, moved, -⟩ :=
    readItems_sound_within (d.soundBelow (s.rest.length + 1)) (Nat.le_succ _) read
  refine ⟨by omega, ?_⟩
  simp only [Scan.stop, split, moved, List.length_append, List.length_cons]
  omega

/-- Reading form by form from a scan gives at most one form for each code point left. -/
theorem readFrom_length_le (d : Dialect) (limit : Nat) (s : Scan) (read : List (Form Span)) :
    (d.readFrom limit s read).forms.length ≤ read.length + s.rest.length := by
  -- Induction on what is left: each form read leaves less.
  induction h : s.rest.length using Nat.strongRecOn generalizing s read with
  | ind len ih =>
  by_cases empty : (d.skipAtmosphere s).rest = []
  · rw [d.readFrom_end limit s read empty, List.length_reverse]
    omega
  rw [d.readFrom_form limit s read empty]
  cases found : d.readFormAt limit [.expression] (d.skipAtmosphere s)
    (d.skipAtmosphere_length_le s) with
  | error fault =>
    dsimp only
    rw [List.length_reverse]
    omega
  | ok step =>
    dsimp only
    have shorter : step.next.rest.length < len := h ▸ step.shorter
    have further := ih _ shorter step.next (step.form :: read) rfl
    rw [List.length_cons] at further
    omega

/-! ### Nesting within the openings -/

/-- Two readings of one scan under two nesting limits that are the same and stop at no limit. -/
def Settled {s : Scan} (r r' : Except Fault (Step s)) : Prop :=
  r = r' ∧ r ≠ .error .tooDeep

/-- Readings that give what two settled readings give, through one function of their steps, are
settled. -/
theorem Settled.transfer {s t : Scan} {r r' : Except Fault (Step s)} {q q' : Except Fault (Step t)}
    {g : Step t → Form Span × Scan} (mapped : r.map Step.out = q.map g)
    (mapped' : r'.map Step.out = q'.map g) (settled : Settled q q') : Settled r r' := by
  obtain ⟨same, free⟩ := settled
  subst same
  refine ⟨Step.map_out_injective (mapped.trans mapped'.symm), fun deep => free ?_⟩
  rw [deep] at mapped
  cases q with
  | error fault =>
    simp only [Except.map, Except.error.injEq] at mapped
    rw [← mapped]
  | ok step => cases mapped

/-- Readings that give one and the same outcome, which is not the limit reached, are settled. -/
theorem Settled.of_out {s : Scan} {r r' : Except Fault (Step s)} {v : Except Fault (Form Span × Scan)}
    (mapped : r.map Step.out = v) (mapped' : r'.map Step.out = v) (free : v ≠ .error .tooDeep) :
    Settled r r' := by
  refine ⟨Step.map_out_injective (mapped.trans mapped'.symm), fun deep => free ?_⟩
  rw [← mapped, deep]
  rfl

/-- Readings that stop at one syntax error, whatever the limit, are settled. -/
theorem Settled.of_invalid {s : Scan} {r r' : Except Fault (Step s)} {e : SyntaxError}
    (stops : r = .error (.invalid e)) (stops' : r' = .error (.invalid e)) : Settled r r' :=
  .of_out (by rw [stops]) (by rw [stops']) fun same => by cases same

/-- Readings that give one leaf read from the front, or its syntax error, are settled. -/
theorem Settled.of_leaf {s t : Scan} {r r' : Except Fault (Step s)}
    {leaf : Except SyntaxError (Step t)}
    (mapped : r.map Step.out = (leaf.map Step.out).mapError Fault.invalid)
    (mapped' : r'.map Step.out = (leaf.map Step.out).mapError Fault.invalid) : Settled r r' :=
  .of_out mapped mapped' (by cases leaf <;> exact fun same => by cases same)

/-- Under limits no smaller than the openings of what is left, reading forms and items is settled
at every scan with fewer than `n` code points left: the hypothesis the induction carries. -/
structure SettledBelow (d : Dialect) (n : Nat) : Prop where
  /-- A form read after atmosphere. -/
  form {depth depth' : Nat} {expected : List Expectation} {s : Scan} : s.rest.length < n →
    d.openings s.rest ≤ depth → d.openings s.rest ≤ depth' →
      Settled (d.readForm depth expected s) (d.readForm depth' expected s)
  /-- Items read after atmosphere. -/
  items {depth depth' : Nat} {kind : SeqKind} {start : Nat} {items : List (Form Span)}
    {s : Scan} : s.rest.length < n → d.openings s.rest ≤ depth → d.openings s.rest ≤ depth' →
      Settled (d.readItems depth kind start items s) (d.readItems depth' kind start items s)

section Below

variable {d : Dialect} {n : Nat} (ih : d.SettledBelow n)
include ih

/-- A sequence is settled: its opener is one of the openings, so its items are read under limits
one smaller, no smaller than the openings after it. -/
theorem readSeq_settled {depth depth' : Nat} {kind : SeqKind} {t s : Scan} {o : CodePoint}
    {rest : Text} {some_left : t.rest ≠ []} {skipped : t.rest.length ≤ s.rest.length}
    (len : t.rest.length ≤ n) (front : t.rest = o :: rest)
    (opens : (d.categoryOf o).opensNesting) (enough : d.openings t.rest ≤ depth)
    (enough' : d.openings t.rest ≤ depth') :
    Settled (d.readSeq depth kind t some_left skipped) (d.readSeq depth' kind t some_left skipped) := by
  rw [front, d.openings_cons opens] at enough enough'
  obtain ⟨k, rfl⟩ : ∃ k, depth = k + 1 := ⟨depth - 1, by omega⟩
  obtain ⟨k', rfl⟩ : ∃ k', depth' = k' + 1 := ⟨depth' - 1, by omega⟩
  have moved := t.advance_one front
  have shorter : (t.advance 1).rest.length < n := by simp [moved, front] at len ⊢; omega
  exact Settled.transfer (d.readSeq_items k kind t some_left skipped)
    (d.readSeq_items k' kind t some_left skipped)
    (ih.items shorter (by rw [moved]; dsimp only; omega) (by rw [moved]; dsimp only; omega))

/-- A quote is settled: its prefix is one of the openings, so its form is read under limits one
smaller, no smaller than the openings after the prefix and its atmosphere. -/
theorem readQuoted_settled {depth depth' : Nat} {t s : Scan} {c : CodePoint} {rest : Text}
    {front : t.rest = c :: rest} {skipped : t.rest.length ≤ s.rest.length}
    (len : t.rest.length ≤ n) (quotes : d.categoryOf c = .quotePrefix)
    (enough : d.openings t.rest ≤ depth) (enough' : d.openings t.rest ≤ depth') :
    Settled (d.readQuoted depth t c rest front skipped)
      (d.readQuoted depth' t c rest front skipped) := by
  cases operand : d.endsOrCloses (d.afterQuotePrefix t c rest).rest with
  | true =>
    exact .of_invalid (d.readQuoted_dangling depth t c rest front skipped operand)
      (d.readQuoted_dangling depth' t c rest front skipped operand)
  | false =>
  rw [front, d.openings_cons (by simp [quotes, Category.opensNesting])] at enough enough'
  obtain ⟨k, rfl⟩ : ∃ k, depth = k + 1 := ⟨depth - 1, by omega⟩
  obtain ⟨k', rfl⟩ : ∃ k', depth' = k' + 1 := ⟨depth' - 1, by omega⟩
  -- What follows the prefix and its atmosphere ends the text after the quote prefix's first code
  -- point.
  have suffix : (d.afterQuotePrefix t c rest).rest <:+ rest := by
    have dropped : (t.advance (d.quotePrefixAt c rest).2).rest <:+ rest := by
      have wide := d.quotePrefixAt_width_pos c rest
      simp only [Scan.advance, front]
      rw [show (d.quotePrefixAt c rest).2 = (d.quotePrefixAt c rest).2 - 1 + 1 by omega,
        List.drop_succ_cons]
      exact List.drop_suffix _ _
    exact (d.skipAtmosphere_suffix _).trans dropped
  have fewer := d.openings_le_of_suffix suffix
  have shorter : (d.afterQuotePrefix t c rest).rest.length < n := by
    have := d.afterQuotePrefix_shorter t c rest front
    omega
  exact Settled.transfer (d.readQuoted_operand k t c rest front skipped operand)
    (d.readQuoted_operand k' t c rest front skipped operand)
    (ih.form shorter (by omega) (by omega))

/-- A form read from the front of a scan no atmosphere starts is settled. -/
theorem readFormAt_settled {depth depth' : Nat} {expected : List Expectation} {t s : Scan}
    {skipped : t.rest.length ≤ s.rest.length} (len : t.rest.length ≤ n)
    (ends : d.AtmosphereEnds t.rest) (enough : d.openings t.rest ≤ depth)
    (enough' : d.openings t.rest ≤ depth') :
    Settled (d.readFormAt depth expected t skipped) (d.readFormAt depth' expected t skipped) := by
  cases front : t.rest with
  | nil =>
    exact .of_invalid (d.readFormAt_nil depth expected t skipped front)
      (d.readFormAt_nil depth' expected t skipped front)
  | cons c rest =>
  rw [front] at ends
  -- The category of the code point in front picks the same branch under both limits.
  cases category : d.categoryOf c with
  | listOpen =>
    rw [d.readFormAt_listOpen depth expected t skipped front category,
      d.readFormAt_listOpen depth' expected t skipped front category]
    exact readSeq_settled ih len front (by simp [category, Category.opensNesting]) enough enough'
  | vectorOpen =>
    rw [d.readFormAt_vectorOpen depth expected t skipped front category,
      d.readFormAt_vectorOpen depth' expected t skipped front category]
    exact readSeq_settled ih len front (by simp [category, Category.opensNesting]) enough enough'
  | listClose | vectorClose =>
    exact .of_invalid
      (d.readFormAt_closer depth expected t skipped front (by simp [category, Category.isCloser]))
      (d.readFormAt_closer depth' expected t skipped front (by simp [category, Category.isCloser]))
  | quotePrefix =>
    rw [d.readFormAt_quotePrefix depth expected t skipped front category,
      d.readFormAt_quotePrefix depth' expected t skipped front category]
    exact readQuoted_settled ih len category enough enough'
  | stringDelimiter =>
    exact .of_leaf (d.readFormAt_string depth expected t skipped front category)
      (d.readFormAt_string depth' expected t skipped front category)
  | constituent =>
    exact .of_leaf (d.readFormAt_atom depth expected t skipped front category)
      (d.readFormAt_atom depth' expected t skipped front category)
  | blank => exact absurd category ends.1
  | commentStart => exact absurd category ends.2

/-- Items read from the front of a scan no atmosphere starts are settled. -/
theorem readItemsAt_settled {depth depth' : Nat} {kind : SeqKind} {start : Nat}
    {items : List (Form Span)} {t s : Scan} {skipped : t.rest.length ≤ s.rest.length}
    (len : t.rest.length ≤ n) (ends : d.AtmosphereEnds t.rest) (enough : d.openings t.rest ≤ depth)
    (enough' : d.openings t.rest ≤ depth') :
    Settled (d.readItemsAt depth kind start items t skipped)
      (d.readItemsAt depth' kind start items t skipped) := by
  cases front : t.rest with
  | nil =>
    exact .of_invalid (d.readItemsAt_nil depth kind start items t skipped front)
      (d.readItemsAt_nil depth' kind start items t skipped front)
  | cons c rest =>
  by_cases closes : d.categoryOf c = kind.closer
  · -- The closer ends the sequence whatever the limit.
    exact .of_out (d.readItemsAt_close depth kind start items t skipped front closes)
      (d.readItemsAt_close depth' kind start items t skipped front closes) fun same => by cases same
  cases closer : (d.categoryOf c).isCloser with
  | true =>
    exact .of_invalid
      (d.readItemsAt_mismatched depth kind start items t skipped front closes (by simp [closer]))
      (d.readItemsAt_mismatched depth' kind start items t skipped front closes (by simp [closer]))
  | false =>
    -- The item is read from the same scan under both limits, the same item; the items after it
    -- from a shorter scan that opens no more levels.
    have ends' : d.AtmosphereEnds t.rest := front ▸ ends
    have mapped := d.readItemsAt_item depth kind start items t skipped front closer
    have mapped' := d.readItemsAt_item depth' kind start items t skipped front closer
    have item_settled : Settled (d.readFormAt depth (kind.expected d) t (Nat.le_refl _))
        (d.readFormAt depth' (kind.expected d) t (Nat.le_refl _)) :=
      readFormAt_settled ih len ends' enough enough'
    obtain ⟨same, free⟩ := item_settled
    rw [← same] at mapped'
    cases found : d.readFormAt depth (kind.expected d) t (Nat.le_refl _) with
    | error fault =>
      rw [found] at mapped mapped' free
      dsimp only [Except.bind] at mapped mapped'
      exact .of_out mapped mapped' fun deep => free (by cases deep; rfl)
    | ok item =>
      rw [found] at mapped mapped'
      obtain ⟨x, split, -⟩ :=
        (readFormAt_sound (d.soundBelow t.rest.length) (Nat.le_refl _) ends' found).1
      have fewer := d.openings_le_of_suffix ⟨x, split.symm⟩
      have shorter : item.next.rest.length < n := by
        have := item.shorter
        omega
      exact Settled.transfer mapped mapped' (ih.items shorter (by omega) (by omega))

/-- A form read after atmosphere is settled. -/
theorem readForm_settled_within {depth depth' : Nat} {expected : List Expectation} {s : Scan}
    (len : s.rest.length ≤ n) (enough : d.openings s.rest ≤ depth)
    (enough' : d.openings s.rest ≤ depth') :
    Settled (d.readForm depth expected s) (d.readForm depth' expected s) := by
  rw [readForm_eq, readForm_eq]
  have fewer := d.openings_le_of_suffix (d.skipAtmosphere_suffix s)
  have skipped := d.skipAtmosphere_length_le s
  exact readFormAt_settled ih (by omega) (d.skipAtmosphere_ends s) (by omega) (by omega)

/-- Items read after atmosphere are settled. -/
theorem readItems_settled_within {depth depth' : Nat} {kind : SeqKind} {start : Nat}
    {items : List (Form Span)} {s : Scan} (len : s.rest.length ≤ n)
    (enough : d.openings s.rest ≤ depth) (enough' : d.openings s.rest ≤ depth') :
    Settled (d.readItems depth kind start items s) (d.readItems depth' kind start items s) := by
  rw [readItems_eq, readItems_eq]
  have fewer := d.openings_le_of_suffix (d.skipAtmosphere_suffix s)
  have skipped := d.skipAtmosphere_length_le s
  exact readItemsAt_settled ih (by omega) (d.skipAtmosphere_ends s) (by omega) (by omega)

end Below

/-! ### The whole reader -/

/-- Reading is settled on every scan under limits no smaller than its openings, by induction on
what is left of it. -/
theorem settledBelow (d : Dialect) : ∀ n, d.SettledBelow n
  | 0 => ⟨fun short => absurd short (Nat.not_lt_zero _), fun short => absurd short (Nat.not_lt_zero _)⟩
  | n + 1 =>
    have ih := d.settledBelow n
    ⟨fun short => readForm_settled_within ih (Nat.lt_succ_iff.mp short),
      fun short => readItems_settled_within ih (Nat.lt_succ_iff.mp short)⟩

/-- Reading form by form under limits no smaller than the openings of what is left gives the same
forms and the same end under both, and never stops at the limit. -/
theorem readFrom_settled (d : Dialect) {limit limit' : Nat} (s : Scan) (read : List (Form Span))
    (enough : d.openings s.rest ≤ limit) (enough' : d.openings s.rest ≤ limit') :
    d.readFrom limit s read = d.readFrom limit' s read ∧
      (d.readFrom limit s read).fault ≠ some .tooDeep := by
  -- Induction on what is left: each form read leaves less, and opens no more levels.
  induction h : s.rest.length using Nat.strongRecOn generalizing s read with
  | ind len ih =>
  by_cases empty : (d.skipAtmosphere s).rest = []
  · rw [d.readFrom_end limit s read empty, d.readFrom_end limit' s read empty]
    exact ⟨rfl, nofun⟩
  rw [d.readFrom_form limit s read empty, d.readFrom_form limit' s read empty]
  have fewer := d.openings_le_of_suffix (d.skipAtmosphere_suffix s)
  obtain ⟨same, free⟩ := readFormAt_settled (d.settledBelow (s.rest.length + 1))
    (Nat.le_succ_of_le (d.skipAtmosphere_length_le s)) (d.skipAtmosphere_ends s)
    (Nat.le_trans fewer enough) (Nat.le_trans fewer enough')
  rw [← same]
  cases found : d.readFormAt limit [.expression] (d.skipAtmosphere s)
    (d.skipAtmosphere_length_le s) with
  | error fault =>
    rw [found] at free
    exact ⟨rfl, fun deep => free (by cases deep; rfl)⟩
  | ok step =>
    dsimp only
    -- The form read ends what was left, so what is left after it opens no more levels.
    obtain ⟨⟨a, x, split, -⟩, -⟩ :=
      d.readForm_sound (show d.readForm limit [.expression] s = .ok step by rw [readForm_eq, found])
    have after := d.openings_le_of_suffix (t := s.rest) ⟨a ++ x, split.symm⟩
    exact ih _ (h ▸ step.shorter) step.next (step.form :: read) (Nat.le_trans after enough)
      (Nat.le_trans after enough') rfl

/-- The reader ends and moves on at every step. Skipping atmosphere never moves the point back;
every form read after atmosphere, and the items of every sequence read through its closer, take at
least one code point and keep the end of the source; a source is read as at most as many forms as
it has code points, under any nesting limit. A limit of as many levels as the source has openers
and quote prefixes is never reached, and any larger limit reads the source the same way: the
reading stops at its end or at a syntax error, with the nesting of the functions that read a form
never more than one level past that count. -/
theorem reading_ends_and_progresses (d : Dialect) :
    (∀ s : Scan, s.point ≤ (d.skipAtmosphere s).point ∧ (d.skipAtmosphere s).stop = s.stop) ∧
    (∀ depth expected (s : Scan) (step : Step s), d.readForm depth expected s = .ok step →
      s.point < step.next.point ∧ step.next.stop = s.stop) ∧
    (∀ depth kind start items (s : Scan) (step : Step s),
      d.readItems depth kind start items s = .ok step →
        s.point < step.next.point ∧ step.next.stop = s.stop) ∧
    ∀ source : Text,
      (∀ limit, (d.readWithin limit source).forms.length ≤ source.length) ∧
      (d.readWithin (d.openings source) source).fault ≠ some .tooDeep ∧
      ∀ extra, d.readWithin (d.openings source + extra) source =
        d.readWithin (d.openings source) source := by
  refine ⟨d.skipAtmosphere_progress, fun _ _ _ _ read => d.readForm_progress read,
    fun _ _ _ _ _ _ read => d.readItems_progress read, fun source => ⟨fun limit => ?_, ?_, ?_⟩⟩
  · simpa [readWithin] using d.readFrom_length_le limit ⟨0, source⟩ []
  · exact (d.readFrom_settled ⟨0, source⟩ [] (Nat.le_refl _) (Nat.le_refl _)).2
  · intro extra
    exact (d.readFrom_settled ⟨0, source⟩ [] (Nat.le_add_right _ extra) (Nat.le_refl _)).1

end Dialect

end LispReader

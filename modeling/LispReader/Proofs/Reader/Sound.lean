import Mathlib
import LispReader.Proofs.Reader.Atoms

/-! Soundness of the reader: every form it reads is one the grammar derives from the text it took,
within the nesting it allowed, and a source it reads to the end without a fault is a program of
the grammar. Every call the reading functions make is on a scan with no more left, and a call on
the same scan goes down the order readForm, readItemsAt, readFormAt, readSeq and readQuoted; so one
induction on what is left carries all of them, with each function's lemma taking the soundness of
the shorter scans as its hypothesis. -/

namespace LispReader

/-- A sequence is one level deeper than its deepest item. -/
@[simp] theorem SeqKind.depth_build (kind : SeqKind) (items : List (Form Span)) (span : Span) :
    (kind.build items span).depth = Form.depthAll items + 1 := by
  cases kind <;> rfl

/-- A result that maps to a value was one to begin with. -/
theorem ok_of_map_eq_ok {ε α β : Type} {e : Except ε α} {g : α → β} {v : β}
    (mapped : e.map g = .ok v) : ∃ a, e = .ok a ∧ g a = v := by
  cases e with
  | error => cases mapped
  | ok a =>
    cases mapped
    exact ⟨a, rfl, rfl⟩

/-- A step that gives a form and a scan was read as them. -/
theorem Step.exists_of_map_out {ε : Type} {s : Scan} {e : Except ε (Step s)} {f : Form Span}
    {next : Scan} (mapped : e.map Step.out = .ok (f, next)) :
    ∃ step, e = .ok step ∧ step.form = f ∧ step.next = next := by
  cases e with
  | error => cases mapped
  | ok step =>
    cases mapped
    exact ⟨step, rfl, rfl, rfl⟩

namespace Dialect

/-- Items after atmosphere are items. -/
theorem Items.atmosphere_prepend {d : Dialect} {p : Nat} {a inner u : Text}
    {more : List (Form Span)} (blanks : d.Atmosphere a) (items : d.Items (p + a.length) inner u more) :
    d.Items p (a ++ inner) u more := by
  -- The atmosphere joins the items' own leading atmosphere.
  cases items with
  | nil blanks' => exact .nil (blanks.append blanks')
  | cons blanks' expr rest =>
    rename_i a' x rest' f fs
    have joined := Items.cons (p := p) (blanks.append blanks')
      (by rwa [List.length_append, ← Nat.add_assoc]) (by rwa [List.length_append, ← Nat.add_assoc])
    simpa using joined

/-! ### What the reading functions give -/

/-- A read passed over atmosphere and then read the form `f`, leaving `next`. -/
def ReadsAfter (d : Dialect) (s : Scan) (f : Form Span) (next : Scan) : Prop :=
  ∃ a x, s.rest = a ++ x ++ next.rest ∧ next.point = s.point + a.length + x.length ∧
    d.Atmosphere a ∧ d.Expr (s.point + a.length) x next.rest f

/-- A read of the items of an open sequence through its closer, leaving `next`: the items by the
grammar, each within `depth` levels of nesting, and the sequence they close with the `items`
read before, the last first. -/
def ClosesSeq (d : Dialect) (depth : Nat) (kind : SeqKind) (start : Nat)
    (items : List (Form Span)) (s : Scan) (f : Form Span) (next : Scan) : Prop :=
  ∃ inner c more, s.rest = inner ++ c :: next.rest ∧ next.point = s.point + inner.length + 1 ∧
    d.Items s.point inner (c :: next.rest) more ∧ d.categoryOf c = kind.closer ∧
    (∀ g ∈ more, g.depth ≤ depth) ∧
    f = kind.build (items.reverse ++ more) ⟨start, s.point + inner.length + 1⟩

/-- A form read with no atmosphere in front. -/
theorem Reads.after {d : Dialect} {s : Scan} {f : Form Span} {next : Scan}
    (reads : d.Reads s f next) : d.ReadsAfter s f next := by
  obtain ⟨x, split, moved, expr⟩ := reads
  exact ⟨[], x, by simpa using split, by simpa using moved, .nil, by simpa using expr⟩

/-- The atmosphere a skip passed over goes in front of what was read after it. -/
theorem ReadsAfter.skipped {d : Dialect} {s : Scan} {f : Form Span} {next : Scan}
    (some_left : (d.skipAtmosphere s).rest ≠ []) (reads : d.ReadsAfter (d.skipAtmosphere s) f next) :
    d.ReadsAfter s f next := by
  obtain ⟨a, split, blanks, moved⟩ := d.skipAtmosphere_front s some_left
  obtain ⟨a', x, split', moved', blanks', expr⟩ := reads
  refine ⟨a ++ a', x, by simp [split, split'], by simp [moved', moved]; omega, blanks.append blanks',
    ?_⟩
  rw [List.length_append, ← Nat.add_assoc]
  rwa [moved] at expr

/-- The atmosphere a skip passed over goes in front of the items read after it. -/
theorem ClosesSeq.skipped {d : Dialect} {depth : Nat} {kind : SeqKind} {start : Nat}
    {items : List (Form Span)} {s : Scan} {f : Form Span} {next : Scan}
    (some_left : (d.skipAtmosphere s).rest ≠ [])
    (closes : d.ClosesSeq depth kind start items (d.skipAtmosphere s) f next) :
    d.ClosesSeq depth kind start items s f next := by
  obtain ⟨a, split, blanks, moved⟩ := d.skipAtmosphere_front s some_left
  obtain ⟨inner, c, more, split', moved', inside, closer, bounded, built⟩ := closes
  rw [moved] at moved' inside built
  refine ⟨a ++ inner, c, more, by simp [split, split'], by simp [moved']; omega,
    inside.atmosphere_prepend blanks, closer, bounded, ?_⟩
  rw [built, List.length_append, ← Nat.add_assoc]

/-- An item read before the rest of the items is the first of them. -/
theorem ClosesSeq.cons {d : Dialect} {depth : Nat} {kind : SeqKind} {start : Nat}
    {items : List (Form Span)} {t mid : Scan} {f g : Form Span} {next : Scan}
    (reads : d.Reads t f mid) (bounded : f.depth ≤ depth)
    (closes : d.ClosesSeq depth kind start (f :: items) mid g next) :
    d.ClosesSeq depth kind start items t g next := by
  obtain ⟨x, split, moved, expr⟩ := reads
  obtain ⟨inner, c, more, split', moved', inside, closer, bounded', built⟩ := closes
  rw [moved] at moved' inside built
  refine ⟨x ++ inner, c, f :: more, by simp [split, split'], by simp [moved']; omega, ?_, closer,
    ?_, ?_⟩
  · -- No atmosphere stands before the item: the skip before it already passed over it.
    have := Items.cons (p := t.point) .nil (by rw [List.length_nil, Nat.add_zero, ← split']; exact expr)
      (by simpa using inside)
    simpa using this
  · intro h member
    rcases List.mem_cons.mp member with rfl | later
    · exact bounded
    · exact bounded' h later
  · rw [built]
    simp only [List.reverse_cons, List.append_assoc, List.singleton_append, List.length_append]
    congr 2
    omega

/-- A leaf the reader reads gives an atom, whatever the nesting allowed. -/
theorem Reads.of_leaf {d : Dialect} {depth : Nat} {s t : Scan} {step : Step s}
    {e : Except SyntaxError (Step t)}
    (mapped : (Except.ok step : Except Fault (Step s)).map Step.out =
      (e.map Step.out).mapError Fault.invalid)
    (sound : ∀ {leaf : Step t}, e = .ok leaf → d.Reads t leaf.form leaf.next ∧ leaf.form.depth = 0) :
    d.Reads t step.form step.next ∧ step.form.depth ≤ depth := by
  cases e with
  | error => cases mapped
  | ok leaf =>
    simp only [Except.map, Except.mapError, Except.ok.injEq, Step.out, Prod.mk.injEq] at mapped
    obtain ⟨reads, atom⟩ := sound rfl
    rw [mapped.1, mapped.2]
    exact ⟨reads, by omega⟩

/-- The prefix in front of a quoted form is the unquote and the splice mark together, or one code
point. -/
theorem quotePrefixAt_cases (d : Dialect) (c : CodePoint) (rest : Text) :
    (∃ n more, rest = n :: more ∧ d.unquote = some [c] ∧ d.splice = some [n] ∧
      d.quotePrefixAt c rest = (.unquoteSplicing, 2)) ∨
    (¬ d.SplicesAt c rest ∧ d.quotePrefixAt c rest = (d.quoteKind c, 1)) := by
  cases rest with
  | nil => exact .inr ⟨by simp [SplicesAt], rfl⟩
  | cons n more =>
    by_cases splices : d.unquote = some [c] ∧ d.splice = some [n]
    · exact .inl ⟨n, more, rfl, splices.1, splices.2, by simp [quotePrefixAt, splices]⟩
    · exact .inr ⟨splices, by simp only [quotePrefixAt]; rw [if_neg splices]⟩

/-- The depth of a quoted form is one more than the form's. -/
theorem depth_quoted (head : Form Span) (head_atom : head.depth = 0) (f : Form Span)
    (span : Span) : (Form.list [head, f] span).depth = f.depth + 1 := by
  simp [Form.depth, Form.depthAll, head_atom]

/-! ### Each function, given soundness on shorter scans -/

/-- Soundness of the reads that start with atmosphere, at every scan with fewer than `n` code
points left: the hypothesis the induction carries. -/
structure SoundBelow (d : Dialect) (n : Nat) : Prop where
  /-- A form read after atmosphere is one by the grammar. -/
  form {depth : Nat} {expected : List Expectation} {s : Scan} {step : Step s} :
    s.rest.length < n → d.readForm depth expected s = .ok step →
      d.ReadsAfter s step.form step.next ∧ step.form.depth ≤ depth
  /-- Items read after atmosphere through the closer are items by the grammar. -/
  items {depth : Nat} {kind : SeqKind} {start : Nat} {items : List (Form Span)} {s : Scan}
    {step : Step s} : s.rest.length < n → d.readItems depth kind start items s = .ok step →
      d.ClosesSeq depth kind start items s step.form step.next

section Below

variable {d : Dialect} {n : Nat} (ih : d.SoundBelow n)
include ih

/-- A sequence is read by the grammar, its items one level deeper. -/
theorem readSeq_sound {depth : Nat} {kind : SeqKind} {t : Scan} {some_left : t.rest ≠ []}
    {s : Scan} {skipped : t.rest.length ≤ s.rest.length} {o : CodePoint} {rest : Text}
    (len : t.rest.length ≤ n) (front : t.rest = o :: rest)
    (opens : d.categoryOf o = kind.opener) {step : Step s}
    (read : d.readSeq depth kind t some_left skipped = .ok step) :
    d.Reads t step.form step.next ∧ step.form.depth ≤ depth := by
  cases depth with
  | zero => rw [readSeq_tooDeep] at read; cases read
  | succ depth =>
    -- The items are read after the opener, from a shorter scan.
    have mapped : (d.readItems depth kind t.point [] (t.advance 1)).map Step.out =
        .ok (step.form, step.next) := by
      rw [← d.readSeq_items depth kind t some_left skipped, read]
      rfl
    obtain ⟨items, found, same_form, same_next⟩ := Step.exists_of_map_out mapped
    have moved := t.advance_one front
    have shorter : (t.advance 1).rest.length < n := by simp [front] at len ⊢; omega
    obtain ⟨inner, c, more, split, moved', inside, closer, bounded, built⟩ := ih.items shorter found
    rw [same_next] at split moved' inside
    rw [same_form] at built
    rw [moved] at split moved' inside built
    dsimp only at split moved' inside
    simp only [List.reverse_nil, List.nil_append] at built
    rw [built]
    refine ⟨⟨o :: inner ++ [c], by simp [front, split], by simp [moved']; omega, ?_⟩, ?_⟩
    · have span : t.point + 1 + inner.length + 1 = t.point + inner.length + 1 + 1 := by omega
      rw [span]
      exact .seq opens inside closer
    · simpa using Form.depthAll_le bounded

/-- A quote prefix, atmosphere and a form are read by the grammar, the form one level deeper. -/
theorem readQuoted_sound {depth : Nat} {t : Scan} {c : CodePoint} {rest : Text}
    {front : t.rest = c :: rest} {s : Scan} {skipped : t.rest.length ≤ s.rest.length}
    (len : t.rest.length ≤ n) (quotes : d.categoryOf c = .quotePrefix) {step : Step s}
    (read : d.readQuoted depth t c rest front skipped = .ok step) :
    d.Reads t step.form step.next ∧ step.form.depth ≤ depth := by
  cases operand : d.endsOrCloses (d.afterQuotePrefix t c rest).rest with
  | true => rw [d.readQuoted_dangling depth t c rest front skipped operand] at read; cases read
  | false =>
  cases depth with
  | zero => rw [d.readQuoted_tooDeep t c rest front skipped operand] at read; cases read
  | succ depth =>
  -- The quoted form is read after the prefix and its atmosphere, from a shorter scan.
  have mapped := d.readQuoted_operand depth t c rest front skipped operand
  rw [read] at mapped
  obtain ⟨quoted, found, same⟩ := ok_of_map_eq_ok mapped.symm
  simp only [Step.out, Prod.mk.injEq] at same
  obtain ⟨same_form, same_next⟩ := same
  have some_left : (d.afterQuotePrefix t c rest).rest ≠ [] := by
    intro empty
    simp [empty, endsOrCloses] at operand
  have shorter : (d.afterQuotePrefix t c rest).rest.length < n := by
    have := d.afterQuotePrefix_shorter t c rest front
    omega
  obtain ⟨reads, bounded⟩ := ih.form shorter found
  obtain ⟨a, x, split, moved, blanks, expr⟩ := reads.skipped some_left
  rw [same_next] at split moved expr
  rw [← same_form, same_next, depth_quoted _ (by simp [Form.symbol, Form.depth]) quoted.form _]
  refine ⟨?_, by omega⟩
  rcases d.quotePrefixAt_cases c rest with ⟨m, more, rfl, unquotes, marks, splice⟩ | ⟨plain, single⟩
  · -- The unquote prefix and the splice mark, two code points wide.
    rw [splice] at split moved expr ⊢
    dsimp only at split moved expr ⊢
    have two : t.advance 2 = ⟨t.point + 2, more⟩ :=
      t.advance_append (show t.rest = [c, m] ++ more by simp [front])
    rw [two] at split moved expr
    dsimp only at split moved expr
    refine ⟨c :: m :: a ++ x, by simp [front, split], by simp [moved]; omega, ?_⟩
    rw [moved]
    exact .splice quotes unquotes marks blanks expr
  · -- A prefix of one code point.
    rw [single] at split moved expr ⊢
    dsimp only at split moved expr ⊢
    rw [t.advance_one front] at split moved expr
    dsimp only at split moved expr
    refine ⟨c :: a ++ x, by simp [front, split], by simp [moved]; omega, ?_⟩
    rw [moved]
    exact .quote quotes (by rwa [← split]) blanks expr

/-- A form read from the front of a scan no atmosphere starts is one by the grammar. -/
theorem readFormAt_sound {depth : Nat} {expected : List Expectation} {t s : Scan}
    {skipped : t.rest.length ≤ s.rest.length} (len : t.rest.length ≤ n)
    (ends : d.AtmosphereEnds t.rest) {step : Step s}
    (read : d.readFormAt depth expected t skipped = .ok step) :
    d.Reads t step.form step.next ∧ step.form.depth ≤ depth := by
  cases front : t.rest with
  | nil => rw [d.readFormAt_nil depth expected t skipped front] at read; cases read
  | cons c rest =>
  rw [front] at ends
  -- The category of the code point in front picks the production.
  cases category : d.categoryOf c with
  | listOpen =>
    rw [d.readFormAt_listOpen depth expected t skipped front category] at read
    exact readSeq_sound ih len front (show d.categoryOf c = SeqKind.list.opener from category) read
  | vectorOpen =>
    rw [d.readFormAt_vectorOpen depth expected t skipped front category] at read
    exact readSeq_sound ih len front (show d.categoryOf c = SeqKind.vector.opener from category)
      read
  | listClose | vectorClose =>
    rw [d.readFormAt_closer depth expected t skipped front (by simp [category, Category.isCloser])]
      at read
    cases read
  | quotePrefix =>
    rw [d.readFormAt_quotePrefix depth expected t skipped front category] at read
    exact readQuoted_sound ih len category read
  | stringDelimiter =>
    have mapped := d.readFormAt_string depth expected t skipped front category
    rw [read] at mapped
    exact Reads.of_leaf mapped (d.readString_sound front category)
  | constituent =>
    have mapped := d.readFormAt_atom depth expected t skipped front category
    rw [read] at mapped
    exact Reads.of_leaf mapped (d.readAtom_sound front category)
  | blank => exact absurd category ends.1
  | commentStart => exact absurd category ends.2

/-- Items read from the front of a scan no atmosphere starts are items by the grammar. -/
theorem readItemsAt_sound {depth : Nat} {kind : SeqKind} {start : Nat} {items : List (Form Span)}
    {t s : Scan} {skipped : t.rest.length ≤ s.rest.length} (len : t.rest.length ≤ n)
    (ends : d.AtmosphereEnds t.rest) {step : Step s}
    (read : d.readItemsAt depth kind start items t skipped = .ok step) :
    d.ClosesSeq depth kind start items t step.form step.next := by
  cases front : t.rest with
  | nil => rw [d.readItemsAt_nil depth kind start items t skipped front] at read; cases read
  | cons c rest =>
  by_cases closes : d.categoryOf c = kind.closer
  · -- The sequence's own closer ends it.
    have mapped := d.readItemsAt_close depth kind start items t skipped front closes
    rw [read] at mapped
    simp only [Except.map, Step.out, Except.ok.injEq, Prod.mk.injEq] at mapped
    rw [mapped.1, mapped.2, t.advance_one front]
    exact ⟨[], c, [], by simp [front], by simp, .nil .nil, closes, by simp, by simp⟩
  cases closer : (d.categoryOf c).isCloser with
  | true =>
    rw [d.readItemsAt_mismatched depth kind start items t skipped front closes (by simp [closer])]
      at read
    cases read
  | false =>
    -- Anything else is the next item, and the items go on after it from a shorter scan.
    have mapped := d.readItemsAt_item depth kind start items t skipped front closer
    rw [read] at mapped
    cases found : d.readFormAt depth (kind.expected d) t (Nat.le_refl _) with
    | error => rw [found] at mapped; cases mapped
    | ok item =>
    rw [found] at mapped
    obtain ⟨after, found', same_form, same_next⟩ := Step.exists_of_map_out mapped.symm
    obtain ⟨reads, bounded⟩ := readFormAt_sound ih len (front ▸ ends) found
    have shorter : item.next.rest.length < n := by
      have := item.shorter
      omega
    have closes' := ih.items shorter found'
    rw [same_form, same_next] at closes'
    exact closes'.cons reads bounded

/-- A form read after atmosphere is one by the grammar. -/
theorem readForm_sound_within {depth : Nat} {expected : List Expectation} {s : Scan}
    (len : s.rest.length ≤ n) {step : Step s} (read : d.readForm depth expected s = .ok step) :
    d.ReadsAfter s step.form step.next ∧ step.form.depth ≤ depth := by
  rw [readForm_eq] at read
  have some_left : (d.skipAtmosphere s).rest ≠ [] := by
    intro empty
    rw [d.readFormAt_nil depth expected _ _ empty] at read
    cases read
  have skipped_len := d.skipAtmosphere_length_le s
  obtain ⟨reads, bounded⟩ := readFormAt_sound ih (by omega) (d.skipAtmosphere_ends s) read
  exact ⟨reads.after.skipped some_left, bounded⟩

/-- Items read after atmosphere through the closer are items by the grammar. -/
theorem readItems_sound_within {depth : Nat} {kind : SeqKind} {start : Nat}
    {items : List (Form Span)} {s : Scan} (len : s.rest.length ≤ n) {step : Step s}
    (read : d.readItems depth kind start items s = .ok step) :
    d.ClosesSeq depth kind start items s step.form step.next := by
  rw [readItems_eq] at read
  have some_left : (d.skipAtmosphere s).rest ≠ [] := by
    intro empty
    rw [d.readItemsAt_nil depth kind start items _ _ empty] at read
    cases read
  have skipped_len := d.skipAtmosphere_length_le s
  exact (readItemsAt_sound ih (by omega) (d.skipAtmosphere_ends s) read).skipped some_left

end Below

/-! ### The whole reader -/

/-- The reader is sound on every scan, by induction on what is left of it. -/
theorem soundBelow (d : Dialect) : ∀ n, d.SoundBelow n
  | 0 => ⟨fun short => absurd short (Nat.not_lt_zero _), fun short => absurd short (Nat.not_lt_zero _)⟩
  | n + 1 =>
    have ih := d.soundBelow n
    ⟨fun short read => readForm_sound_within ih (Nat.lt_succ_iff.mp short) read,
      fun short read => readItems_sound_within ih (Nat.lt_succ_iff.mp short) read⟩

/-- Every form read after atmosphere is one by the grammar, within the nesting allowed. -/
theorem readForm_sound (d : Dialect) {depth : Nat} {expected : List Expectation} {s : Scan}
    {step : Step s} (read : d.readForm depth expected s = .ok step) :
    d.ReadsAfter s step.form step.next ∧ step.form.depth ≤ depth :=
  (d.soundBelow (s.rest.length + 1)).form (Nat.lt_succ_self _) read

/-- A source read form by form to its end without a fault is items by the grammar followed by an
ending, the forms after those read before each within the nesting allowed. -/
theorem readFrom_sound (d : Dialect) (limit : Nat) (s : Scan) (read : List (Form Span))
    {forms : List (Form Span)} (done : d.readFrom limit s read = ⟨forms, none⟩) :
    ∃ more x tail, forms = read.reverse ++ more ∧ s.rest = x ++ tail ∧
      d.Items s.point x tail more ∧ d.Ending tail ∧ ∀ f ∈ more, f.depth ≤ limit := by
  -- Induction on what is left: each form read leaves less.
  induction h : s.rest.length using Nat.strongRecOn generalizing s read with
  | ind len ih =>
  by_cases empty : (d.skipAtmosphere s).rest = []
  · -- Only atmosphere and an ending are left.
    rw [d.readFrom_end limit s read empty] at done
    obtain ⟨a, e, split, blanks, ending, -, -⟩ := d.skipAtmosphere_skipped s
    rw [empty, List.append_nil] at split
    cases done
    exact ⟨[], a, e, by simp, split, .nil blanks, ending, by simp⟩
  · rw [d.readFrom_form limit s read empty] at done
    cases found : d.readFormAt limit [.expression] (d.skipAtmosphere s)
      (d.skipAtmosphere_length_le s) with
    | error fault => rw [found] at done; cases done
    | ok step =>
    rw [found] at done
    have shorter : step.next.rest.length < len := h ▸ step.shorter
    obtain ⟨more, x', tail, forms_eq, split', items, ending, bounded⟩ :=
      ih _ shorter step.next (step.form :: read) done rfl
    rw [← readForm_eq] at found
    obtain ⟨⟨a, x, split, moved, blanks, expr⟩, bounded'⟩ := d.readForm_sound found
    rw [split'] at split expr
    rw [moved] at items
    refine ⟨step.form :: more, a ++ x ++ x', tail, by simp [forms_eq], by simp [split],
      .cons blanks expr items, ending, ?_⟩
    intro f member
    rcases List.mem_cons.mp member with rfl | later
    · exact bounded'
    · exact bounded f later

/-- A source read to its end without a fault is a program of the grammar, each form within the
nesting allowed. -/
theorem readWithin_sound (d : Dialect) {limit : Nat} {source : Text} {forms : List (Form Span)}
    (done : d.readWithin limit source = ⟨forms, none⟩) :
    d.Program source forms ∧ ∀ f ∈ forms, f.depth ≤ limit := by
  obtain ⟨more, x, tail, rfl, split, items, ending, bounded⟩ :=
    d.readFrom_sound limit ⟨0, source⟩ [] done
  dsimp only at split
  rw [split]
  exact ⟨.mk (by simpa using items) ending, by simpa using bounded⟩

/-- Every form read, also one read before a fault stopped reading, was read before or is a form
of the grammar within the nesting allowed. -/
theorem readFrom_forms (d : Dialect) (limit : Nat) (s : Scan) (read : List (Form Span)) :
    ∀ f ∈ (d.readFrom limit s read).forms,
      f ∈ read ∨ ∃ p x u, d.Expr p x u f ∧ f.depth ≤ limit := by
  -- Induction on what is left: each form read leaves less.
  induction h : s.rest.length using Nat.strongRecOn generalizing s read with
  | ind len ih =>
  intro f member
  by_cases empty : (d.skipAtmosphere s).rest = []
  · rw [d.readFrom_end limit s read empty] at member
    exact .inl (List.mem_reverse.mp member)
  · rw [d.readFrom_form limit s read empty] at member
    cases found : d.readFormAt limit [.expression] (d.skipAtmosphere s)
      (d.skipAtmosphere_length_le s) with
    | error fault =>
      rw [found] at member
      exact .inl (List.mem_reverse.mp member)
    | ok step =>
      rw [found] at member
      rcases ih _ (h ▸ step.shorter) step.next (step.form :: read) rfl f member with earlier | derived
      · rcases List.mem_cons.mp earlier with rfl | before
        · -- The form read here is one of the grammar.
          rw [← readForm_eq] at found
          obtain ⟨⟨_, _, -, -, -, expr⟩, bounded⟩ := d.readForm_sound found
          exact .inr ⟨_, _, _, expr, bounded⟩
        · exact .inl before
      · exact .inr derived

/-- Every form a source is read as, also one read before a fault, is a form of the grammar within
the nesting allowed. -/
theorem readWithin_forms (d : Dialect) (limit : Nat) (source : Text) :
    ∀ f ∈ (d.readWithin limit source).forms, ∃ p x u, d.Expr p x u f ∧ f.depth ≤ limit := by
  intro f member
  rcases d.readFrom_forms limit ⟨0, source⟩ [] f member with never | derived
  · cases never
  · exact derived

end Dialect

end LispReader

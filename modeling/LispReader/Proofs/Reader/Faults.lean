import LispReader.Proofs.Unfinished

/-! Where the reader stops. A syntax error stands where `Stuck` puts it: the source up to the error
is complete forms and the constructs opened after them and not closed, the innermost of which
decides the kind of error, and the rest of the source is what that kind says. As for soundness,
one induction on what is left of the source carries all the reading functions, each function's
lemma taking the faults of the shorter scans as its hypothesis. -/

namespace LispReader

/-- A result that maps to an error was that error. -/
theorem error_of_map_eq_error {ε α β : Type} {x : Except ε α} {g : α → β} {err : ε}
    (mapped : x.map g = .error err) : x = .error err := by
  cases x with
  | error => cases mapped; rfl
  | ok => cases mapped

/-- A leaf whose failure became the fault `invalid e` failed with `e`. -/
theorem error_of_mapError {s t : Scan} {read : Except SyntaxError (Step t)} {e : SyntaxError}
    (mapped : (Except.error (Fault.invalid e) : Except Fault (Step s)).map Step.out =
      (read.map Step.out).mapError Fault.invalid) : read = .error e := by
  cases read with
  | ok => cases mapped
  | error e' =>
    simp only [Except.map, Except.mapError, Except.error.injEq, Fault.invalid.injEq] at mapped
    rw [mapped]

namespace Dialect

/-! ### Errors of strings and atoms -/

/-- A string body the reader finds no end of is one the source ends inside. -/
theorem stringOpen_of_stringBody (d : Dialect) {q : CodePoint} {t : Text}
    (missing : stringBody q d.escape t = none) : d.StringOpen q t := by
  -- Following the reader: the delimiter would close, an escape takes two code points, others one.
  induction t using stringBody.induct q d.escape with
  | case1 => exact .done
  | case2 rest =>
    rw [stringBody_delim _ rest rfl] at missing
    cases missing
  | case3 c other escapes => exact .escapeEnd other (by simpa using escapes)
  | case4 c other escapes e after ih =>
    rw [stringBody_escaped e after other (by simpa using escapes)] at missing
    exact .escaped other (by simpa using escapes) (ih (Option.map_eq_none_iff.mp missing))
  | case5 c more other plain ih =>
    rw [stringBody_plain more other (by simpa using plain)] at missing
    exact .plain other (by simpa using plain) (ih (Option.map_eq_none_iff.mp missing))

/-- A string fails only when the source ends inside it, and then at the end of the source. -/
theorem readString_stuck (d : Dialect) {s : Scan} {q : CodePoint} {body : Text}
    (front : s.rest = q :: body) (delimits : d.categoryOf q = .stringDelimiter) {e : SyntaxError}
    (read : d.readString s q body front = .error e) (innermost : Option Frame) :
    d.Stuck innermost s.point s.rest e := by
  unfold readString at read
  -- The body reader finds no closing delimiter, or the string is read and nothing fails.
  split at read
  · rename_i missing
    cases read
    have stop : s.stop = s.point + (body.length + 1) := by simp [Scan.stop, front]
    rw [stop, front]
    exact .unterminatedString delimits (d.stringOpen_of_stringBody missing)
  · cases read

/-- A run of constituents fails only when it casts to no atom. -/
theorem readRun_stuck (d : Dialect) {s : Scan} {c : CodePoint} {rest : Text}
    (front : s.rest = c :: rest) (plain : d.categoryOf c = .constituent)
    (no_char : ¬ d.CharLiteralAt s.rest) {e : SyntaxError} (read : d.readRun s c rest front = .error e)
    (innermost : Option Frame) : d.Stuck innermost s.point s.rest e := by
  unfold readRun at read
  dsimp only at read
  -- The run casts to no atom, or it is read and nothing fails.
  split at read
  · rename_i missing
    cases read
    -- The run is the code point in front and the constituents after it.
    have split : s.rest = (c :: rest.takeWhile d.isConstituent) ++ rest.dropWhile d.isConstituent := by
      simp [front]
    rw [split] at no_char ⊢
    exact .malformedNumber (List.cons_ne_nil _ _) (d.run_constituents plain rest)
      (d.stopsRun_dropWhile rest) no_char missing
  · cases read

/-- A char literal fails when the source ends with its prefix, at the end, or when it names no
character, where it starts. -/
theorem readChar_stuck (d : Dialect) {s : Scan} {pfx : Text} (reads : d.charLiterals)
    (named : d.charPrefix = some pfx) (leads : pfx <+: s.rest)
    (starts : d.StartsWith .constituent s.rest) {e : SyntaxError}
    (read : d.readChar s pfx = .error e) (innermost : Option Frame) :
    d.Stuck innermost s.point s.rest e := by
  obtain ⟨w, split⟩ := leads
  unfold readChar at read
  split at read
  · -- Nothing follows the prefix.
    rename_i after
    cases read
    have whole : s.rest = pfx := by simpa [← split] using after
    rw [Scan.stop, whole]
    rw [whole] at starts
    exact .charAtEnd reads named starts
  · rename_i first more after
    dsimp only at read
    split at read
    · rename_i missing
      cases read
      -- After the prefix come the code point taken whatever it is and the run of constituents.
      have after' : w = first :: more := by simpa [← split] using after
      have whole : s.rest = pfx ++ first :: more.takeWhile d.isConstituent ++
          more.dropWhile d.isConstituent := by
        simp [← split, after']
      rw [whole] at starts ⊢
      exact .malformedChar reads named ((d.startsWith_append (by simp) _).mp starts)
        (fun c member => d.isConstituent_of_takeWhile member) (d.stopsRun_dropWhile more) missing
    · cases read

/-- An atom fails as the char literal or the run it is read as. -/
theorem readAtom_stuck (d : Dialect) {s : Scan} {c : CodePoint} {rest : Text}
    (front : s.rest = c :: rest) (plain : d.categoryOf c = .constituent) {e : SyntaxError}
    (read : d.readAtom s c rest front = .error e) (innermost : Option Frame) :
    d.Stuck innermost s.point s.rest e := by
  have starts : d.StartsWith .constituent s.rest := by simp [front, StartsWith, plain]
  rcases d.readAtom_cases front with ⟨pfx, reads, named, leads, by_char⟩ | ⟨no_char, by_run⟩
  · rw [by_char] at read
    exact d.readChar_stuck reads named leads starts read innermost
  · rw [by_run] at read
    exact d.readRun_stuck front plain no_char read innermost

/-! ### What a failed read leaves -/

/-- Reading stopped at the error `e` after the text at the front of `s` that `opened` relates to
what follows it and to the constructs it leaves open, innermost first: the error is stuck with
the innermost of those, or of the constructs `outer` open around the scan. -/
def FaultIn (d : Dialect) (opened : Nat → Text → Text → List Frame → Prop) (s : Scan)
    (outer : List Frame) (e : SyntaxError) : Prop :=
  ∃ x post frames, s.rest = x ++ post ∧ opened s.point x post frames ∧
    d.Stuck (frames ++ outer).head? (s.point + x.length) post e

/-- Skipping atmosphere passes over what trails the rest. -/
theorem skipAtmosphere_trailing (d : Dialect) (s : Scan) :
    ∃ a, s.rest = a ++ (d.skipAtmosphere s).rest ∧ d.Trailing a (d.skipAtmosphere s).rest ∧
      (d.skipAtmosphere s).point = s.point + a.length := by
  obtain ⟨a, e, split, blanks, ending, -, ended⟩ := d.skipAtmosphere_skipped s
  have stop := d.skipAtmosphere_stop_eq s
  simp only [Scan.stop, split, List.length_append] at stop
  exact ⟨a ++ e, by simpa using split, ⟨a, e, rfl, blanks, ending, ended⟩, by simp; omega⟩

/-- Skipping atmosphere where none starts changes nothing. -/
theorem skipAtmosphere_of_ends (d : Dialect) {s : Scan} (ends : d.AtmosphereEnds s.rest) :
    d.skipAtmosphere s = s := by
  rw [d.skipAtmosphere_exact (a := []) (by simp) .nil ends]
  simp

/-- An atom or a string that fails where a form starts begins nothing. -/
theorem FaultIn.of_leaf {d : Dialect} {t : Scan} {outer : List Frame} {e : SyntaxError}
    (stuck : ∀ innermost, d.Stuck innermost t.point t.rest e) : d.FaultIn d.Begun t outer e :=
  ⟨[], t.rest, [], rfl, .none, by simpa using stuck outer.head?⟩

/-- Constructs begun are pending. -/
theorem FaultIn.pending {d : Dialect} {t : Scan} {outer : List Frame} {e : SyntaxError}
    (fault : d.FaultIn d.Begun t outer e) : d.FaultIn d.Pending t outer e :=
  let ⟨x, post, frames, split, begun, stuck⟩ := fault
  ⟨x, post, frames, split, begun.pending, stuck⟩

/-- Atmosphere skipped in front of a failed read joins what it leaves. -/
theorem FaultIn.atmosphere_prepend {d : Dialect} {s t : Scan} {a : Text} {outer : List Frame}
    {e : SyntaxError} (split : s.rest = a ++ t.rest) (moved : t.point = s.point + a.length)
    (blanks : d.Atmosphere a) (fault : d.FaultIn d.Pending t outer e) :
    d.FaultIn d.Pending s outer e := by
  obtain ⟨x, post, frames, split', pending, stuck⟩ := fault
  rw [moved] at pending stuck
  -- The error stands as far into the source as before; only the text in front of it grows.
  refine ⟨a ++ x, post, frames, by simp [split, split'], pending.atmosphere_prepend blanks, ?_⟩
  simpa [Nat.add_assoc] using stuck

/-- A form read in front of a failed read is the first item of what it leaves. -/
theorem FaultIn.cons {d : Dialect} {s t : Scan} {f : Form Span} {outer : List Frame}
    {e : SyntaxError} (reads : d.ReadsAfter s f t) (fault : d.FaultIn d.Pending t outer e) :
    d.FaultIn d.Pending s outer e := by
  obtain ⟨a, x, split, moved, blanks, expr⟩ := reads
  obtain ⟨y, post, frames, split', pending, stuck⟩ := fault
  rw [split'] at split expr
  rw [moved] at pending stuck
  -- The form is followed by the unfinished text, and the error stands where it did.
  refine ⟨a ++ x ++ y, post, frames, by simp [split], pending.cons blanks expr, ?_⟩
  simpa [Nat.add_assoc] using stuck

/-- A quote prefix in front of what its form begins begins the quote too. -/
theorem Begun.quoted (d : Dialect) {t : Scan} {c : CodePoint} {rest : Text}
    (front : t.rest = c :: rest) (quotes : d.categoryOf c = .quotePrefix) {x post : Text}
    {frames : List Frame} (split : (d.afterQuotePrefix t c rest).rest = x ++ post)
    (begun : d.Begun (d.afterQuotePrefix t c rest).point x post frames) :
    ∃ y, t.rest = y ++ post ∧ (d.afterQuotePrefix t c rest).point + x.length = t.point + y.length ∧
      d.Begun t.point y post (frames ++ [.quote]) := by
  -- The atmosphere after the prefix trails what the quoted form begins.
  obtain ⟨a, skipped, trailing, moved⟩ :
      ∃ a, (t.advance (d.quotePrefixAt c rest).2).rest = a ++ (d.afterQuotePrefix t c rest).rest ∧
        d.Trailing a (d.afterQuotePrefix t c rest).rest ∧
        (d.afterQuotePrefix t c rest).point = (t.advance (d.quotePrefixAt c rest).2).point + a.length :=
    d.skipAtmosphere_trailing _
  rw [split] at skipped trailing
  rw [moved] at begun ⊢
  rcases d.quotePrefixAt_cases c rest with ⟨n, more, rfl, unquotes, marks, splice⟩ | ⟨plain, single⟩
  · -- The unquote prefix and the splice mark, two code points wide.
    have two : t.advance 2 = ⟨t.point + 2, more⟩ :=
      t.advance_append (show t.rest = [c, n] ++ more by simp [front])
    rw [splice, two] at skipped begun ⊢
    dsimp only at skipped begun ⊢
    refine ⟨c :: n :: a ++ x, by simp [front, skipped], by simp; omega, ?_⟩
    exact .splice quotes unquotes marks trailing begun
  · -- A prefix of one code point.
    rw [single, t.advance_one front] at skipped begun ⊢
    dsimp only at skipped begun ⊢
    refine ⟨c :: a ++ x, by simp [front, skipped], by simp; omega, ?_⟩
    refine .quote quotes ?_ trailing begun
    rwa [List.append_assoc, ← skipped]

/-! ### Each function, given the faults of shorter scans -/

/-- Where reads fail, at every scan with fewer than `n` code points left: the hypothesis the
induction carries. -/
structure FaultsBelow (d : Dialect) (n : Nat) : Prop where
  /-- A form that fails where one starts fails inside the constructs it begins. -/
  form {depth : Nat} {expected : List Expectation} {t s : Scan}
    {skipped : t.rest.length ≤ s.rest.length} {e : SyntaxError} (outer : List Frame) :
    t.rest.length < n → d.AtmosphereEnds t.rest → d.endsOrCloses t.rest = false →
      d.readFormAt depth expected t skipped = .error (.invalid e) → d.FaultIn d.Begun t outer e
  /-- Items that fail fail inside their sequence. -/
  items {depth : Nat} {kind : SeqKind} {start : Nat} {items : List (Form Span)} {s : Scan}
    {e : SyntaxError} (outer : List Frame) : s.rest.length < n →
      d.readItems depth kind start items s = .error (.invalid e) →
        d.FaultIn d.Pending s (.seq kind :: outer) e

section Below

variable {d : Dialect} {n : Nat} (ih : d.FaultsBelow n)
include ih

/-- A sequence fails inside itself. -/
theorem readSeq_fault {depth : Nat} {kind : SeqKind} {t : Scan} {some_left : t.rest ≠ []}
    {s : Scan} {skipped : t.rest.length ≤ s.rest.length} {o : CodePoint} {rest : Text}
    (len : t.rest.length ≤ n) (front : t.rest = o :: rest) (opens : d.categoryOf o = kind.opener)
    {e : SyntaxError} (outer : List Frame)
    (read : d.readSeq depth kind t some_left skipped = .error (.invalid e)) :
    d.FaultIn d.Begun t outer e := by
  -- With no nesting left the fault is the depth, no syntax error.
  cases depth with
  | zero => rw [readSeq_tooDeep] at read; cases read
  | succ depth =>
    -- The items fail after the opener, from a shorter scan.
    have mapped := d.readSeq_items depth kind t some_left skipped
    rw [read] at mapped
    have shorter : (t.advance 1).rest.length < n := by simp [front] at len ⊢; omega
    obtain ⟨x, post, frames, split, pending, stuck⟩ :=
      ih.items outer shorter (error_of_map_eq_error mapped.symm)
    rw [t.advance_one front] at split pending stuck
    dsimp only at split pending stuck
    -- The sequence is the outermost of the constructs its items leave open.
    refine ⟨o :: x, post, frames ++ [.seq kind], by simp [front, split], .seq opens pending, ?_⟩
    have moved : t.point + (o :: x).length = t.point + 1 + x.length := by simp; omega
    rw [moved]
    simpa using stuck

/-- A quote prefix fails inside the quote: it dangles, or its form fails. -/
theorem readQuoted_fault {depth : Nat} {t : Scan} {c : CodePoint} {rest : Text}
    {front : t.rest = c :: rest} {s : Scan} {skipped : t.rest.length ≤ s.rest.length}
    (len : t.rest.length ≤ n) (quotes : d.categoryOf c = .quotePrefix) {e : SyntaxError}
    (outer : List Frame) (read : d.readQuoted depth t c rest front skipped = .error (.invalid e)) :
    d.FaultIn d.Begun t outer e := by
  cases operand : d.endsOrCloses (d.afterQuotePrefix t c rest).rest with
  | true =>
    -- Nothing but atmosphere before a closer or the end: the prefix dangles.
    rw [d.readQuoted_dangling depth t c rest front skipped operand] at read
    cases read
    obtain ⟨y, split, moved, begun⟩ := Begun.quoted d front quotes
      (show (d.afterQuotePrefix t c rest).rest = [] ++ (d.afterQuotePrefix t c rest).rest from rfl)
      .none
    refine ⟨y, _, [.quote], split, begun, ?_⟩
    rw [← moved]
    simpa using Stuck.dangling (d := d) (p := (d.afterQuotePrefix t c rest).point) operand
  | false =>
  -- With no nesting left the fault is the depth, no syntax error.
  cases depth with
  | zero => rw [d.readQuoted_tooDeep t c rest front skipped operand] at read; cases read
  | succ depth =>
  -- The quoted form fails, from a shorter scan where no atmosphere is left to skip.
  have mapped := d.readQuoted_operand depth t c rest front skipped operand
  rw [read] at mapped
  have found := error_of_map_eq_error mapped.symm
  rw [readForm_eq] at found
  have ends : d.AtmosphereEnds (d.afterQuotePrefix t c rest).rest := d.skipAtmosphere_ends _
  have same := d.skipAtmosphere_of_ends ends
  have shorter : (d.skipAtmosphere (d.afterQuotePrefix t c rest)).rest.length < n := by
    have := d.afterQuotePrefix_shorter t c rest front
    rw [same]
    omega
  have fault := ih.form (.quote :: outer) shorter (d.skipAtmosphere_ends _) (by rwa [same]) found
  rw [same] at fault
  obtain ⟨x, post, frames, split, begun, stuck⟩ := fault
  obtain ⟨y, split', moved, begun'⟩ := Begun.quoted d front quotes split begun
  refine ⟨y, post, frames ++ [.quote], split', begun', ?_⟩
  rw [← moved]
  simpa using stuck

/-- A form that fails where one starts, before no closer, fails inside the constructs it begins. -/
theorem readFormAt_fault {depth : Nat} {expected : List Expectation} {t s : Scan}
    {skipped : t.rest.length ≤ s.rest.length} (len : t.rest.length ≤ n)
    (ends : d.AtmosphereEnds t.rest) (opens : d.endsOrCloses t.rest = false) {e : SyntaxError}
    (outer : List Frame) (read : d.readFormAt depth expected t skipped = .error (.invalid e)) :
    d.FaultIn d.Begun t outer e := by
  cases front : t.rest with
  | nil =>
    rw [front] at opens
    cases opens
  | cons c rest =>
  rw [front] at ends opens
  -- The category of the code point in front picks the reader that failed.
  cases category : d.categoryOf c with
  | listOpen =>
    rw [d.readFormAt_listOpen depth expected t skipped front category] at read
    exact readSeq_fault ih len front (show d.categoryOf c = SeqKind.list.opener from category)
      outer read
  | vectorOpen =>
    rw [d.readFormAt_vectorOpen depth expected t skipped front category] at read
    exact readSeq_fault ih len front (show d.categoryOf c = SeqKind.vector.opener from category)
      outer read
  | listClose | vectorClose => simp [endsOrCloses, category, Category.isCloser] at opens
  | quotePrefix =>
    rw [d.readFormAt_quotePrefix depth expected t skipped front category] at read
    exact readQuoted_fault ih len category outer read
  | stringDelimiter =>
    have mapped := d.readFormAt_string depth expected t skipped front category
    rw [read] at mapped
    exact .of_leaf (d.readString_stuck front category (error_of_mapError mapped))
  | constituent =>
    have mapped := d.readFormAt_atom depth expected t skipped front category
    rw [read] at mapped
    exact .of_leaf (d.readAtom_stuck front category (error_of_mapError mapped))
  | blank => exact absurd category ends.1
  | commentStart => exact absurd category ends.2

/-- Items that fail from the front of a scan no atmosphere starts fail inside their sequence. -/
theorem readItemsAt_fault {depth : Nat} {kind : SeqKind} {start : Nat} {items : List (Form Span)}
    {t s : Scan} {skipped : t.rest.length ≤ s.rest.length} (len : t.rest.length ≤ n)
    (ends : d.AtmosphereEnds t.rest) {e : SyntaxError} (outer : List Frame)
    (read : d.readItemsAt depth kind start items t skipped = .error (.invalid e)) :
    d.FaultIn d.Pending t (.seq kind :: outer) e := by
  cases front : t.rest with
  | nil =>
    -- The source ends inside the sequence.
    rw [d.readItemsAt_nil depth kind start items t skipped front] at read
    cases read
    exact ⟨[], [], [], by simp [front], Begun.none.pending, by simpa using Stuck.unterminated⟩
  | cons c rest =>
  -- The sequence's own closer ends it without a fault.
  by_cases closes : d.categoryOf c = kind.closer
  · have mapped := d.readItemsAt_close depth kind start items t skipped front closes
    rw [read] at mapped
    cases mapped
  cases closer : (d.categoryOf c).isCloser with
  | true =>
    -- The closer of the other kind.
    rw [d.readItemsAt_mismatched depth kind start items t skipped front closes (by simp [closer])]
      at read
    cases read
    exact ⟨[], c :: rest, [], by simp [front], Begun.none.pending,
      by simpa using Stuck.mismatched (by simp [closer]) closes⟩
  | false =>
    have mapped := d.readItemsAt_item depth kind start items t skipped front closer
    rw [read] at mapped
    cases found : d.readFormAt depth (kind.expected d) t (Nat.le_refl _) with
    | error fault =>
      -- The next item fails.
      rw [found] at mapped
      cases mapped
      have opens : d.endsOrCloses t.rest = false := by simp [front, endsOrCloses, closer]
      exact (readFormAt_fault ih len ends opens _ found).pending
    | ok item =>
      -- The next item is read, and the items after it fail, from a shorter scan.
      rw [found] at mapped
      obtain ⟨reads, -⟩ := readFormAt_sound (d.soundBelow n) len ends found
      have shorter : item.next.rest.length < n := by
        have := item.shorter
        omega
      exact (ih.items outer shorter (error_of_map_eq_error mapped.symm)).cons reads.after

/-- Items that fail after atmosphere fail inside their sequence. -/
theorem readItems_fault_within {depth : Nat} {kind : SeqKind} {start : Nat}
    {items : List (Form Span)} {s : Scan} (len : s.rest.length ≤ n) {e : SyntaxError}
    (outer : List Frame) (read : d.readItems depth kind start items s = .error (.invalid e)) :
    d.FaultIn d.Pending s (.seq kind :: outer) e := by
  rw [readItems_eq] at read
  obtain ⟨a, split, trailing, moved⟩ := d.skipAtmosphere_trailing s
  by_cases empty : (d.skipAtmosphere s).rest = []
  · -- The source ends, perhaps inside a comment, with the sequence open.
    rw [d.readItemsAt_nil depth kind start items _ _ empty] at read
    cases read
    rw [empty] at split trailing
    have pending := Pending.mk (p := s.point) (x := []) (y := []) (.nil .nil) (by simpa using trailing) .none
    refine ⟨a, [], [], split, by simpa using pending, ?_⟩
    rw [moved]
    simpa using Stuck.unterminated
  · have skipped_len := d.skipAtmosphere_length_le s
    have fault := readItemsAt_fault ih (by omega) (d.skipAtmosphere_ends s) outer read
    exact fault.atmosphere_prepend split moved (trailing.atmosphere empty)

end Below

/-! ### The whole reader -/

/-- Reads fail as `Stuck` says on every scan, by induction on what is left of it. -/
theorem faultsBelow (d : Dialect) : ∀ n, d.FaultsBelow n
  | 0 => ⟨fun _ short => absurd short (Nat.not_lt_zero _),
      fun _ short => absurd short (Nat.not_lt_zero _)⟩
  | n + 1 =>
    have ih := d.faultsBelow n
    ⟨fun outer short ends opens read =>
        readFormAt_fault ih (Nat.lt_succ_iff.mp short) ends opens outer read,
      fun outer short read => readItems_fault_within ih (Nat.lt_succ_iff.mp short) outer read⟩

/-- Items that fail do so at or past the scan they are read from. -/
theorem readItems_fault_point (d : Dialect) {depth : Nat} {kind : SeqKind} {start : Nat}
    {items : List (Form Span)} {s : Scan} {e : SyntaxError}
    (read : d.readItems depth kind start items s = .error (.invalid e)) : s.point ≤ e.point := by
  obtain ⟨x, post, frames, -, -, stuck⟩ :=
    readItems_fault_within (d.faultsBelow (s.rest.length + 1)) (Nat.le_succ _) [] read
  have := stuck.start_le_point
  omega

/-- A source read form by form up to a syntax error is, up to the error, complete forms and the
constructs opened after them, and the error is stuck with the innermost of those. -/
theorem readFrom_fault (d : Dialect) (limit : Nat) (s : Scan) (read : List (Form Span))
    {e : SyntaxError} (fault : (d.readFrom limit s read).fault = some (.invalid e)) :
    d.FaultIn d.Pending s [] e := by
  -- Induction on what is left: each form read leaves less.
  induction h : s.rest.length using Nat.strongRecOn generalizing s read with
  | ind len ih =>
  obtain ⟨a, split, trailing, moved⟩ := d.skipAtmosphere_trailing s
  by_cases empty : (d.skipAtmosphere s).rest = []
  · -- Only atmosphere is left: reading ends without a fault.
    rw [d.readFrom_end limit s read empty] at fault
    cases fault
  have blanks := trailing.atmosphere empty
  rw [d.readFrom_form limit s read empty] at fault
  cases found : d.readFormAt limit [.expression] (d.skipAtmosphere s)
    (d.skipAtmosphere_length_le s) with
  | error fault' =>
    rw [found] at fault
    cases fault
    obtain ⟨c, rest, front⟩ := List.exists_cons_of_ne_nil empty
    cases closer : (d.categoryOf c).isCloser with
    | true =>
      -- A closer where nothing is open.
      rw [d.readFormAt_closer limit [.expression] _ _ front (by simp [closer])] at found
      cases found
      refine ⟨a, c :: rest, [], by rw [split, front], ?_, ?_⟩
      · simpa using (Begun.none (d := d) (p := s.point + a.length)).pending.atmosphere_prepend blanks
      · rw [moved]
        exact Stuck.unexpectedClosing (by simp [closer])
    | false =>
      -- Any other form fails inside the constructs it begins.
      have opens : d.endsOrCloses (d.skipAtmosphere s).rest = false := by
        simp [front, endsOrCloses, closer]
      have begun := readFormAt_fault (d.faultsBelow _) (Nat.le_refl _) (d.skipAtmosphere_ends s)
        opens [] found
      exact begun.pending.atmosphere_prepend split moved blanks
  | ok step =>
    -- A form is read, and reading fails after it, from a shorter scan.
    rw [found] at fault
    have after := ih _ (h ▸ step.shorter) step.next (step.form :: read) fault rfl
    rw [← readForm_eq] at found
    exact after.cons (d.readForm_sound found).1

/-- Every syntax error stops reading inside the constructs the source has opened by then: the
source up to the error is complete forms followed by lists, vectors and quote prefixes opened and
not closed, and what it holds from the error on is what the error's kind says, with the innermost
of those constructs, or none, as the kind requires. -/
theorem readWithin_stuck (d : Dialect) (limit : Nat) (source : Text) {e : SyntaxError}
    (fault : (d.readWithin limit source).fault = some (.invalid e)) :
    ∃ pre post frames, source = pre ++ post ∧ d.Pending 0 pre post frames ∧
      d.Stuck frames.head? pre.length post e := by
  obtain ⟨pre, post, frames, split, pending, stuck⟩ := d.readFrom_fault limit ⟨0, source⟩ [] fault
  exact ⟨pre, post, frames, split, pending, by simpa using stuck⟩

/-- In the standard dialect a list opened and met on the next line by the closer of vectors is
mismatched where the closer stands. -/
theorem read_list_vector_closer :
    (standard.read (Text.ofString "(\n]")).fault =
      some (.invalid ⟨.mismatchedDelimiter, 2, SeqKind.list.expected standard⟩) := by
  have source : Text.ofString "(\n]" =
      CodePoint.ofChar '(' :: CodePoint.newline :: CodePoint.ofChar ']' :: [] := by decide
  -- No atmosphere stands in front of the opener; the line feed after it is the list's.
  have start : standard.skipAtmosphere ⟨0, Text.ofString "(\n]"⟩ = ⟨0, Text.ofString "(\n]"⟩ :=
    standard.skipAtmosphere_of_ends (by decide)
  have inside : standard.skipAtmosphere ⟨0 + 1, CodePoint.newline :: CodePoint.ofChar ']' :: []⟩ =
      ⟨0 + 1 + [CodePoint.newline].length, CodePoint.ofChar ']' :: []⟩ :=
    standard.skipAtmosphere_exact (a := [CodePoint.newline]) rfl (.blank (by decide) .nil)
      (by decide)
  -- The list's items meet the closer of vectors.
  have items : standard.readItems 489 .list 0 []
      ⟨0 + 1, CodePoint.newline :: CodePoint.ofChar ']' :: []⟩ =
        .error (.invalid ⟨.mismatchedDelimiter, 2, SeqKind.list.expected standard⟩) := by
    have front : (standard.skipAtmosphere
        ⟨0 + 1, CodePoint.newline :: CodePoint.ofChar ']' :: []⟩).rest =
          CodePoint.ofChar ']' :: [] := by
      rw [inside]
    rw [readItems_eq, standard.readItemsAt_mismatched 489 .list 0 [] _ _ front (by decide)
      (by decide), inside]
    rfl
  -- The opener starts the list.
  have opened : ∀ (t : Scan) {s : Scan} (skipped : t.rest.length ≤ s.rest.length),
      t = ⟨0, Text.ofString "(\n]"⟩ → standard.readFormAt nestingLimit [.expression] t skipped =
        .error (.invalid ⟨.mismatchedDelimiter, 2, SeqKind.list.expected standard⟩) := by
    rintro t s skipped rfl
    have front : (⟨0, Text.ofString "(\n]"⟩ : Scan).rest =
        CodePoint.ofChar '(' :: CodePoint.newline :: CodePoint.ofChar ']' :: [] := source
    rw [standard.readFormAt_listOpen _ _ _ _ front (by decide)]
    have mapped := standard.readSeq_items 489 .list ⟨0, Text.ofString "(\n]"⟩ (by decide) skipped
    rw [Scan.advance_one _ front] at mapped
    dsimp only at mapped
    rw [items] at mapped
    exact error_of_map_eq_error mapped
  have some_left : (standard.skipAtmosphere ⟨0, Text.ofString "(\n]"⟩).rest ≠ [] := by
    rw [start]
    decide
  unfold read readWithin
  rw [standard.readFrom_form _ _ _ some_left, opened _ _ start]

/-- In the standard dialect a list met on the next line by the closer of vectors is mismatched
where the closer stands, the list being the innermost construct open there. -/
theorem list_meets_vector_closer :
    (standard.read (Text.ofString "(\n]")).fault =
        some (.invalid ⟨.mismatchedDelimiter, 2, SeqKind.list.expected standard⟩) ∧
      ∃ pre post frames, Text.ofString "(\n]" = pre ++ post ∧ standard.Pending 0 pre post frames ∧
        standard.Stuck frames.head? pre.length post
          ⟨.mismatchedDelimiter, 2, SeqKind.list.expected standard⟩ :=
  ⟨read_list_vector_closer, standard.readWithin_stuck nestingLimit _ read_list_vector_closer⟩

end Dialect

end LispReader

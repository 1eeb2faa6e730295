import LispReader.Proofs.Grammar
import LispReader.Proofs.Reader.Cases

/-! The readers of what has no parts, against the grammar: skipping atmosphere, string bodies,
runs of constituents and char literals each read exactly what their production covers. -/

namespace LispReader

namespace Dialect

/-- A text in front of which no atmosphere stands: it is empty or starts with neither a blank nor
a comment start. -/
def AtmosphereEnds (d : Dialect) : Text → Prop
  | [] => True
  | c :: _ => d.categoryOf c ≠ .blank ∧ d.categoryOf c ≠ .commentStart

instance (d : Dialect) : (t : Text) → Decidable (d.AtmosphereEnds t)
  | [] => isTrue trivial
  | c :: _ => inferInstanceAs (Decidable (d.categoryOf c ≠ .blank ∧ d.categoryOf c ≠ .commentStart))

/-! ### Atmosphere -/

/-- Atmosphere after atmosphere is atmosphere. -/
theorem Atmosphere.append {d : Dialect} {a b : Text} (first : d.Atmosphere a)
    (second : d.Atmosphere b) : d.Atmosphere (a ++ b) := by
  induction first with
  | nil => exact second
  | blank blank _ ih => exact .blank blank ih
  | comment starts one_line _ ih => simpa using Atmosphere.comment starts one_line ih

/-- Inside a comment, skipping runs through the next line feed and goes on outside it. -/
theorem skipFrom_comment (d : Dialect) {body : Text} (point : Nat) (rest : Text)
    (one_line : CodePoint.newline ∉ body) :
    d.skipFrom true point (body ++ CodePoint.newline :: rest) =
      d.skipFrom false (point + body.length + 1) rest := by
  -- Each code point of the body keeps the comment open; the line feed closes it.
  induction body generalizing point with
  | nil => simp [skipFrom]
  | cons c body ih =>
    have other : c ≠ CodePoint.newline := fun same => one_line (by simp [same])
    rw [List.cons_append, skipFrom, if_pos rfl, decide_eq_true other,
      ih (point + 1) (fun inside => one_line (List.mem_cons_of_mem c inside))]
    simp only [List.length_cons]
    congr 1
    omega

/-- A comment the text ends inside is skipped to the end. -/
theorem skipFrom_open_comment (d : Dialect) {body : Text} (point : Nat)
    (one_line : CodePoint.newline ∉ body) :
    d.skipFrom true point body = ⟨point + body.length, []⟩ := by
  -- No code point of the body closes the comment.
  induction body generalizing point with
  | nil => rfl
  | cons c body ih =>
    have other : c ≠ CodePoint.newline := fun same => one_line (by simp [same])
    rw [skipFrom, if_pos rfl, decide_eq_true other,
      ih (point + 1) (fun inside => one_line (List.mem_cons_of_mem c inside))]
    simp only [List.length_cons, Scan.mk.injEq, and_true]
    omega

/-- Skipping stops at once in front of a text that no atmosphere starts. -/
theorem skipFrom_stop (d : Dialect) (point : Nat) {rest : Text} (stops : d.AtmosphereEnds rest) :
    d.skipFrom false point rest = ⟨point, rest⟩ := by
  cases rest with
  | nil => rfl
  | cons c rest =>
    obtain ⟨not_blank, not_comment⟩ := stops
    rw [skipFrom, if_neg Bool.false_ne_true]
    split <;> simp_all

/-- Skipping passes over atmosphere and goes on with what follows it. -/
theorem skipFrom_atmosphere (d : Dialect) {a : Text} (point : Nat) (rest : Text)
    (blanks : d.Atmosphere a) :
    d.skipFrom false point (a ++ rest) = d.skipFrom false (point + a.length) rest := by
  -- One step per blank, one jump per comment.
  induction blanks generalizing point with
  | nil => rfl
  | blank isBlank _ ih =>
    rw [List.cons_append, skipFrom, if_neg Bool.false_ne_true]
    simp only [isBlank, ih (point + 1), List.length_cons]
    congr 1
    omega
  | @comment c body more isComment one_line _ ih =>
    simp only [List.cons_append, List.append_assoc]
    rw [skipFrom, if_neg Bool.false_ne_true]
    simp only [isComment, skipFrom_comment d _ _ one_line, ih, List.length_append,
      List.length_cons]
    congr 1
    omega

/-- Skipping passes over exactly the atmosphere in front of a text that no atmosphere starts. -/
theorem skipFrom_atmosphere_stop (d : Dialect) {a : Text} (point : Nat) {rest : Text}
    (blanks : d.Atmosphere a) (stops : d.AtmosphereEnds rest) :
    d.skipFrom false point (a ++ rest) = ⟨point + a.length, rest⟩ := by
  rw [d.skipFrom_atmosphere point rest blanks, d.skipFrom_stop _ stops]

/-- Skipping passes over atmosphere and what may end a source, to the end. -/
theorem skipFrom_ending (d : Dialect) {a e : Text} (point : Nat) (blanks : d.Atmosphere a)
    (ending : d.Ending e) :
    d.skipFrom false point (a ++ e) = ⟨point + (a.length + e.length), []⟩ := by
  rw [d.skipFrom_atmosphere point e blanks]
  cases ending with
  | done => rfl
  | @comment c body isComment one_line =>
    -- The comment left open runs to the end.
    rw [skipFrom, if_neg Bool.false_ne_true]
    simp only [isComment, skipFrom_open_comment d _ one_line, List.length_cons, Scan.mk.injEq,
      and_true]
    omega

/-- Skipping moves the point by what it passes over. -/
theorem skipFrom_point (d : Dialect) (inComment : Bool) (point : Nat) (t : Text) :
    (d.skipFrom inComment point t).point + (d.skipFrom inComment point t).rest.length =
      point + t.length := by
  -- Each step takes one code point and moves the point by one.
  induction t generalizing inComment point with
  | nil => rfl
  | cons c rest ih =>
    rw [skipFrom]
    split
    · rw [ih]; simp only [List.length_cons]; omega
    · split
      · rw [ih]; simp only [List.length_cons]; omega
      · rw [ih]; simp only [List.length_cons]; omega
      · rfl

/-- What skipping from a text passed over, ahead of where it stopped: atmosphere, then what may
end a source, which when it is a comment runs to the end; no atmosphere starts what is left. -/
def Skipped (d : Dialect) (t r : Text) : Prop :=
  ∃ a e, t = a ++ e ++ r ∧ d.Atmosphere a ∧ d.Ending e ∧ d.AtmosphereEnds r ∧ (e = [] ∨ r = [])

/-- Inside a comment, skipping either finds the line feed that ends it and goes on outside, or
runs to the end. -/
theorem skipFrom_in_comment (d : Dialect) (point : Nat) (t : Text) :
    (∃ body rest, t = body ++ CodePoint.newline :: rest ∧ CodePoint.newline ∉ body ∧
      d.skipFrom true point t = d.skipFrom false (point + body.length + 1) rest) ∨
    (CodePoint.newline ∉ t ∧ d.skipFrom true point t = ⟨point + t.length, []⟩) := by
  -- The first line feed, if there is one, ends the comment.
  induction t generalizing point with
  | nil => exact .inr ⟨by simp, rfl⟩
  | cons c rest ih =>
    by_cases ends : c = CodePoint.newline
    · subst ends
      refine .inl ⟨[], rest, rfl, by simp, ?_⟩
      simp [skipFrom]
    · rcases ih (point + 1) with ⟨body, after, split, one_line, skips⟩ | ⟨one_line, skips⟩
      · refine .inl ⟨c :: body, after, by simp [split], ?_, ?_⟩
        · simp only [List.mem_cons, not_or]
          exact ⟨Ne.symm ends, one_line⟩
        · rw [skipFrom, if_pos rfl, decide_eq_true ends, skips]
          simp only [List.length_cons]
          congr 1
          omega
      · refine .inr ⟨by simp [Ne.symm ends, one_line], ?_⟩
        rw [skipFrom, if_pos rfl, decide_eq_true ends, skips]
        simp only [List.length_cons, Scan.mk.injEq, and_true]
        omega

/-- Skipping from outside a comment passes over what the grammar calls atmosphere and an
ending. -/
theorem skipFrom_skipped (d : Dialect) (point : Nat) (t : Text) :
    d.Skipped t (d.skipFrom false point t).rest := by
  -- A comment jumps past its line feed, so the induction is on the length left.
  induction h : t.length using Nat.strongRecOn generalizing t point with
  | ind n ih =>
    subst h
    cases t with
    | nil => exact ⟨[], [], rfl, .nil, .done, trivial, .inl rfl⟩
    | cons c rest =>
      rw [skipFrom, if_neg Bool.false_ne_true]
      split
      · -- A blank joins the atmosphere.
        rename_i isBlank
        obtain ⟨a, e, split, blanks, ending, stops, open_end⟩ :=
          ih rest.length (Nat.lt_succ_self _) (point + 1) rest rfl
        refine ⟨c :: a, e, ?_, .blank isBlank blanks, ending, stops, open_end⟩
        simp only [List.cons_append]
        rw [← split]
      · rename_i isComment
        rcases d.skipFrom_in_comment (point + 1) rest with
          ⟨body, after, split, one_line, skips⟩ | ⟨one_line, skips⟩
        · -- A comment with its line feed joins the atmosphere.
          rw [skips]
          obtain ⟨a, e, split', blanks, ending, stops, open_end⟩ :=
            ih after.length (by rw [split, List.length_cons, List.length_append, List.length_cons]; omega) _ after rfl
          refine ⟨c :: body ++ CodePoint.newline :: a, e, ?_,
            .comment isComment one_line blanks, ending, stops, open_end⟩
          rw [List.append_assoc] at split'
          simp only [List.append_assoc, List.cons_append]
          rw [← split', ← split]
        · -- A comment the text ends inside is its ending.
          rw [skips]
          exact ⟨[], c :: rest, by simp, .nil, .comment isComment one_line, trivial, .inr rfl⟩
      · -- Anything else stops the skip at once.
        rename_i not_blank not_comment
        exact ⟨[], [], rfl, .nil, .done, ⟨not_blank, not_comment⟩, .inl rfl⟩

/-- Skipping atmosphere keeps the end of the source where it was. -/
theorem skipAtmosphere_stop_eq (d : Dialect) (s : Scan) : (d.skipAtmosphere s).stop = s.stop :=
  d.skipFrom_point false s.point s.rest

/-- Skipping atmosphere passes over what the grammar calls atmosphere and an ending. -/
theorem skipAtmosphere_skipped (d : Dialect) (s : Scan) :
    d.Skipped s.rest (d.skipAtmosphere s).rest :=
  d.skipFrom_skipped s.point s.rest

/-- Skipping atmosphere in front of a text no atmosphere starts passes over exactly it. -/
theorem skipAtmosphere_exact (d : Dialect) {s : Scan} {a rest : Text} (split : s.rest = a ++ rest)
    (blanks : d.Atmosphere a) (stops : d.AtmosphereEnds rest) :
    d.skipAtmosphere s = ⟨s.point + a.length, rest⟩ := by
  rw [skipAtmosphere, split, d.skipFrom_atmosphere_stop _ blanks stops]

/-- Skipping atmosphere stops where no more atmosphere starts. -/
theorem skipAtmosphere_ends (d : Dialect) (s : Scan) : d.AtmosphereEnds (d.skipAtmosphere s).rest := by
  obtain ⟨-, -, -, -, -, ends, -⟩ := d.skipAtmosphere_skipped s
  exact ends

/-- Skipping atmosphere that leaves something passes over atmosphere and no ending. -/
theorem skipAtmosphere_front (d : Dialect) (s : Scan) (some_left : (d.skipAtmosphere s).rest ≠ []) :
    ∃ a, s.rest = a ++ (d.skipAtmosphere s).rest ∧ d.Atmosphere a ∧
      (d.skipAtmosphere s).point = s.point + a.length := by
  obtain ⟨a, e, split, blanks, -, -, ends⟩ := d.skipAtmosphere_skipped s
  -- Something is left, so no comment ran to the end of the source.
  obtain rfl : e = [] := ends.resolve_right some_left
  have stop := d.skipAtmosphere_stop_eq s
  simp only [Scan.stop, split, List.append_nil, List.length_append] at stop
  exact ⟨a, by simpa using split, blanks, by omega⟩

/-- Skipping atmosphere and an ending reaches the end of the source. -/
theorem skipAtmosphere_to_end (d : Dialect) {s : Scan} {a e : Text} (split : s.rest = a ++ e)
    (blanks : d.Atmosphere a) (ending : d.Ending e) :
    d.skipAtmosphere s = ⟨s.stop, []⟩ := by
  rw [skipAtmosphere, split, d.skipFrom_ending _ blanks ending, Scan.stop, split,
    List.length_append]

/-! ### Strings -/

/-- The delimiter closes a string wherever it stands. -/
theorem stringBody_delim (escape : Token) {q c : CodePoint} (rest : Text) (closes : c = q) :
    stringBody q escape (c :: rest) = some ([], 1) := by
  cases rest <;> simp [stringBody, closes]

/-- An escape makes the next code point stand for itself or for the control it names. -/
theorem stringBody_escaped {escape : Token} {q c : CodePoint} (e : CodePoint) (rest : Text)
    (other : c ≠ q) (escapes : escape = some [c]) :
    stringBody q escape (c :: e :: rest) =
      (stringBody q escape rest).map fun (value, n) => (unescape e :: value, n + 2) := by
  simp [stringBody, other, escapes]

/-- An escape at the end leaves the string open. -/
theorem stringBody_escape_end {escape : Token} {q c : CodePoint} (other : c ≠ q)
    (escapes : escape = some [c]) : stringBody q escape [c] = none := by
  simp [stringBody, other, escapes]

/-- Any other code point stands for itself. -/
theorem stringBody_plain {escape : Token} {q c : CodePoint} (rest : Text) (other : c ≠ q)
    (plain : escape ≠ some [c]) :
    stringBody q escape (c :: rest) =
      (stringBody q escape rest).map fun (value, n) => (c :: value, n + 1) := by
  cases rest <;> simp [stringBody, other, plain]

/-- A string's rest is read through its closing delimiter, whatever follows. -/
theorem stringBody_complete (d : Dialect) {q : CodePoint} {body value : Text} (rest : Text)
    (string : d.StringRest q body value) :
    stringBody q d.escape (body ++ rest) = some (value, body.length) := by
  -- One case per production, each the branch of `stringBody` it mirrors.
  induction string with
  | close => exact stringBody_delim _ rest rfl
  | @plain c more value other plain _ ih =>
    rw [List.cons_append, stringBody_plain _ other plain, ih]
    rfl
  | @escaped c e more value other escapes _ ih =>
    rw [List.cons_append, List.cons_append, stringBody_escaped e _ other escapes, ih]
    rfl

/-- What the string reader takes is a string's rest by the grammar. -/
theorem stringBody_sound (d : Dialect) {q : CodePoint} {t value : Text} {n : Nat}
    (read : stringBody q d.escape t = some (value, n)) :
    ∃ body rest, t = body ++ rest ∧ body.length = n ∧ d.StringRest q body value := by
  -- Following the reader: the delimiter closes, an escape takes two code points, others one.
  induction t using stringBody.induct q d.escape generalizing value n with
  | case1 => simp [stringBody] at read
  | case2 rest =>
    rw [stringBody_delim _ rest rfl, Option.some.injEq, Prod.mk.injEq] at read
    obtain ⟨rfl, rfl⟩ := read
    exact ⟨[q], rest, rfl, rfl, .close⟩
  | case3 c other escapes =>
    rw [stringBody_escape_end other (by simpa using escapes)] at read
    cases read
  | case4 c other escapes e after ih =>
    rw [stringBody_escaped e after other (by simpa using escapes)] at read
    obtain ⟨⟨inner, m⟩, found, same⟩ := Option.map_eq_some_iff.mp read
    obtain ⟨rfl, rfl⟩ := Prod.mk.inj same
    obtain ⟨body, rest, rfl, rfl, string⟩ := ih found
    exact ⟨c :: e :: body, rest, rfl, by simp, .escaped other (by simpa using escapes) string⟩
  | case5 c more other plain ih =>
    rw [stringBody_plain more other (by simpa using plain)] at read
    obtain ⟨⟨inner, m⟩, found, same⟩ := Option.map_eq_some_iff.mp read
    obtain ⟨rfl, rfl⟩ := Prod.mk.inj same
    obtain ⟨body, rest, rfl, rfl, string⟩ := ih found
    exact ⟨c :: body, rest, rfl, by simp, .plain other (by simpa using plain) string⟩

/-! ### What a read took -/

/-- A read took the form `f` from the front of `s` and left `next`: the text it took is that
form by the grammar, followed by what it left. -/
def Reads (d : Dialect) (s : Scan) (f : Form Span) (next : Scan) : Prop :=
  ∃ x, s.rest = x ++ next.rest ∧ next.point = s.point + x.length ∧ d.Expr s.point x next.rest f

/-- Taking the text `x` off the front of a scan, when it is a form by the grammar, reads it. -/
theorem reads_advance (d : Dialect) {s : Scan} {x u : Text} {n : Nat} {f : Form Span}
    (split : s.rest = x ++ u) (width : x.length = n) (expr : d.Expr s.point x u f) :
    d.Reads s f (s.advance n) := by
  subst width
  rw [s.advance_append split]
  exact ⟨x, split, rfl, expr⟩

/-- Reading a string takes it through its closing delimiter, and gives an atom. -/
theorem readString_sound (d : Dialect) {s : Scan} {q : CodePoint} {body : Text}
    (front : s.rest = q :: body) (delimits : d.categoryOf q = .stringDelimiter)
    {step : Step s} (read : d.readString s q body front = .ok step) :
    d.Reads s step.form step.next ∧ step.form.depth = 0 := by
  unfold readString at read
  split at read
  · cases read
  · -- The body the reader took is a string's rest by the grammar.
    rename_i value n found
    obtain ⟨taken, rest, rfl, rfl, string⟩ := d.stringBody_sound found
    cases read
    exact ⟨d.reads_advance (show s.rest = (q :: taken) ++ rest by simp [front]) (by simp)
      (.string delimits string), rfl⟩

/-- A string by the grammar is read through its closing delimiter, whatever follows it. -/
theorem readString_complete (d : Dialect) {s : Scan} {q : CodePoint} {body taken value rest : Text}
    (front : s.rest = q :: body) (split : body = taken ++ rest)
    (string : d.StringRest q taken value) :
    (d.readString s q body front).map Step.out =
      .ok (.atom (.string value) ⟨s.point, s.point + (taken.length + 1)⟩,
        ⟨s.point + (taken.length + 1), rest⟩) := by
  have moved : s.advance (taken.length + 1) = ⟨s.point + (taken.length + 1), rest⟩ :=
    s.advance_append (show s.rest = (q :: taken) ++ rest by simp [front, split])
  unfold readString
  -- The body reader finds the closing delimiter where the grammar puts it.
  split
  · rename_i missing
    rw [split, d.stringBody_complete rest string] at missing
    cases missing
  · rename_i value' n found
    rw [split, d.stringBody_complete rest string] at found
    cases found
    simp only [moved]
    rfl

/-! ### Runs of constituents and char literals -/

/-- What is left after a run of constituents goes on with none. -/
theorem stopsRun_dropWhile (d : Dialect) (t : Text) : d.StopsRun (t.dropWhile d.isConstituent) := by
  -- Either the first code point ends the run, or the run goes on past it.
  induction t with
  | nil => trivial
  | cons c rest ih =>
    cases inside : d.isConstituent c with
    | true => simpa [List.dropWhile_cons, inside] using ih
    | false => simp [inside, StopsRun]

/-- The code points a run takes are constituents. -/
theorem isConstituent_of_takeWhile (d : Dialect) {t : Text} {c : CodePoint}
    (member : c ∈ t.takeWhile d.isConstituent) : d.isConstituent c :=
  List.all_eq_true.mp List.all_takeWhile c member

/-- A run of constituents before a text no run goes into is taken whole, and no more. -/
theorem takeWhile_run (d : Dialect) {run u : Text} (inside : ∀ c ∈ run, d.isConstituent c)
    (stops : d.StopsRun u) :
    (run ++ u).takeWhile d.isConstituent = run ∧ (run ++ u).dropWhile d.isConstituent = u := by
  rw [List.takeWhile_append_of_pos inside, List.dropWhile_append_of_pos inside]
  -- The text after the run contributes nothing to it.
  cases u with
  | nil => simp
  | cons c rest =>
    have outside : d.isConstituent c = false := stops
    simp [outside]

/-- What a nonempty text starts with does not depend on what follows it. -/
theorem startsWith_append (d : Dialect) {category : Category} {x : Text} (some_x : x ≠ [])
    (y : Text) : d.StartsWith category (x ++ y) ↔ d.StartsWith category x := by
  cases x with
  | nil => exact absurd rfl some_x
  | cons c rest => simp [StartsWith]

/-- A char literal is read when the prefix leads the text, and only then. -/
theorem charLiteralAt_iff (d : Dialect) {pfx : Text} (named : d.charPrefix = some pfx) (l : Text) :
    d.CharLiteralAt l ↔ d.charLiterals ∧ pfx.isPrefixOf l := by
  simp [CharLiteralAt, named]

/-- The code point that starts a run and the constituents after it are all constituents. -/
theorem run_constituents (d : Dialect) {c : CodePoint} (plain : d.categoryOf c = .constituent)
    (rest : Text) : ∀ x ∈ c :: rest.takeWhile d.isConstituent, d.isConstituent x := by
  intro x member
  rcases List.mem_cons.mp member with first | later
  · simp [first, isConstituent, plain]
  · exact d.isConstituent_of_takeWhile later

/-- Reading a run of constituents takes the whole run, and gives an atom. -/
theorem readRun_sound (d : Dialect) {s : Scan} {c : CodePoint} {rest : Text}
    (front : s.rest = c :: rest) (plain : d.categoryOf c = .constituent)
    (no_char : ¬ d.CharLiteralAt s.rest) {step : Step s}
    (read : d.readRun s c rest front = .ok step) : d.Reads s step.form step.next ∧ step.form.depth = 0 := by
  unfold readRun at read
  dsimp only at read
  split at read
  · cases read
  · rename_i a cast
    cases read
    -- The run is the code point in front and the constituents after it.
    have split : s.rest = (c :: rest.takeWhile d.isConstituent) ++ rest.dropWhile d.isConstituent := by
      simp [front]
    exact ⟨d.reads_advance split rfl (.run (List.cons_ne_nil _ _) (d.run_constituents plain rest)
      (d.stopsRun_dropWhile rest) (by rwa [← split]) cast), rfl⟩

/-- Reading a char literal takes its prefix, one code point and the constituents after it, and
gives an atom. -/
theorem readChar_sound (d : Dialect) {s : Scan} {pfx : Text} (reads : d.charLiterals)
    (named : d.charPrefix = some pfx) (leads : pfx <+: s.rest)
    (starts : d.StartsWith .constituent s.rest) {step : Step s}
    (read : d.readChar s pfx = .ok step) : d.Reads s step.form step.next ∧ step.form.depth = 0 := by
  obtain ⟨w, split⟩ := leads
  unfold readChar at read
  split at read
  · cases read
  · rename_i first more after
    dsimp only at read
    split at read
    · cases read
    · rename_i c resolves
      cases read
      -- After the prefix come the code point taken whatever it is and the run of constituents.
      have after' : w = first :: more := by simpa [← split] using after
      have whole : s.rest = (pfx ++ first :: more.takeWhile d.isConstituent) ++
          more.dropWhile d.isConstituent := by
        simp [← split, after']
      have width : (pfx ++ first :: more.takeWhile d.isConstituent).length =
          pfx.length + 1 + (more.takeWhile d.isConstituent).length := by
        simp only [List.length_append, List.length_cons]
        omega
      -- The literal starts where the scan does.
      rw [whole] at starts
      exact ⟨d.reads_advance whole width (.char reads named
        ((d.startsWith_append (by simp) _).mp starts)
        (fun c member => d.isConstituent_of_takeWhile member) (d.stopsRun_dropWhile more) resolves),
        rfl⟩

/-- An atom is read as a char literal when the dialect reads them and their prefix leads the scan,
and as a run of constituents otherwise. -/
theorem readAtom_cases (d : Dialect) {s : Scan} {c : CodePoint} {rest : Text}
    (front : s.rest = c :: rest) :
    (∃ pfx, d.charLiterals ∧ d.charPrefix = some pfx ∧ pfx <+: s.rest ∧
      d.readAtom s c rest front = d.readChar s pfx) ∨
    (¬ d.CharLiteralAt s.rest ∧ d.readAtom s c rest front = d.readRun s c rest front) := by
  cases named : d.charPrefix with
  | none =>
    -- No prefix: always a run.
    refine .inr ⟨fun ⟨_, pfx, named', _⟩ => by simp [named] at named', ?_⟩
    rw [readAtom, named]
  | some pfx =>
    by_cases leads : d.charLiterals ∧ pfx.isPrefixOf s.rest
    · refine .inl ⟨pfx, leads.1, rfl, List.isPrefixOf_iff_prefix.mp leads.2, ?_⟩
      rw [readAtom, named]
      exact if_pos leads
    · refine .inr ⟨by rwa [d.charLiteralAt_iff named], ?_⟩
      rw [readAtom, named]
      exact if_neg leads

/-- Reading an atom takes a char literal or a run of constituents by the grammar, and gives an
atom. -/
theorem readAtom_sound (d : Dialect) {s : Scan} {c : CodePoint} {rest : Text}
    (front : s.rest = c :: rest) (plain : d.categoryOf c = .constituent) {step : Step s}
    (read : d.readAtom s c rest front = .ok step) :
    d.Reads s step.form step.next ∧ step.form.depth = 0 := by
  have starts : d.StartsWith .constituent s.rest := by simp [front, StartsWith, plain]
  rcases d.readAtom_cases front with ⟨pfx, reads, named, leads, by_char⟩ | ⟨no_char, by_run⟩
  · rw [by_char] at read
    exact d.readChar_sound reads named leads starts read
  · rw [by_run] at read
    exact d.readRun_sound front plain no_char read

/-- A run of constituents by the grammar is read whole. -/
theorem readAtom_run (d : Dialect) {s : Scan} {c : CodePoint} {rest run u : Text} {a : Atom}
    (front : s.rest = c :: rest) (split : s.rest = run ++ u) (some_run : run ≠ [])
    (inside : ∀ c ∈ run, d.isConstituent c) (stops : d.StopsRun u)
    (no_char : ¬ d.CharLiteralAt (run ++ u)) (cast : castAtom d run = some a) :
    (d.readAtom s c rest front).map Step.out =
      .ok (.atom a ⟨s.point, s.point + run.length⟩, ⟨s.point + run.length, u⟩) := by
  -- The run is the code point in front and what follows it of the run.
  obtain ⟨more, rfl⟩ : ∃ more, run = c :: more := by
    cases run with
    | nil => exact absurd rfl some_run
    | cons c' more =>
      rw [front] at split
      exact ⟨more, by simp_all⟩
  have rest_split : rest = more ++ u := by simpa [front] using split
  have taken : rest.takeWhile d.isConstituent = more := by
    rw [rest_split]
    exact (d.takeWhile_run (fun c member => inside c (List.mem_cons_of_mem _ member)) stops).1
  -- The reader goes the way of a run.
  have by_run : d.readAtom s c rest front = d.readRun s c rest front := by
    rcases d.readAtom_cases front with ⟨pfx, reads, named, leads, -⟩ | ⟨-, by_run⟩
    · exact absurd ⟨reads, pfx, named, split ▸ leads⟩ no_char
    · exact by_run
  rw [by_run]
  unfold readRun
  simp only [taken, cast]
  have moved := s.advance_append split
  simp only [moved]
  rfl

/-- A char literal by the grammar is read whole. -/
theorem readAtom_char (d : Dialect) {s : Scan} {c : CodePoint} {rest pfx name u : Text}
    {first named_char : CodePoint} (front : s.rest = c :: rest)
    (split : s.rest = (pfx ++ first :: name) ++ u) (reads : d.charLiterals)
    (named : d.charPrefix = some pfx) (inside : ∀ c ∈ name, d.isConstituent c)
    (stops : d.StopsRun u) (resolves : CharName.resolveFrom first name = some named_char) :
    (d.readAtom s c rest front).map Step.out =
      .ok (.atom (.char [named_char]) ⟨s.point, s.point + (pfx.length + 1 + name.length)⟩,
        ⟨s.point + (pfx.length + 1 + name.length), u⟩) := by
  -- The prefix leads, so the reader goes the way of a char literal.
  have by_char : d.readAtom s c rest front = d.readChar s pfx := by
    rcases d.readAtom_cases front with ⟨pfx', -, named', -, by_char⟩ | ⟨no_char, -⟩
    · rw [named, Option.some_inj] at named'
      rwa [named']
    · exact absurd ⟨reads, pfx, named, ⟨first :: name ++ u, by simp [split]⟩⟩ no_char
  rw [by_char]
  have after : s.rest.drop pfx.length = first :: (name ++ u) := by simp [split]
  have taken := d.takeWhile_run inside stops
  unfold readChar
  split
  · rename_i empty
    rw [after] at empty
    cases empty
  · rename_i first' more after'
    rw [after] at after'
    obtain ⟨rfl, rfl⟩ := List.cons.inj after'
    simp only [taken.1, resolves]
    have moved := s.advance_append split
    have width : (pfx ++ first :: name).length = pfx.length + 1 + name.length := by
      simp only [List.length_append, List.length_cons]
      omega
    rw [width] at moved
    simp only [moved]
    rfl

end Dialect

end LispReader

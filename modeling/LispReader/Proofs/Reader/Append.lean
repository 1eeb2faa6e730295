import LispReader.Proofs.Reader.Shift

/-! Reading a source joined to another by a line feed. A line feed is a blank in every dialect and
ends a comment left open, so whatever a source read to its end without a fault ends with, reading
goes on at the start of the second source as at the start of a source of its own, with everything
moved past the first source and the line feed; the position of a point there counts the lines,
and the bytes, of the first source and the line feed. The one thing that can reach over the line
feed is a char literal prefix that holds one: then a run at the end of the first source may start
a char literal that goes on into the second. -/

namespace LispReader

namespace Text

/-- A prefix of a text that lacks the code point after `l` ends within `l`. -/
theorem prefix_of_prefix_append_cons {pfx l r : Text} {a : CodePoint} (pre : pfx <+: l ++ a :: r)
    (missing : a ∉ pfx) : pfx <+: l := by
  by_cases short : pfx.length ≤ l.length
  · exact List.prefix_of_prefix_length_le pre (List.prefix_append l (a :: r)) short
  · -- A longer prefix would hold the code point after `l`.
    have bound : l.length < pfx.length := by omega
    have reaches : pfx[l.length] = a := by
      rw [pre.getElem bound]
      simp
    exact absurd (reaches ▸ List.getElem_mem bound) missing

/-- Reading backwards from the end of a text up to its last line feed stops inside what follows
that line feed. -/
theorem takeWhile_append_newline (rest back : Text) :
    (back ++ CodePoint.newline :: rest).takeWhile (· ≠ CodePoint.newline) =
      back.takeWhile (· ≠ CodePoint.newline) := by
  rw [List.takeWhile_append]
  split
  · rename_i whole
    rw [List.takeWhile_cons_of_neg (by simp), List.append_nil,
      (List.takeWhile_prefix _).eq_of_length whole]
  · rfl

/-- A point of the second of two texts joined by a line feed stands, in the joined text, on a line
as many lines further on as the first text has line feeds and one more, at the same code point of
its line, and as many bytes further on as the first text and the line feed take. -/
theorem positionAt_append_newline (first second : Text) (point : Nat) :
    positionAt (first ++ CodePoint.newline :: second) (point + (first.length + 1)) =
      ⟨(positionAt second point).line + (first.count CodePoint.newline + 1),
        (positionAt second point).linePoint,
        (positionAt second point).column + (first.utf8Size + 1)⟩ := by
  have taken : (first ++ CodePoint.newline :: second).take (point + (first.length + 1)) =
      first ++ CodePoint.newline :: second.take point := by
    rw [show point + (first.length + 1) = first.length + (point + 1) by omega,
      List.take_length_add_append, List.take_succ_cons]
  simp only [positionAt, taken, Position.mk.injEq]
  refine ⟨?_, ?_, ?_⟩
  · rw [List.count_append, List.count_cons_self]
    omega
  · rw [List.reverse_append, List.reverse_cons, List.append_assoc, List.singleton_append,
      takeWhile_append_newline]
  · rw [utf8Size_append, utf8Size, show CodePoint.newline.utf8Width = 1 from rfl]
    omega

end Text

namespace Dialect

variable {d : Dialect}

/-- A line feed is a blank in every dialect: blanks are classified before any role. -/
theorem categoryOf_newline (d : Dialect) : d.categoryOf CodePoint.newline = .blank := by
  have blank : d.isBlankKey [CodePoint.newline] = true := by
    simp only [isBlankKey, blanks, List.contains_append, Bool.or_eq_true]
    exact .inl (by decide)
  simp [categoryOf, classify, blank]

/-- What may end a source, and a line feed, are atmosphere: the line feed ends the comment the
source ended inside. -/
theorem Ending.append_newline {e : Text} : d.Ending e → d.Atmosphere (e ++ [CodePoint.newline])
  | .done => .blank d.categoryOf_newline .nil
  | .comment starts one_line => by
    simpa using (Atmosphere.comment starts one_line .nil :
      d.Atmosphere (_ :: _ ++ CodePoint.newline :: []))

/-- Atmosphere after items joins their last atmosphere. -/
theorem Items.append_atmosphere {p : Nat} {t b u : Text} {fs : List (Form Span)}
    (blanks : d.Atmosphere b) : d.Items p t (b ++ u) fs → d.Items p (t ++ b) u fs
  | .nil blanks' => .nil (blanks'.append blanks)
  | .cons blanks' expr items => by
    have joined := Items.cons blanks' (by rwa [← List.append_assoc] at expr)
      (items.append_atmosphere blanks)
    simpa using joined

/-- A line feed and any text can stand after a form in place of the end of a source, or of a
comment the source ends inside, when no char literal prefix holds a line feed: the line feed stops
every run, and a prefix that reached into the text after it would hold it. -/
theorem follows_newline (plain : ∀ pfx, d.charLiterals → d.charPrefix = some pfx →
      CodePoint.newline ∉ pfx) (tail rest : Text) :
    d.Follows tail (tail ++ CodePoint.newline :: rest) := by
  refine ⟨fun stops => ?_, fun w ⟨reads, pfx, named, pre⟩ => ⟨reads, pfx, named, ?_⟩⟩
  · cases tail with
    | nil => simp [StopsRun, isConstituent, categoryOf_newline]
    | cons c body => exact stops
  · rw [← List.append_assoc] at pre
    exact Text.prefix_of_prefix_append_cons pre (plain pfx reads named)

/-- The forms read after some forms read before are those forms and the forms read after none. -/
theorem readFrom_append (d : Dialect) (limit : Nat) (s : Scan) (acc read : List (Form Span)) :
    d.readFrom limit s (acc ++ read) =
      ⟨read.reverse ++ (d.readFrom limit s acc).forms, (d.readFrom limit s acc).fault⟩ := by
  -- Induction on what is left: each form read leaves less.
  induction h : s.rest.length using Nat.strongRecOn generalizing s acc with
  | ind len ih =>
  by_cases empty : (d.skipAtmosphere s).rest = []
  · rw [d.readFrom_end limit s _ empty, d.readFrom_end limit s _ empty, List.reverse_append]
  · rw [d.readFrom_form limit s _ empty, d.readFrom_form limit s _ empty]
    cases d.readFormAt limit [.expression] (d.skipAtmosphere s) (d.skipAtmosphere_length_le s) with
    | error fault => simp
    | ok step => exact ih _ (h ▸ step.shorter) step.next (step.form :: acc) rfl

/-- Items by the grammar are read form by form, and reading goes on after them, when the nesting of
each is allowed. -/
theorem readFrom_through_items {limit p : Nat} {x rest : Text} {more : List (Form Span)}
    (bounded : ∀ f ∈ more, f.depth ≤ limit) (read : List (Form Span)) {s : Scan}
    (at_point : s.point = p) (split : s.rest = x ++ rest) :
    d.Items p x rest more →
      d.readFrom limit s read = d.readFrom limit ⟨p + x.length, rest⟩ (more.reverse ++ read)
  | .nil blanks => by
    -- Only atmosphere stands before what follows, and the reader passes over it.
    rw [List.reverse_nil, List.nil_append]
    refine (d.readFrom_congr limit read ?_).symm
    show d.skipFrom false (p + x.length) rest = d.skipFrom false s.point s.rest
    rw [at_point, split, d.skipFrom_atmosphere p rest blanks]
  | @Items.cons _ _ a x rest' _ f fs blanks expr items => by
    subst at_point
    obtain ⟨c₀, more, rfl, starts⟩ := expr.front
    have skipped := d.skipAtmosphere_exact
      (show s.rest = a ++ ((c₀ :: more) ++ (rest' ++ rest)) by simp [split]) blanks
      (starts.ends (more ++ (rest' ++ rest)))
    rw [d.readFrom_form limit s read (by rw [skipped]; simp)]
    -- The first form is read where the atmosphere ends, the rest from where it ends.
    obtain ⟨step, found, same_form, same_next⟩ := Step.exists_of_map_out
      (Expr.read_complete (bounded f (List.mem_cons_self ..)) expr [.expression]
        (d.skipAtmosphere_length_le s) (by rw [skipped]) (by rw [skipped]))
    rw [found]
    dsimp only
    rw [same_form, readFrom_through_items (fun g member => bounded g (List.mem_cons_of_mem _ member))
      (f :: read) (by rw [same_next]) (by rw [same_next]) items]
    simp only [List.length_append, List.length_cons, List.reverse_cons, List.append_assoc,
      List.singleton_append, Nat.add_assoc]

/-- A source read to its end without a fault, a line feed and a second source read as the forms
of the first, then the forms of the second and the way its reading ends, moved past the first
source and the line feed, unless a char literal prefix holds a line feed. A syntax error of the
second source is reported in the joined source as many lines further on as the first source has
line feeds and one more, at the same code point of its line, and as many bytes further on as the
first source and the line feed take. -/
theorem readWithin_append_newline (d : Dialect) (limit : Nat) {first : Text}
    {forms : List (Form Span)} (second : Text)
    (plain : ∀ pfx, d.charLiterals → d.charPrefix = some pfx → CodePoint.newline ∉ pfx)
    (done : d.readWithin limit first = ⟨forms, none⟩) :
    d.readWithin limit (first ++ CodePoint.newline :: second) =
        ⟨forms ++ (d.readWithin limit second).forms.map (Form.shift (first.length + 1)),
          (d.readWithin limit second).fault.map (Fault.shift (first.length + 1))⟩ ∧
      ∀ e, (d.readWithin limit second).fault = some (.invalid e) →
        Text.positionAt (first ++ CodePoint.newline :: second) (e.shift (first.length + 1)).point =
          ⟨(Text.positionAt second e.point).line + (first.count CodePoint.newline + 1),
            (Text.positionAt second e.point).linePoint,
            (Text.positionAt second e.point).column + (first.utf8Size + 1)⟩ := by
  refine ⟨?_, fun e _ => Text.positionAt_append_newline first second e.point⟩
  obtain ⟨program, bounded⟩ := d.readWithin_sound done
  obtain ⟨items, ending⟩ := program
  rename_i x tail
  -- The items of the first source stand the same before a line feed and the second source.
  obtain ⟨gs, moved, same⟩ := Items.move 0 items (d.follows_newline plain tail second)
  obtain rfl : gs = forms := by simpa [Form.shiftAll_zero] using same 0 0 rfl
  have joined : d.Items 0 (x ++ (tail ++ [CodePoint.newline])) second gs :=
    Items.append_atmosphere ending.append_newline (by simpa using moved)
  -- Reading passes over them and goes on at the second source, moved past the first.
  have through := d.readFrom_through_items bounded []
    (s := ⟨0, x ++ tail ++ CodePoint.newline :: second⟩) rfl (by simp) joined
  have shifted := d.readFrom_shift limit ((x ++ tail).length + 1) ⟨0, second⟩
    ⟨(x ++ tail).length + 1, second⟩ [] (by rw [← skipAtmosphere_shift, Scan.shift, Nat.zero_add])
  rw [readWithin, through, List.append_nil, ← List.nil_append gs.reverse, readFrom_append,
    List.reverse_reverse]
  simp only [List.length_append, List.length_cons, List.length_nil, Nat.zero_add,
    Nat.add_assoc, List.map_nil] at shifted ⊢
  rw [shifted]
  rfl

/-- A run that is no reserved word, reads as no number and does not look like one is the symbol
of its text. -/
theorem castAtom_symbol (d : Dialect) {run : Text} (word : Numeral.Lexeme.read? run = none)
    (plain : Numeral.looksNumeric run = false)
    (unreserved : run ∉ [Text.ofString "nil", Text.ofString "true", Text.ofString "#t",
      Text.ofString "false", Text.ofString "#f"]) :
    castAtom d run = some (.symbol run) := by
  simp only [List.mem_cons, List.not_mem_nil, not_or] at unreserved
  obtain ⟨not_nil, not_true, not_t, not_false, not_f, -⟩ := unreserved
  unfold castAtom
  rw [if_neg not_nil, if_neg (by simp [not_true, not_t]), if_neg (by simp [not_false, not_f]),
    word]
  simp [plain]

/-- In the standard dialect `x`, a line feed and a closer read as the symbol `x` and stop at the
closer on the second line. -/
theorem symbol_then_closer_on_next_line :
    (∀ pfx, standard.charLiterals → standard.charPrefix = some pfx → CodePoint.newline ∉ pfx) ∧
      standard.readWithin nestingLimit (Text.ofString "x") = ⟨[Form.symbol "x" ⟨0, 1⟩], none⟩ ∧
      standard.readWithin nestingLimit
          (Text.ofString "x" ++ CodePoint.newline :: Text.ofString "]") =
        ⟨[Form.symbol "x" ⟨0, 1⟩] ++ (standard.readWithin nestingLimit (Text.ofString "]")).forms.map
            (Form.shift ((Text.ofString "x").length + 1)),
          (standard.readWithin nestingLimit (Text.ofString "]")).fault.map
            (Fault.shift ((Text.ofString "x").length + 1))⟩ ∧
      ∀ e, (standard.readWithin nestingLimit (Text.ofString "]")).fault = some (.invalid e) →
        Text.positionAt (Text.ofString "x" ++ CodePoint.newline :: Text.ofString "]")
            (e.shift ((Text.ofString "x").length + 1)).point =
          ⟨(Text.positionAt (Text.ofString "]") e.point).line +
              ((Text.ofString "x").count CodePoint.newline + 1),
            (Text.positionAt (Text.ofString "]") e.point).linePoint,
            (Text.positionAt (Text.ofString "]") e.point).column +
              ((Text.ofString "x").utf8Size + 1)⟩ := by
  have plain : ∀ pfx, standard.charLiterals → standard.charPrefix = some pfx →
      CodePoint.newline ∉ pfx := by
    intro pfx _ named
    obtain rfl : Text.ofString "#\\" = pfx := Option.some.inj named
    decide
  have symbol : standard.Expr 0 (Text.ofString "x") [] (Form.symbol "x" ⟨0, 1⟩) :=
    .run (by decide) (by decide) trivial (by decide)
      (castAtom_symbol standard (by decide) (by decide) (by decide))
  have read : standard.readWithin nestingLimit (Text.ofString "x") =
      ⟨[Form.symbol "x" ⟨0, 1⟩], none⟩ :=
    readFrom_complete .done (by simp [Form.depth, Form.symbol, nestingLimit]) [] rfl rfl
      (.cons (a := []) .nil symbol (.nil .nil))
  exact ⟨plain, read, readWithin_append_newline standard nestingLimit _ plain read⟩

/-- A char literal prefix that holds a line feed reaches over it. With the prefix `a` and a line
feed, a dialect the check accepts, `a` and `b` each read as a symbol, while `a`, a line feed and `b`
read as the one char `b`. -/
theorem char_prefix_reaches_over_newline :
    ({ charPrefix := some (Text.ofString "a\n") } : Dialect).check =
        .ok { charPrefix := some (Text.ofString "a\n") } ∧
      ({ charPrefix := some (Text.ofString "a\n") } : Dialect).read (Text.ofString "a") =
        ⟨[Form.symbol "a" ⟨0, 1⟩], none⟩ ∧
      ({ charPrefix := some (Text.ofString "a\n") } : Dialect).read (Text.ofString "b") =
        ⟨[Form.symbol "b" ⟨0, 1⟩], none⟩ ∧
      ({ charPrefix := some (Text.ofString "a\n") } : Dialect).read
          (Text.ofString "a" ++ CodePoint.newline :: Text.ofString "b") =
        ⟨[.atom (.char [CodePoint.ofChar 'b']) ⟨0, 3⟩], none⟩ := by
  -- Each source is one form of the grammar and nothing after it.
  have single {x : Text} {f : Form Span} (expr : ({ charPrefix := some (Text.ofString "a\n") } :
      Dialect).Expr 0 x [] f) (flat : f.depth = 0) :
      ({ charPrefix := some (Text.ofString "a\n") } : Dialect).read x = ⟨[f], none⟩ :=
    readFrom_complete .done (by simp [flat, nestingLimit]) [] rfl (by simp)
      (.cons (a := []) .nil expr (.nil .nil))
  refine ⟨rfl, single ?_ rfl, single ?_ rfl, single ?_ rfl⟩
  · exact .run (by decide) (by decide) trivial (by decide)
      (castAtom_symbol _ (by decide) (by decide) (by decide))
  · exact .run (by decide) (by decide) trivial (by decide)
      (castAtom_symbol _ (by decide) (by decide) (by decide))
  · exact @Expr.char _ 0 (Text.ofString "a\n") [] [] (CodePoint.ofChar 'b') (CodePoint.ofChar 'b')
      rfl rfl (by decide) (by simp) trivial (by decide)

end Dialect

end LispReader

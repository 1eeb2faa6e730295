import LispReader.Proofs.Reader.Append
import LispReader.Proofs.Reader.Faults
import LispReader.Proofs.Printer.ReadBack

/-! Strict numbers against lenient ones. A dialect that refuses malformed numbers differs from the
same dialect that reads them as symbols in one place only: a run of constituents that starts like
a number and is none. Up to the first such run they read alike; there the strict read stops with
a malformed number, where the lenient read takes the run as a symbol and goes on, and what the
strict read passed over on its way there is complete forms and open constructs within the nesting
it was given. One induction on what is left, as for soundness, carries this through every reading
function. -/

namespace LispReader

namespace Numeral

/-- A run that starts like a number, with an optional sign, an optional point and a digit, and
reads as no number. -/
def Malformed (run : Text) : Prop :=
  looksNumeric run = true ∧ (Lexeme.read? run).isNone = true

instance (run : Text) : Decidable (Malformed run) :=
  inferInstanceAs (Decidable (_ ∧ _))

end Numeral

/-- No quote's head symbol is a malformed number. -/
theorem QuoteKind.name_not_malformed (k : QuoteKind) : ¬ Numeral.Malformed (Text.ofString k.name) := by
  cases k <;> decide

/-- No node of the form is a symbol whose text is a malformed number. -/
def Form.NoMalformedSymbol (f : Form Span) : Prop :=
  ∀ run sp, Form.atom (.symbol run) sp ∈ f.nodes → ¬ Numeral.Malformed run

/-- Every node of the form that is a symbol whose text is a malformed number starts at `p` or
later. -/
def Form.MalformedFrom (p : Nat) (f : Form Span) : Prop :=
  ∀ run sp, Form.atom (.symbol run) sp ∈ f.nodes → Numeral.Malformed run → p ≤ sp.start

/-- An atom has its malformed symbol, if it is one, where it starts. -/
theorem Form.malformedFrom_atom {a : Atom} {sp : Span} : (Form.atom a sp).MalformedFrom sp.start := by
  intro run sp' member _
  rw [Form.nodes, List.mem_singleton] at member
  cases member
  exact Nat.le_refl _

/-- A quote has a malformed symbol only where its quoted form has one. -/
theorem Form.malformedFrom_quote {p : Nat} {name : String} {head ann : Span} {f : Form Span}
    (plain : ¬ Numeral.Malformed (Text.ofString name)) (inner : f.MalformedFrom p) :
    (Form.list [Form.symbol name head, f] ann).MalformedFrom p := by
  intro run sp member malformed
  rcases Form.mem_nodes_quote.mp member with same | same | deeper
  · cases same
  · cases same
    exact absurd malformed plain
  · exact inner run sp deeper malformed

/-- A scan reached from another by taking the code points `a` of it. -/
def Scan.LeadsTo (s t : Scan) : Prop :=
  ∃ a, s.rest = a ++ t.rest ∧ t.point = s.point + a.length

theorem Scan.LeadsTo.trans {s t r : Scan} (first : s.LeadsTo t) (second : t.LeadsTo r) :
    s.LeadsTo r := by
  obtain ⟨a, split, moved⟩ := first
  obtain ⟨b, split', moved'⟩ := second
  exact ⟨a ++ b, by rw [split, split', List.append_assoc], by simp [moved', moved]; omega⟩

/-- Advancing a scan takes the code points it passes. -/
theorem Scan.leadsTo_advance (s : Scan) (n : Nat) : s.LeadsTo (s.advance n) :=
  ⟨s.rest.take n, by simp [Scan.advance], by simp [Scan.advance]⟩

/-- Skipping atmosphere takes the code points it passes. -/
theorem Dialect.leadsTo_skipAtmosphere (d : Dialect) (s : Scan) : s.LeadsTo (d.skipAtmosphere s) :=
  let ⟨a, split, _, moved⟩ := d.skipAtmosphere_trailing s
  ⟨a, split, moved⟩

/-- A form read where no atmosphere stands takes the code points of its text. -/
theorem Dialect.Reads.leadsTo {d : Dialect} {s next : Scan} {f : Form Span}
    (reads : d.Reads s f next) : s.LeadsTo next :=
  let ⟨x, split, moved, _⟩ := reads
  ⟨x, split, moved⟩

/-- A fault that stands past the point `p`; nesting too deep stands nowhere, so past it too. -/
def Fault.StopsAfter (p : Nat) : Fault → Prop
  | .invalid e => p < e.point
  | .tooDeep => True

/-- A read that went past the symbol of the run at `p`: it read a form with that symbol inside, no
malformed symbol before it, and stopped past `p`, or it failed past `p`. -/
def PassesSymbol (p : Nat) (run : Text) : Except Fault (Form Span × Scan) → Prop
  | .ok (f, next) =>
    p < next.point ∧ Form.atom (.symbol run) ⟨p, p + run.length⟩ ∈ f.nodes ∧ f.MalformedFrom p
  | .error fault => fault.StopsAfter p

namespace Dialect

/-- The dialect with malformed numbers refused, or read as symbols. -/
def withStrictNumbers (d : Dialect) (strict : Bool) : Dialect :=
  { d with strictNumbers := strict }

/-! ### What the setting does not touch -/

section Setting

variable (d : Dialect) (b : Bool)

@[simp] theorem categoryOf_withStrictNumbers (c : CodePoint) :
    (d.withStrictNumbers b).categoryOf c = d.categoryOf c := rfl

@[simp] theorem isConstituent_withStrictNumbers :
    (d.withStrictNumbers b).isConstituent = d.isConstituent := rfl

theorem skipFrom_withStrictNumbers (inComment : Bool) (point : Nat) (t : Text) :
    (d.withStrictNumbers b).skipFrom inComment point t = d.skipFrom inComment point t := by
  induction t generalizing inComment point with
  | nil => rfl
  | cons c rest ih => simp only [skipFrom, categoryOf_withStrictNumbers, ih]

@[simp] theorem skipAtmosphere_withStrictNumbers (s : Scan) :
    (d.withStrictNumbers b).skipAtmosphere s = d.skipAtmosphere s :=
  d.skipFrom_withStrictNumbers b false s.point s.rest

@[simp] theorem afterQuotePrefix_withStrictNumbers (t : Scan) (c : CodePoint) (rest : Text) :
    (d.withStrictNumbers b).afterQuotePrefix t c rest = d.afterQuotePrefix t c rest := by
  rw [afterQuotePrefix, afterQuotePrefix, skipAtmosphere_withStrictNumbers]
  rfl

@[simp] theorem endsOrCloses_withStrictNumbers (t : Text) :
    (d.withStrictNumbers b).endsOrCloses t = d.endsOrCloses t := rfl

@[simp] theorem quotePrefixAt_withStrictNumbers (c : CodePoint) (rest : Text) :
    (d.withStrictNumbers b).quotePrefixAt c rest = d.quotePrefixAt c rest := rfl

@[simp] theorem readString_withStrictNumbers (s : Scan) (q : CodePoint) (body : Text)
    (front : s.rest = q :: body) :
    (d.withStrictNumbers b).readString s q body front = d.readString s q body front := rfl

@[simp] theorem readChar_withStrictNumbers (s : Scan) (pfx : Text) :
    (d.withStrictNumbers b).readChar s pfx = d.readChar s pfx := rfl

/-- Both settings cast a run alike unless it is a malformed number. -/
theorem castAtom_withStrictNumbers {run : Text} (well : ¬ Numeral.Malformed run) :
    castAtom (d.withStrictNumbers b) run = castAtom (d.withStrictNumbers false) run := by
  unfold castAtom
  cases word : Numeral.Lexeme.read? run with
  | some lexeme => rfl
  | none =>
    -- Reading as no number, the run does not start like one either.
    have plain : Numeral.looksNumeric run = false := by
      simpa [Numeral.Malformed, word] using well
    simp [withStrictNumbers, plain]

/-- A malformed number is refused by the strict setting and a symbol in the lenient one. -/
theorem castAtom_malformed {run : Text} (malformed : Numeral.Malformed run) :
    castAtom (d.withStrictNumbers true) run = none ∧
      castAtom (d.withStrictNumbers false) run = some (.symbol run) := by
  obtain ⟨looks, word⟩ := malformed
  -- No reserved word starts like a number.
  have unreserved (w : String) (reserved : w ∈ ["nil", "true", "#t", "false", "#f"]) :
      run ≠ Text.ofString w := by
    rintro rfl
    simp only [List.mem_cons, List.not_mem_nil, or_false] at reserved
    rcases reserved with rfl | rfl | rfl | rfl | rfl <;> exact absurd looks (by decide)
  -- Past the reserved words, the run reads as no number, and the setting decides.
  have cast (b : Bool) : castAtom (d.withStrictNumbers b) run =
      if b then none else some (.symbol run) := by
    unfold castAtom
    rw [if_neg (unreserved "nil" (by simp)),
      if_neg (not_or.mpr ⟨unreserved "true" (by simp), unreserved "#t" (by simp)⟩),
      if_neg (not_or.mpr ⟨unreserved "false" (by simp), unreserved "#f" (by simp)⟩),
      Option.isNone_iff_eq_none.mp word]
    cases b <;> simp [withStrictNumbers, looks]
  exact ⟨cast true, cast false⟩

end Setting

/-- A dialect with strict numbers casts no run to a symbol that is a malformed number. -/
theorem castAtom_strict_symbol {d : Dialect} (strict : d.strictNumbers = true) {run r : Text}
    (cast : castAtom d run = some (.symbol r)) : ¬ Numeral.Malformed r := by
  -- The dialect is its own strict setting.
  replace cast : castAtom (d.withStrictNumbers true) run = some (.symbol r) := by
    rw [← strict]
    exact cast
  intro malformed
  -- A run casts only to its own symbol.
  have same : r = run := by
    rcases castAtom_cases cast with same | ⟨_, same⟩ | ⟨_, same⟩ | same
    · cases same
    · cases same
    · cases same
    · exact Atom.symbol.inj same
  rw [same] at malformed
  rw [(d.castAtom_malformed malformed).1] at cast
  cases cast

/-! ### The nodes of derived forms -/

section Nodes

variable {d : Dialect}

mutual
/-- Every node of a derived form lies within the text it is derived from. -/
theorem Expr.nodes_within {p : Nat} {x u : Text} {f : Form Span} :
    d.Expr p x u f → ∀ n ∈ f.nodes, p ≤ n.ann.start ∧ n.ann.stop ≤ p + x.length
  | .run _ _ _ _ _, n, member | .string _ _, n, member => by
    rw [Form.nodes, List.mem_singleton] at member
    subst member
    simp [Form.ann]
  | .char _ _ _ _ _ _, n, member => by
    rw [Form.nodes, List.mem_singleton] at member
    subst member
    simp only [Form.ann, List.length_append, List.length_cons]
    omega
  | @Expr.seq _ _ kind o c inner _ items opens inside closes, n, member => by
    rcases (SeqKind.mem_nodes_build kind items _).mp member with rfl | ⟨g, item, deeper⟩
    · simp only [SeqKind.ann_build, List.length_append, List.length_cons, List.length_nil]
      omega
    · -- The items lie between the brackets.
      have := Items.nodes_within inside g item n deeper
      simp only [List.length_append, List.length_cons, List.length_nil]
      omega
  | @Expr.quote _ _ q a x' _ f' quotes no_splice blanks expr, n, member => by
    rcases Form.mem_nodes_quote.mp member with rfl | rfl | deeper
    · simp only [Form.ann, List.length_append, List.length_cons]
      omega
    · simp only [Form.symbol, Form.ann, List.length_append, List.length_cons]
      omega
    · have := Expr.nodes_within expr n deeper
      simp only [List.length_append, List.length_cons]
      omega
  | @Expr.splice _ _ q s a x' _ f' quotes unquotes marks blanks expr, n, member => by
    rcases Form.mem_nodes_quote.mp member with rfl | rfl | deeper
    · simp only [Form.ann, List.length_append, List.length_cons]
      omega
    · simp only [Form.symbol, Form.ann, List.length_append, List.length_cons]
      omega
    · have := Expr.nodes_within expr n deeper
      simp only [List.length_append, List.length_cons]
      omega

/-- Every node of derived items lies within the text they are derived from. -/
theorem Items.nodes_within {p : Nat} {t u : Text} {fs : List (Form Span)} :
    d.Items p t u fs → ∀ f ∈ fs, ∀ n ∈ f.nodes, p ≤ n.ann.start ∧ n.ann.stop ≤ p + t.length
  | .nil _, f, member, _, _ => by simp at member
  | @Items.cons _ _ a x rest _ g gs _ expr items, f, member, n, node => by
    simp only [List.length_append]
    rcases List.mem_cons.mp member with same | later
    · have := Expr.nodes_within expr n (same ▸ node)
      omega
    · have := Items.nodes_within items f later n node
      omega
end

mutual
/-- A form a dialect with strict numbers derives has no symbol that is a malformed number. -/
theorem Expr.noMalformedSymbol (strict : d.strictNumbers = true) {p : Nat} {x u : Text}
    {f : Form Span} : d.Expr p x u f → f.NoMalformedSymbol
  | .run _ _ _ _ cast, run, sp, member => by
    rw [Form.nodes, List.mem_singleton] at member
    cases member
    exact castAtom_strict_symbol strict cast
  | .char _ _ _ _ _ _, run, sp, member | .string _ _, run, sp, member => by
    rw [Form.nodes, List.mem_singleton] at member
    cases member
  | @Expr.seq _ _ kind o c inner _ items opens inside closes, run, sp, member => by
    rcases (SeqKind.mem_nodes_build kind items _).mp member with same | ⟨g, item, deeper⟩
    · cases kind <;> cases same
    · exact Items.noMalformedSymbol strict inside g item run sp deeper
  | .quote _ _ _ expr, run, sp, member => by
    rcases Form.mem_nodes_quote.mp member with same | same | deeper
    · cases same
    · cases same
      exact QuoteKind.name_not_malformed _
    · exact Expr.noMalformedSymbol strict expr run sp deeper
  | .splice _ _ _ _ expr, run, sp, member => by
    rcases Form.mem_nodes_quote.mp member with same | same | deeper
    · cases same
    · cases same
      exact QuoteKind.name_not_malformed _
    · exact Expr.noMalformedSymbol strict expr run sp deeper

/-- Items a dialect with strict numbers derives have no symbol that is a malformed number. -/
theorem Items.noMalformedSymbol (strict : d.strictNumbers = true) {p : Nat} {t u : Text}
    {fs : List (Form Span)} : d.Items p t u fs → ∀ f ∈ fs, f.NoMalformedSymbol
  | .nil _, f, member => by simp at member
  | .cons _ expr items, f, member => by
    rcases List.mem_cons.mp member with same | later
    · exact same ▸ Expr.noMalformedSymbol strict expr
    · exact Items.noMalformedSymbol strict items f later
end

end Nodes

/-! ### Where the two settings part -/

/-- Where a read of the strict setting and the same read of the lenient setting from the scan `s`
part: nowhere, or at a malformed number at `p`, past the text `w` at the front of `s` that `path`
allows on the way there, where the strict read stops and which the lenient read takes as a symbol
and passes. -/
def Agrees (d : Dialect) (path : Text → Text → Prop) (s : Scan)
    (loose strict : Except Fault (Form Span × Scan)) : Prop :=
  strict = loose ∨
    ∃ p run u w, strict = .error (.invalid ⟨.malformedNumericLiteral, p, [.number]⟩) ∧
      Numeral.Malformed run ∧ s.rest = w ++ (run ++ u) ∧ p = s.point + w.length ∧
      path w (run ++ u) ∧
      (d.withStrictNumbers false).Expr p run u (.atom (.symbol run) ⟨p, p + run.length⟩) ∧
      PassesSymbol p run loose

/-- Agreement from a later scan, past the text `a`, is agreement from an earlier one, along a path
that leads on through `a`. -/
theorem Agrees.lead {d : Dialect} {path path' : Text → Text → Prop} {s t : Scan} {a : Text}
    {loose strict : Except Fault (Form Span × Scan)} (split : s.rest = a ++ t.rest)
    (moved : t.point = s.point + a.length)
    (extend : ∀ w v, t.rest = w ++ v → path w v → path' (a ++ w) v) :
    d.Agrees path t loose strict → d.Agrees path' s loose strict
  | .inl same => .inl same
  | .inr ⟨p, run, u, w, stops, malformed, ahead, at_p, along, expr, passes⟩ =>
    .inr ⟨p, run, u, a ++ w, stops, malformed, by rw [split, ahead, List.append_assoc],
      by rw [at_p, moved, List.length_append, Nat.add_assoc], extend w _ ahead along, expr, passes⟩

/-- Agreement along a path is agreement along any path it leads to. -/
theorem Agrees.mono {d : Dialect} {path path' : Text → Text → Prop} {s : Scan}
    {loose strict : Except Fault (Form Span × Scan)} (widen : ∀ w v, path w v → path' w v) :
    d.Agrees path s loose strict → d.Agrees path' s loose strict :=
  Agrees.lead (a := []) rfl (by simp) fun w v _ along => widen w v along

/-- A strict read that succeeds is the lenient read: only a failure of the strict read is not. -/
theorem Agrees.eq_of_ok {d : Dialect} {path : Text → Text → Prop} {s : Scan}
    {loose : Except Fault (Form Span × Scan)} {read : Form Span × Scan}
    (agrees : d.Agrees path s loose (.ok read)) : loose = .ok read := by
  rcases agrees with same | ⟨p, run, u, w, stops, -⟩
  · exact same.symm
  · cases stops

/-- Agreeing reads mapped alike agree, when the map keeps the symbol a read passes. -/
theorem Agrees.map {d : Dialect} {path : Text → Text → Prop} {s : Scan}
    {loose strict : Except Fault (Form Span × Scan)} {g : Form Span × Scan → Form Span × Scan}
    (keeps : ∀ p run read, PassesSymbol p run (.ok read) → PassesSymbol p run (.ok (g read))) :
    d.Agrees path s loose strict → d.Agrees path s (loose.map g) (strict.map g)
  | .inl same => .inl (by rw [same])
  | .inr ⟨p, run, u, w, stops, malformed, ahead, at_p, along, expr, passes⟩ => by
    refine .inr ⟨p, run, u, w, by rw [stops]; rfl, malformed, ahead, at_p, along, expr, ?_⟩
    cases loose with
    | error fault => exact passes
    | ok read => exact keeps p run read passes

/-- Agreement after the atmosphere in front of a scan that has more is agreement from the scan,
along a way that leads on through that atmosphere. -/
theorem Agrees.skipped {d : Dialect} {path' : Text → Text → Prop} {s : Scan}
    {loose strict : Except Fault (Form Span × Scan)} (path : Nat → Text → Text → Prop)
    (some_left : (d.skipAtmosphere s).rest ≠ [])
    (extend : ∀ a w v, (d.withStrictNumbers true).Atmosphere a → path (s.point + a.length) w v →
      path' (a ++ w) v) :
    d.Agrees (path (d.skipAtmosphere s).point) (d.skipAtmosphere s) loose strict →
      d.Agrees path' s loose strict := by
  obtain ⟨a, split, blanks, moved⟩ :=
    (d.withStrictNumbers true).skipAtmosphere_front s (by simpa using some_left)
  simp only [skipAtmosphere_withStrictNumbers] at split moved
  refine Agrees.lead split moved fun w v _ along => extend a w v blanks ?_
  rwa [← moved]

/-- A run of constituents read by both settings, which part, if at all, right where the run
starts. -/
theorem readRun_agrees (d : Dialect) {b : Nat} {t : Scan} {c : CodePoint} {rest : Text}
    (front : t.rest = c :: rest) (plain : d.categoryOf c = .constituent)
    (no_char : ¬ d.CharLiteralAt t.rest) :
    d.Agrees ((d.withStrictNumbers true).BegunWithin b t.point) t
      (((d.withStrictNumbers false).readRun t c rest front).map Step.out |>.mapError
        Fault.invalid)
      (((d.withStrictNumbers true).readRun t c rest front).map Step.out |>.mapError
        Fault.invalid) := by
  unfold readRun
  simp only [isConstituent_withStrictNumbers]
  by_cases malformed : Numeral.Malformed (c :: rest.takeWhile d.isConstituent)
  · -- The strict setting stops at the run; the lenient one reads it as a symbol.
    obtain ⟨refused, symbol⟩ := d.castAtom_malformed malformed
    have split : t.rest = (c :: rest.takeWhile d.isConstituent) ++ rest.dropWhile d.isConstituent := by
      simp [front]
    refine .inr ⟨t.point, _, rest.dropWhile d.isConstituent, [], ?_, malformed, split, rfl, .none,
      .run (List.cons_ne_nil _ _) (d.run_constituents plain rest) (d.stopsRun_dropWhile rest)
        (by rwa [← split]) symbol, ?_⟩
    · simp [refused]
      rfl
    · simp only [symbol, Except.map, Except.mapError, Step.out, PassesSymbol]
      refine ⟨?_, Form.mem_nodes_self _, Form.malformedFrom_atom⟩
      simp only [Scan.advance, List.length_cons, front]
      omega
  · -- Both cast the run alike.
    left
    rw [d.castAtom_withStrictNumbers true malformed]

/-- An atom read by both settings. -/
theorem readAtom_agrees (d : Dialect) {b : Nat} {t : Scan} {c : CodePoint} {rest : Text}
    (front : t.rest = c :: rest) (plain : d.categoryOf c = .constituent) :
    d.Agrees ((d.withStrictNumbers true).BegunWithin b t.point) t
      (((d.withStrictNumbers false).readAtom t c rest front).map Step.out |>.mapError
        Fault.invalid)
      (((d.withStrictNumbers true).readAtom t c rest front).map Step.out |>.mapError
        Fault.invalid) := by
  -- Both settings start a char literal at the same scans.
  have same (b : Bool) : ((d.withStrictNumbers b).readAtom t c rest front) =
      if d.CharLiteralAt t.rest then
        d.readChar t ((d.charPrefix).getD []) else (d.withStrictNumbers b).readRun t c rest front := by
    rcases (d.withStrictNumbers b).readAtom_cases front with
      ⟨pfx, reads, named, leads, by_char⟩ | ⟨no_char, by_run⟩
    · have named' : d.charPrefix = some pfx := named
      rw [if_pos ⟨reads, pfx, named', leads⟩, by_char, named', Option.getD_some,
        readChar_withStrictNumbers]
    · rw [if_neg (show ¬ d.CharLiteralAt t.rest from no_char), by_run]
  rw [same, same]
  by_cases reaches : d.CharLiteralAt t.rest
  · rw [if_pos reaches, if_pos reaches]
    exact .inl rfl
  · rw [if_neg reaches, if_neg reaches]
    exact d.readRun_agrees front plain reaches

/-- Agreeing first reads, each followed by a read that agrees when they read alike and that passes
the symbol the first passed, agree. -/
theorem Agrees.bind {d : Dialect} {path : Text → Text → Prop} {s : Scan}
    {loose strict : Except Fault (Step s)} {next next' : Step s → Except Fault (Form Span × Scan)}
    (first : d.Agrees path s (loose.map Step.out) (strict.map Step.out))
    (alike : ∀ step step', loose = .ok step → strict = .ok step' → step'.out = step.out →
      d.Agrees path s (next step) (next' step'))
    (keeps : ∀ step p run, loose = .ok step → PassesSymbol p run (.ok step.out) →
      PassesSymbol p run (next step)) :
    d.Agrees path s (loose.bind next) (strict.bind next') := by
  cases loose with
  | error fault =>
    cases strict with
    | error fault' => exact first
    | ok step' => cases first.eq_of_ok
  | ok step =>
    cases strict with
    | error fault' =>
      rcases first with same | ⟨p, run, u, w, stops, malformed, ahead, at_p, along, expr, passes⟩
      · cases same
      · exact .inr ⟨p, run, u, w, by cases stops; rfl, malformed, ahead, at_p, along, expr,
          keeps step p run rfl passes⟩
    | ok step' => exact alike step step' rfl rfl (Except.ok.inj first.eq_of_ok).symm

/-- A quote reads its form one level deeper and lists it after the quote's head symbol. -/
theorem readQuoted_operand_out (d : Dialect) (depth : Nat) (t : Scan) (c : CodePoint)
    (rest : Text) (front : t.rest = c :: rest) {s : Scan} (skipped : t.rest.length ≤ s.rest.length)
    (operand : d.endsOrCloses (d.afterQuotePrefix t c rest).rest = false) :
    (d.readQuoted (depth + 1) t c rest front skipped).map Step.out =
      ((d.readForm depth [.expression] (d.afterQuotePrefix t c rest)).map Step.out).map fun read =>
        (.list [Form.symbol (d.quotePrefixAt c rest).1.name
            ⟨t.point, t.point + (d.quotePrefixAt c rest).2⟩, read.1] ⟨t.point, read.2.point⟩,
          read.2) := by
  rw [d.readQuoted_operand depth t c rest front skipped operand]
  cases d.readForm depth [.expression] (d.afterQuotePrefix t c rest) <;> rfl

/-- A form read from equal scans is the same read. -/
theorem readFormAt_scan_congr (d : Dialect) (depth : Nat) (expected : List Expectation)
    {s t t' : Scan} (same : t = t') (skipped : t.rest.length ≤ s.rest.length)
    (skipped' : t'.rest.length ≤ s.rest.length) :
    d.readFormAt depth expected t skipped = d.readFormAt depth expected t' skipped' := by
  subst same
  rfl

/-- Items read from equal scans are the same read. -/
theorem readItemsAt_scan_congr (d : Dialect) (depth : Nat) (kind : SeqKind) (start : Nat)
    (items : List (Form Span)) {s t t' : Scan} (same : t = t')
    (skipped : t.rest.length ≤ s.rest.length) (skipped' : t'.rest.length ≤ s.rest.length) :
    d.readItemsAt depth kind start items t skipped =
      d.readItemsAt depth kind start items t' skipped' := by
  subst same
  rfl

/-- Items read through their closer end past their start and keep the item read before them; a
symbol in the sequence they close is a node of an item read before, or starts where they do or
later. -/
theorem readItems_nodes (d : Dialect) {depth : Nat} {kind : SeqKind} {start : Nat} {f : Form Span}
    {items : List (Form Span)} {s : Scan} {step : Step s}
    (read : d.readItems depth kind start (f :: items) s = .ok step) :
    s.point < step.next.point ∧ (∀ m ∈ f.nodes, m ∈ step.form.nodes) ∧
      ∀ run sp, Form.atom (.symbol run) sp ∈ step.form.nodes →
        (∃ g ∈ f :: items, Form.atom (.symbol run) sp ∈ g.nodes) ∨ s.point ≤ sp.start := by
  obtain ⟨inner, c, more, -, moved, inside, -, -, built⟩ :=
    readItems_sound_within (d.soundBelow (s.rest.length + 1)) (Nat.le_succ _) read
  refine ⟨by omega, fun m member => ?_, fun run sp member => ?_⟩
  · rw [built, SeqKind.mem_nodes_build]
    exact .inr ⟨f, by simp, member⟩
  · rw [built, SeqKind.mem_nodes_build] at member
    rcases member with same | ⟨g, item, deeper⟩
    · cases kind <;> cases same
    · -- An item read before, or one of the items read here, which lie where they start or later.
      rcases List.mem_append.mp item with earlier | later
      · exact .inl ⟨g, List.mem_reverse.mp earlier, deeper⟩
      · exact .inr (Items.nodes_within inside g later _ deeper).1

/-- Items read after an item that passed the symbol at `p`, after items with no malformed symbol,
pass it too: the sequence they close holds it, with no malformed symbol before it, or they fail
further on. -/
theorem readItems_passes (d : Dialect) {depth : Nat} {kind : SeqKind} {start : Nat}
    {items : List (Form Span)} {f : Form Span} {s : Scan} {p : Nat} {run : Text}
    (clean : ∀ g ∈ items, g.NoMalformedSymbol) (passes : PassesSymbol p run (.ok (f, s))) :
    PassesSymbol p run ((d.readItems depth kind start (f :: items) s).map Step.out) := by
  obtain ⟨ahead, node, from_p⟩ := passes
  cases more : d.readItems depth kind start (f :: items) s with
  | ok step =>
    obtain ⟨further, keeps, within⟩ := d.readItems_nodes more
    refine ⟨by omega, keeps _ node, fun r sp member malformed => ?_⟩
    -- A malformed symbol in the sequence is in the item, or comes after it: none is before.
    rcases within r sp member with ⟨g, item, deeper⟩ | after
    · rcases List.mem_cons.mp item with rfl | earlier
      · exact from_p r sp deeper malformed
      · exact absurd malformed (clean g earlier r sp deeper)
    · omega
  | error fault =>
    cases fault with
    | invalid e =>
      have := d.readItems_fault_point more
      show p < e.point
      omega
    | tooDeep => trivial

/-- A quote prefix and the atmosphere after it lie in front of what the quote reads its form from;
what that form begins within `b` levels, the quote begins within one more. -/
theorem BegunWithin.quoted (d : Dialect) {b : Nat} {t : Scan} {c : CodePoint} {rest : Text}
    (front : t.rest = c :: rest) (quotes : d.categoryOf c = .quotePrefix)
    (some_left : (d.afterQuotePrefix t c rest).rest ≠ []) :
    ∃ y, t.rest = y ++ (d.afterQuotePrefix t c rest).rest ∧
      (d.afterQuotePrefix t c rest).point = t.point + y.length ∧
      ∀ w v, (d.afterQuotePrefix t c rest).rest = w ++ v →
        d.PendingWithin b (d.afterQuotePrefix t c rest).point w v [] →
          d.BegunWithin (b + 1) t.point (y ++ w) v := by
  -- Something is left after the atmosphere, which is then plain atmosphere.
  obtain ⟨a, skipped, blanks, moved⟩ :
      ∃ a, (t.advance (d.quotePrefixAt c rest).2).rest = a ++ (d.afterQuotePrefix t c rest).rest ∧
        d.Atmosphere a ∧
        (d.afterQuotePrefix t c rest).point = (t.advance (d.quotePrefixAt c rest).2).point + a.length :=
    d.skipAtmosphere_front _ some_left
  rw [moved]
  rcases d.quotePrefixAt_cases c rest with ⟨m, more, rfl, unquotes, marks, splice⟩ | ⟨plain, single⟩
  · -- The unquote prefix and the splice mark, two code points wide.
    have two : t.advance 2 = ⟨t.point + 2, more⟩ :=
      t.advance_append (show t.rest = [c, m] ++ more by simp [front])
    rw [splice, two] at skipped ⊢
    dsimp only at skipped ⊢
    refine ⟨c :: m :: a, by rw [front]; exact congrArg (fun r => c :: m :: r) skipped, by simp; omega,
      fun w v _ pending => ?_⟩
    exact .splice quotes unquotes marks (pending.atmosphere_prepend blanks)
  · -- A prefix of one code point, which does not splice with the text after it.
    rw [single, t.advance_one front] at skipped ⊢
    dsimp only at skipped ⊢
    refine ⟨c :: a, by rw [front]; exact congrArg (List.cons c) skipped, by simp; omega,
      fun w v split pending => ?_⟩
    refine .quote quotes ?_ (pending.atmosphere_prepend blanks)
    show ¬ d.SplicesAt c (a ++ w ++ v)
    rwa [List.append_assoc, ← split, ← skipped]

/-! ### Each reading function, given the shorter scans -/

/-- The two settings part only at malformed numbers, at every scan with fewer than `n` code points
left: the hypothesis the induction carries. Where they part, the strict setting has passed over
atmosphere and constructs it opens within the nesting it was given, and, reading items, over
complete items before them. -/
structure AgreesBelow (d : Dialect) (n : Nat) : Prop where
  /-- Forms read after atmosphere part only at malformed numbers. -/
  form {depth : Nat} {expected : List Expectation} {s : Scan} : s.rest.length < n →
    d.Agrees (fun w v => (d.withStrictNumbers true).PendingWithin depth s.point w v []) s
      (((d.withStrictNumbers false).readForm depth expected s).map Step.out)
      (((d.withStrictNumbers true).readForm depth expected s).map Step.out)
  /-- Items read after atmosphere, after items with no malformed symbol, part only at malformed
  numbers. -/
  items {depth : Nat} {kind : SeqKind} {start : Nat} {items : List (Form Span)} {s : Scan} :
    s.rest.length < n → (∀ g ∈ items, g.NoMalformedSymbol) →
      d.Agrees (fun w v => ∃ fs, (d.withStrictNumbers true).PendingWithin depth s.point w v fs) s
        (((d.withStrictNumbers false).readItems depth kind start items s).map Step.out)
        (((d.withStrictNumbers true).readItems depth kind start items s).map Step.out)

section Below

variable {d : Dialect} {n : Nat} (ih : d.AgreesBelow n)
include ih

/-- A sequence read by both settings. -/
theorem readSeq_agrees {depth : Nat} {kind : SeqKind} {t s : Scan} {some_left : t.rest ≠ []}
    {skipped : t.rest.length ≤ s.rest.length} {o : CodePoint} {rest : Text}
    (len : t.rest.length ≤ n) (front : t.rest = o :: rest) (opens : d.categoryOf o = kind.opener) :
    d.Agrees ((d.withStrictNumbers true).BegunWithin depth t.point) t
      (((d.withStrictNumbers false).readSeq depth kind t some_left skipped).map Step.out)
      (((d.withStrictNumbers true).readSeq depth kind t some_left skipped).map Step.out) := by
  cases depth with
  | zero =>
    rw [readSeq_tooDeep, readSeq_tooDeep]
    exact .inl rfl
  | succ depth =>
    rw [readSeq_items, readSeq_items]
    -- The items are read past the opener, with less left, one level deeper.
    have shorter : (t.advance 1).rest.length < n := by
      have := t.advance_shorter Nat.one_pos some_left
      omega
    have past := t.advance_one front
    refine (ih.items shorter (by simp)).lead (a := [o]) ?_ ?_ fun w v _ ⟨fs, pending⟩ => ?_
    · rw [past]
      exact front
    · rw [past]
      rfl
    · rw [past] at pending
      exact .seq opens pending

/-- A quote read by both settings. -/
theorem readQuoted_agrees {depth : Nat} {t s : Scan} {c : CodePoint} {rest : Text}
    {front : t.rest = c :: rest} {skipped : t.rest.length ≤ s.rest.length}
    (len : t.rest.length ≤ n) (quotes : d.categoryOf c = .quotePrefix) :
    d.Agrees ((d.withStrictNumbers true).BegunWithin depth t.point) t
      (((d.withStrictNumbers false).readQuoted depth t c rest front skipped).map Step.out)
      (((d.withStrictNumbers true).readQuoted depth t c rest front skipped).map Step.out) := by
  cases operand : d.endsOrCloses (d.afterQuotePrefix t c rest).rest with
  | true =>
    rw [readQuoted_dangling (d.withStrictNumbers false) _ _ _ _ _ _ (by simpa using operand),
      readQuoted_dangling (d.withStrictNumbers true) _ _ _ _ _ _ (by simpa using operand)]
    exact .inl (by simp)
  | false =>
  cases depth with
  | zero =>
    rw [readQuoted_tooDeep (d.withStrictNumbers false) _ _ _ _ _ (by simpa using operand),
      readQuoted_tooDeep (d.withStrictNumbers true) _ _ _ _ _ (by simpa using operand)]
    exact .inl rfl
  | succ depth =>
    rw [readQuoted_operand_out (d.withStrictNumbers false) _ _ _ _ _ _ (by simpa using operand),
      readQuoted_operand_out (d.withStrictNumbers true) _ _ _ _ _ _ (by simpa using operand),
      afterQuotePrefix_withStrictNumbers, afterQuotePrefix_withStrictNumbers]
    simp only [quotePrefixAt_withStrictNumbers]
    -- The quoted form is read past the prefix, with less left; the quote holds what it holds.
    have shorter : (d.afterQuotePrefix t c rest).rest.length < n := by
      have := d.afterQuotePrefix_shorter t c rest front
      omega
    have some_left : (d.afterQuotePrefix t c rest).rest ≠ [] := by
      intro empty
      simp [empty, endsOrCloses] at operand
    -- The strict setting passes over the prefix and its atmosphere on its way into the form.
    obtain ⟨y, split, moved, extend⟩ := BegunWithin.quoted (d.withStrictNumbers true) (b := depth)
      front quotes (by simpa using some_left)
    simp only [afterQuotePrefix_withStrictNumbers] at split moved extend
    refine Agrees.map (fun p run read passes => ⟨passes.1, ?_, ?_⟩)
      ((ih.form shorter).lead split moved extend)
    · exact Form.mem_nodes_quote.mpr (.inr (.inr passes.2.1))
    · exact Form.malformedFrom_quote (QuoteKind.name_not_malformed _) passes.2.2

/-- A form read by both settings from the front of a scan no atmosphere starts. -/
theorem readFormAt_agrees {depth : Nat} {expected : List Expectation} {t s : Scan}
    {skipped : t.rest.length ≤ s.rest.length} (len : t.rest.length ≤ n)
    (ends : d.AtmosphereEnds t.rest) :
    d.Agrees ((d.withStrictNumbers true).BegunWithin depth t.point) t
      (((d.withStrictNumbers false).readFormAt depth expected t skipped).map Step.out)
      (((d.withStrictNumbers true).readFormAt depth expected t skipped).map Step.out) := by
  cases front : t.rest with
  | nil =>
    rw [readFormAt_nil (d.withStrictNumbers false) _ _ _ _ front,
      readFormAt_nil (d.withStrictNumbers true) _ _ _ _ front]
    exact .inl rfl
  | cons c rest =>
  rw [front] at ends
  -- The category of the code point in front picks the same branch for both.
  cases category : d.categoryOf c with
  | listOpen =>
    rw [readFormAt_listOpen (d.withStrictNumbers false) _ _ _ _ front category,
      readFormAt_listOpen (d.withStrictNumbers true) _ _ _ _ front category]
    exact readSeq_agrees ih len front (show d.categoryOf c = SeqKind.list.opener from category)
  | vectorOpen =>
    rw [readFormAt_vectorOpen (d.withStrictNumbers false) _ _ _ _ front category,
      readFormAt_vectorOpen (d.withStrictNumbers true) _ _ _ _ front category]
    exact readSeq_agrees ih len front (show d.categoryOf c = SeqKind.vector.opener from category)
  | listClose | vectorClose =>
    rw [readFormAt_closer (d.withStrictNumbers false) _ _ _ _ front
        (by simp [category, Category.isCloser]),
      readFormAt_closer (d.withStrictNumbers true) _ _ _ _ front
        (by simp [category, Category.isCloser])]
    exact .inl rfl
  | quotePrefix =>
    rw [readFormAt_quotePrefix (d.withStrictNumbers false) _ _ _ _ front category,
      readFormAt_quotePrefix (d.withStrictNumbers true) _ _ _ _ front category]
    exact readQuoted_agrees ih len category
  | stringDelimiter =>
    rw [readFormAt_string (d.withStrictNumbers false) _ _ _ _ front category,
      readFormAt_string (d.withStrictNumbers true) _ _ _ _ front category,
      readString_withStrictNumbers, readString_withStrictNumbers]
    exact .inl rfl
  | constituent =>
    rw [readFormAt_atom (d.withStrictNumbers false) _ _ _ _ front category,
      readFormAt_atom (d.withStrictNumbers true) _ _ _ _ front category]
    exact d.readAtom_agrees front category
  | blank => exact absurd category ends.1
  | commentStart => exact absurd category ends.2

/-- Items read by both settings from the front of a scan no atmosphere starts. -/
theorem readItemsAt_agrees {depth : Nat} {kind : SeqKind} {start : Nat} {items : List (Form Span)}
    {t s : Scan} {skipped : t.rest.length ≤ s.rest.length} (len : t.rest.length ≤ n)
    (ends : d.AtmosphereEnds t.rest) (clean : ∀ g ∈ items, g.NoMalformedSymbol) :
    d.Agrees (fun w v => ∃ fs, (d.withStrictNumbers true).PendingWithin depth t.point w v fs) t
      (((d.withStrictNumbers false).readItemsAt depth kind start items t skipped).map Step.out)
      (((d.withStrictNumbers true).readItemsAt depth kind start items t skipped).map Step.out) := by
  cases front : t.rest with
  | nil =>
    rw [readItemsAt_nil (d.withStrictNumbers false) _ _ _ _ _ _ front,
      readItemsAt_nil (d.withStrictNumbers true) _ _ _ _ _ _ front]
    exact .inl rfl
  | cons c rest =>
  by_cases closes : d.categoryOf c = kind.closer
  · rw [readItemsAt_close (d.withStrictNumbers false) _ _ _ _ _ _ front closes,
      readItemsAt_close (d.withStrictNumbers true) _ _ _ _ _ _ front closes]
    exact .inl rfl
  cases closer : (d.categoryOf c).isCloser with
  | true =>
    rw [readItemsAt_mismatched (d.withStrictNumbers false) _ _ _ _ _ _ front closes
        (by simp [closer]),
      readItemsAt_mismatched (d.withStrictNumbers true) _ _ _ _ _ _ front closes
        (by simp [closer])]
    exact .inl rfl
  | false =>
    rw [readItemsAt_item (d.withStrictNumbers false) _ _ _ _ _ _ front closer,
      readItemsAt_item (d.withStrictNumbers true) _ _ _ _ _ _ front closer]
    -- The item is read from the same scan by both; the items after it from a shorter one.
    have ends' : d.AtmosphereEnds t.rest := front ▸ ends
    -- The lenient item passed the symbol, and so do the items after it.
    refine Agrees.bind ((readFormAt_agrees ih len ends').mono fun w v begun => ⟨[], begun.pending⟩)
      (fun step step' read read' same => ?_)
      (fun step p run _ passes => (d.withStrictNumbers false).readItems_passes clean passes)
    -- Alike items: the rest is read alike past the item, which the strict setting read.
    have form : step'.form = step.form := congrArg Prod.fst same
    have next : step'.next = step.next := congrArg Prod.snd same
    rw [form, next]
    have shorter : step.next.rest.length < n := by
      have := step.shorter
      omega
    obtain ⟨⟨x, split, moved, expr⟩, bounded⟩ :=
      readFormAt_sound ((d.withStrictNumbers true).soundBelow n) len ends' read'
    rw [next] at split moved
    rw [form, next] at expr
    rw [form] at bounded
    have clean' : ∀ g ∈ step.form :: items, g.NoMalformedSymbol := by
      intro g member
      rcases List.mem_cons.mp member with rfl | earlier
      · exact Expr.noMalformedSymbol rfl expr
      · exact clean g earlier
    -- The strict setting passes over the item, within the nesting left, on its way further.
    refine (ih.items shorter clean').lead split moved fun w v after ⟨fs, pending⟩ => ?_
    rw [moved] at pending
    exact ⟨step.form :: fs, PendingWithin.cons (after ▸ expr) bounded pending⟩

/-- A form read by both settings after atmosphere. -/
theorem readForm_agrees_within {depth : Nat} {expected : List Expectation} {s : Scan}
    (len : s.rest.length ≤ n) :
    d.Agrees (fun w v => (d.withStrictNumbers true).PendingWithin depth s.point w v []) s
      (((d.withStrictNumbers false).readForm depth expected s).map Step.out)
      (((d.withStrictNumbers true).readForm depth expected s).map Step.out) := by
  rw [readForm_eq, readForm_eq,
    readFormAt_scan_congr _ _ _ (d.skipAtmosphere_withStrictNumbers false s) _
      (d.skipAtmosphere_length_le s),
    readFormAt_scan_congr _ _ _ (d.skipAtmosphere_withStrictNumbers true s) _
      (d.skipAtmosphere_length_le s)]
  have skipped := d.skipAtmosphere_length_le s
  by_cases empty : (d.skipAtmosphere s).rest = []
  · rw [readFormAt_nil (d.withStrictNumbers false) _ _ _ _ empty,
      readFormAt_nil (d.withStrictNumbers true) _ _ _ _ empty]
    exact .inl rfl
  -- The strict setting passes over the atmosphere in front of what the form begins.
  exact (readFormAt_agrees ih (by omega) (d.skipAtmosphere_ends s)).skipped
    ((d.withStrictNumbers true).BegunWithin depth) empty
    fun a w v blanks begun => begun.pending.atmosphere_prepend blanks

/-- Items read by both settings after atmosphere. -/
theorem readItems_agrees_within {depth : Nat} {kind : SeqKind} {start : Nat}
    {items : List (Form Span)} {s : Scan} (len : s.rest.length ≤ n)
    (clean : ∀ g ∈ items, g.NoMalformedSymbol) :
    d.Agrees (fun w v => ∃ fs, (d.withStrictNumbers true).PendingWithin depth s.point w v fs) s
      (((d.withStrictNumbers false).readItems depth kind start items s).map Step.out)
      (((d.withStrictNumbers true).readItems depth kind start items s).map Step.out) := by
  rw [readItems_eq, readItems_eq,
    readItemsAt_scan_congr _ _ _ _ _ (d.skipAtmosphere_withStrictNumbers false s) _
      (d.skipAtmosphere_length_le s),
    readItemsAt_scan_congr _ _ _ _ _ (d.skipAtmosphere_withStrictNumbers true s) _
      (d.skipAtmosphere_length_le s)]
  have skipped := d.skipAtmosphere_length_le s
  by_cases empty : (d.skipAtmosphere s).rest = []
  · rw [readItemsAt_nil (d.withStrictNumbers false) _ _ _ _ _ _ empty,
      readItemsAt_nil (d.withStrictNumbers true) _ _ _ _ _ _ empty]
    exact .inl rfl
  -- The strict setting passes over the atmosphere in front of the items.
  exact (readItemsAt_agrees ih (by omega) (d.skipAtmosphere_ends s) clean).skipped
    (fun point w v => ∃ fs, (d.withStrictNumbers true).PendingWithin depth point w v fs) empty fun a w v blanks ⟨fs, pending⟩ => ⟨fs, pending.atmosphere_prepend blanks⟩

end Below

/-- The two settings part only at malformed numbers, at every scan. -/
theorem agreesBelow (d : Dialect) : ∀ n, d.AgreesBelow n
  | 0 => ⟨fun short => absurd short (Nat.not_lt_zero _),
      fun short _ => absurd short (Nat.not_lt_zero _)⟩
  | n + 1 =>
    have ih := d.agreesBelow n
    ⟨fun short => readForm_agrees_within ih (Nat.lt_succ_iff.mp short),
      fun short clean => readItems_agrees_within ih (Nat.lt_succ_iff.mp short) clean⟩

end Dialect

end LispReader

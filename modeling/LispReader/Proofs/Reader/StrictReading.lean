import LispReader.Proofs.Reader.Strict
import LispReader.Proofs.Reader.Nesting

/-! Whole readings with strict numbers against lenient ones. Form by form the two settings read
alike until the strict one reaches a run of constituents that starts like a number and is none:
there it stops with a malformed number, after the forms the lenient reading read before the form
holding that run, which the lenient reading takes as a symbol. The text before the run is the way
the strict setting took there: complete forms and open constructs, all within the nesting limit.
So a strict reading never holds such a symbol, and it reads a source to its end exactly when the
lenient one does with none. -/

namespace LispReader

namespace Dialect

/-- The strict reading from `s`, after the forms `read` read before it, the last first, stops at a
malformed number the lenient reading passes. It has the first `k` forms of the lenient reading and
the fault of a malformed number at `p`, which the strict setting reaches past the text `w` at the
front of `s`: the complete forms it adds to `read`, each within the limit, atmosphere, and
constructs opened within the limit. The lenient setting derives the run at `p` as a symbol; the
lenient reading has that symbol in its form `k`, with no malformed symbol before it there, or fails
past `p` with no more forms. -/
def StopsInRead (d : Dialect) (limit : Nat) (s : Scan) (read : List (Form Span))
    (loose strict : Reading) : Prop :=
  ∃ k p run u w fs,
    strict = ⟨loose.forms.take k, some (.invalid ⟨.malformedNumericLiteral, p, [.number]⟩)⟩ ∧
    loose.forms.take k = read.reverse ++ fs ∧
    Numeral.Malformed run ∧ s.rest = w ++ (run ++ u) ∧ p = s.point + w.length ∧
    (d.withStrictNumbers true).PendingWithin limit s.point w (run ++ u) fs ∧
    (d.withStrictNumbers false).Expr p run u (.atom (.symbol run) ⟨p, p + run.length⟩) ∧
    ((∃ f, loose.forms[k]? = some f ∧ Form.atom (.symbol run) ⟨p, p + run.length⟩ ∈ f.nodes ∧
        f.MalformedFrom p) ∨
      (loose.forms.length = k ∧ ∃ fault, loose.fault = some fault ∧ fault.StopsAfter p))

/-- Stopping ahead of the scan after a form the strict setting read within the limit is stopping
ahead of the scan before it, with the form among those before the stop. -/
theorem StopsInRead.cons {d : Dialect} {limit : Nat} {s next : Scan} {read : List (Form Span)}
    {f : Form Span} {loose strict : Reading}
    (reads : (d.withStrictNumbers true).ReadsAfter s f next) (bounded : f.depth ≤ limit) :
    d.StopsInRead limit next (f :: read) loose strict → d.StopsInRead limit s read loose strict
  | ⟨k, p, run, u, w, fs, stops, before, malformed, ahead, at_p, pending, expr, passes⟩ => by
    obtain ⟨a, x, split, moved, blanks, expr'⟩ := reads
    refine ⟨k, p, run, u, a ++ x ++ w, f :: fs, stops, by simp [before], malformed,
      by simp [split, ahead], by rw [at_p, moved]; simp; omega, ?_, expr, passes⟩
    -- Atmosphere, the form, and what the strict setting passes over after it.
    rw [moved] at pending
    rw [ahead] at expr'
    rw [List.append_assoc]
    exact (PendingWithin.cons expr' bounded pending).atmosphere_prepend blanks

/-- A strict reading with one more form read before it stops where the lenient one passes. -/
theorem StopsInRead.of_item (d : Dialect) (limit : Nat) {s t : Scan} {read : List (Form Span)}
    {f : Form Span} {p : Nat} {run u w : Text} (malformed : Numeral.Malformed run)
    (ahead : s.rest = w ++ (run ++ u)) (at_p : p = s.point + w.length)
    (pending : (d.withStrictNumbers true).PendingWithin limit s.point w (run ++ u) [])
    (expr : (d.withStrictNumbers false).Expr p run u (.atom (.symbol run) ⟨p, p + run.length⟩))
    (node : Form.atom (.symbol run) ⟨p, p + run.length⟩ ∈ f.nodes) (from_p : f.MalformedFrom p) :
    d.StopsInRead limit s read ((d.withStrictNumbers false).readFrom limit t (f :: read))
      ⟨read.reverse, some (.invalid ⟨.malformedNumericLiteral, p, [.number]⟩)⟩ := by
  -- The lenient reading goes on after the form, whose place in it is after those read before.
  have later := (d.withStrictNumbers false).readFrom_append limit t [] (f :: read)
  rw [List.nil_append] at later
  refine ⟨read.length, p, run, u, w, [], ?_, ?_, malformed, ahead, at_p, pending, expr,
    .inl ⟨f, ?_, node, from_p⟩⟩
  · rw [later]
    simp
  · rw [later]
    simp
  · rw [later]
    simp

/-- A strict reading that stops at a malformed number, where the lenient one stops past it. -/
theorem StopsInRead.of_fault (d : Dialect) {limit : Nat} {s : Scan} {read : List (Form Span)}
    {fault : Fault} {p : Nat} {run u w : Text} (malformed : Numeral.Malformed run)
    (ahead : s.rest = w ++ (run ++ u)) (at_p : p = s.point + w.length)
    (pending : (d.withStrictNumbers true).PendingWithin limit s.point w (run ++ u) [])
    (expr : (d.withStrictNumbers false).Expr p run u (.atom (.symbol run) ⟨p, p + run.length⟩))
    (past : fault.StopsAfter p) :
    d.StopsInRead limit s read ⟨read.reverse, some fault⟩
      ⟨read.reverse, some (.invalid ⟨.malformedNumericLiteral, p, [.number]⟩)⟩ :=
  ⟨read.length, p, run, u, w, [], by simp [List.take_of_length_le], by simp [List.take_of_length_le],
    malformed, ahead, at_p, pending, expr, .inr ⟨by simp, fault, rfl, past⟩⟩

/-- Read form by form, the strict setting gives the lenient reading, or stops at a malformed
number that the lenient reading passes. -/
theorem readFrom_strictNumbers (d : Dialect) (limit : Nat) (s : Scan) (read : List (Form Span)) :
    (d.withStrictNumbers true).readFrom limit s read =
        (d.withStrictNumbers false).readFrom limit s read ∨
      d.StopsInRead limit s read ((d.withStrictNumbers false).readFrom limit s read)
        ((d.withStrictNumbers true).readFrom limit s read) := by
  -- Induction on what is left: each form read leaves less.
  induction h : s.rest.length using Nat.strongRecOn generalizing s read with
  | ind len ih =>
  by_cases empty : (d.skipAtmosphere s).rest = []
  · left
    rw [readFrom_end _ _ _ _ (by simpa using empty), readFrom_end _ _ _ _ (by simpa using empty)]
  have skipped := d.skipAtmosphere_length_le s
  rw [readFrom_form _ _ _ _ (by simpa using empty), readFrom_form _ _ _ _ (by simpa using empty),
    readFormAt_scan_congr _ _ _ (d.skipAtmosphere_withStrictNumbers false s) _ skipped,
    readFormAt_scan_congr _ _ _ (d.skipAtmosphere_withStrictNumbers true s) _ skipped]
  -- Both read the next form from the same scan, after the same atmosphere, which the strict
  -- setting passes over on its way into the form.
  have agrees : d.Agrees (fun w v => (d.withStrictNumbers true).PendingWithin limit s.point w v []) s
      (((d.withStrictNumbers false).readFormAt limit [.expression] (d.skipAtmosphere s)
        skipped).map Step.out)
      (((d.withStrictNumbers true).readFormAt limit [.expression] (d.skipAtmosphere s)
        skipped).map Step.out) :=
    (readFormAt_agrees (d.agreesBelow (s.rest.length + 1)) (by omega)
      (d.skipAtmosphere_ends s)).skipped ((d.withStrictNumbers true).BegunWithin limit) empty
      fun a w v blanks begun => begun.pending.atmosphere_prepend blanks
  cases loose : (d.withStrictNumbers false).readFormAt limit [.expression] (d.skipAtmosphere s)
    skipped with
  | error fault =>
    cases strict : (d.withStrictNumbers true).readFormAt limit [.expression] (d.skipAtmosphere s)
      skipped with
    | error fault' =>
      rw [loose, strict] at agrees
      rcases agrees with same | ⟨p, run, u, w, stops, malformed, ahead, at_p, pending, expr, passes⟩
      · left
        cases same
        rfl
      · -- The strict read stops at the malformed number; the lenient one fails past it.
        cases stops
        exact .inr (StopsInRead.of_fault d malformed ahead at_p pending expr passes)
    | ok step' =>
      rw [loose, strict] at agrees
      cases agrees.eq_of_ok
  | ok step =>
    cases strict : (d.withStrictNumbers true).readFormAt limit [.expression] (d.skipAtmosphere s)
      skipped with
    | error fault' =>
      rw [loose, strict] at agrees
      rcases agrees with same | ⟨p, run, u, w, stops, malformed, ahead, at_p, pending, expr, passes⟩
      · cases same
      · -- The strict read stops inside the form the lenient one reads.
        cases stops
        obtain ⟨-, node, from_p⟩ := passes
        exact .inr (StopsInRead.of_item d limit malformed ahead at_p pending expr node from_p)
    | ok step' =>
      rw [loose, strict] at agrees
      -- Alike forms: both go on from the same scan with the same forms read.
      have same := Except.ok.inj agrees.eq_of_ok
      have form : step'.form = step.form := congrArg Prod.fst same.symm
      have next : step'.next = step.next := congrArg Prod.snd same.symm
      -- The strict setting read the form after the atmosphere, within the limit.
      obtain ⟨reads, bounded⟩ :=
        readFormAt_sound ((d.withStrictNumbers true).soundBelow (s.rest.length + 1)) (by omega)
          (d.skipAtmosphere_ends s) strict
      rw [form, next] at reads
      rw [form] at bounded
      have after : (d.withStrictNumbers true).ReadsAfter s step.form step.next :=
        ReadsAfter.skipped (by simpa using empty)
          (by rw [skipAtmosphere_withStrictNumbers]; exact reads.after)
      dsimp only
      rw [form, next]
      rcases ih step.next.rest.length (by rw [← h]; exact step.shorter) step.next
          (step.form :: read) rfl with same | stops
      · exact .inl same
      · exact .inr (stops.cons after bounded)

/-! ### From the start of a source -/

/-- The strict reading `strict` of `source` stops at the first malformed number the lenient reading
`loose` reads, at `p`: it has the forms of the lenient reading before the form holding the run
there, and the fault of a malformed number at `p`, expecting a number. The strict setting reads
the source up to `p` as its own forms, each within the limit, and constructs opened within the
limit: the way the reader takes to `p`, reading no malformed number on it. The run at `p` starts
like a number and reads as none, the lenient setting derives it as a symbol, and every malformed
symbol of the lenient reading starts at `p` or later; that reading holds the symbol in its form
`k`, or fails past `p` with no form holding it. -/
def StopsAtFirstMalformed (d : Dialect) (limit : Nat) (source : Text) (loose strict : Reading) :
    Prop :=
  ∃ k p run rest,
    strict = ⟨loose.forms.take k, some (.invalid ⟨.malformedNumericLiteral, p, [.number]⟩)⟩ ∧
    source.drop p = run ++ rest ∧ Numeral.Malformed run ∧
    (d.withStrictNumbers true).PendingWithin limit 0 (source.take p) (source.drop p) strict.forms ∧
    (d.withStrictNumbers false).Expr p run rest (.atom (.symbol run) ⟨p, p + run.length⟩) ∧
    (∀ f ∈ loose.forms, f.MalformedFrom p) ∧
    ((∃ f, loose.forms[k]? = some f ∧ Form.atom (.symbol run) ⟨p, p + run.length⟩ ∈ f.nodes) ∨
      (loose.forms.length = k ∧ ∃ fault, loose.fault = some fault ∧ fault.StopsAfter p))

/-- Every node of a form a reading reads lies within the form. -/
theorem readWithin_nodes_within (d : Dialect) (limit : Nat) (source : Text) :
    ∀ f ∈ (d.readWithin limit source).forms, ∀ n ∈ f.nodes,
      f.ann.start ≤ n.ann.start ∧ n.ann.stop ≤ f.ann.stop := by
  intro f member n node
  obtain ⟨p, x, u, expr, -⟩ := d.readWithin_forms limit source f member
  rw [expr.ann]
  exact expr.nodes_within n node

/-- No form a strict reading reads has a symbol that is a malformed number. -/
theorem readWithin_strict_clean (d : Dialect) (limit : Nat) (source : Text) :
    ∀ f ∈ ((d.withStrictNumbers true).readWithin limit source).forms, f.NoMalformedSymbol := by
  intro f member
  obtain ⟨p, x, u, expr, -⟩ := (d.withStrictNumbers true).readWithin_forms limit source f member
  exact Expr.noMalformedSymbol rfl expr

/-- Stopping at a malformed number the lenient reading of a source passes is stopping at the first
one it reads: the forms before it are the strict reading's own, with no malformed symbol; the form
that holds it has none before it; and the forms after it lie after it. -/
theorem StopsInRead.first (d : Dialect) (limit : Nat) (source : Text)
    (stops : d.StopsInRead limit ⟨0, source⟩ []
      ((d.withStrictNumbers false).readWithin limit source)
      ((d.withStrictNumbers true).readWithin limit source)) :
    d.StopsAtFirstMalformed limit source ((d.withStrictNumbers false).readWithin limit source)
      ((d.withStrictNumbers true).readWithin limit source) := by
  obtain ⟨k, p, run, u, w, fs, stopped, before, malformed, split, at_p, pending, expr, passes⟩ :=
    stops
  -- The text before the stop is the way the strict setting took to it.
  simp only [Nat.zero_add] at at_p split
  have dropped : source.drop p = run ++ u := by
    rw [split, at_p, List.drop_left]
  have taken : source.take p = w := by
    rw [split, at_p, List.take_left]
  have forms : ((d.withStrictNumbers true).readWithin limit source).forms = fs := by
    rw [stopped]
    simpa using before
  refine ⟨k, p, run, u, stopped, dropped, malformed, by rw [taken, dropped, forms]; exact pending,
    expr, ?_, ?_⟩
  · intro f member r sp node bad
    obtain ⟨j, lt, rfl⟩ := List.getElem_of_mem member
    rcases Nat.lt_or_ge j k with before | after
    · -- A form before the stop is one the strict reading holds.
      have held : ((d.withStrictNumbers false).readWithin limit source).forms[j] ∈
          ((d.withStrictNumbers true).readWithin limit source).forms := by
        rw [stopped]
        exact List.mem_take_iff_getElem.mpr ⟨j, by omega, rfl⟩
      exact absurd bad (d.readWithin_strict_clean limit source _ held r sp node)
    rcases passes with ⟨g, get, symbol, from_p⟩ | ⟨length, -⟩
    · obtain ⟨within, rfl⟩ := List.getElem?_eq_some_iff.mp get
      rcases Nat.eq_or_lt_of_le after with rfl | later
      · exact from_p r sp node bad
      · -- A later form starts after the form holding the symbol ends, past the symbol's start.
        have ordered := List.pairwise_iff_getElem.mp
          ((d.withStrictNumbers false).readWithin_spans limit source).2.1 k j within lt later
        have symbol_within :
            p + run.length ≤ ((d.withStrictNumbers false).readWithin limit source).forms[k].ann.stop :=
          ((d.withStrictNumbers false).readWithin_nodes_within limit source _
            (List.getElem_mem within) _ symbol).2
        have node_within :
            ((d.withStrictNumbers false).readWithin limit source).forms[j].ann.start ≤ sp.start :=
          ((d.withStrictNumbers false).readWithin_nodes_within limit source _
            (List.getElem_mem lt) _ node).1
        have wide : p < p + run.length := ((d.withStrictNumbers false).readWithin_nodes_placed
          limit source _ (List.getElem_mem within) _ symbol).bounds.1
        omega
    · omega
  · rcases passes with ⟨g, get, symbol, -⟩ | failed
    · exact .inl ⟨g, get, symbol⟩
    · exact .inr failed

end Dialect

end LispReader

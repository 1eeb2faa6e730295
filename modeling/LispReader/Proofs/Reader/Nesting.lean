import LispReader.Proofs.Reader.Layout
import LispReader.Proofs.Unfinished

/-! How the spans of read forms lie in their source. Every node stands within the source; a list
or a vector between brackets has its opener at its start, its closer just before its end and its
items in order between them; a quote has its head over the prefix and its quoted form running to
its end; and what lies between neighbouring spans at one level is atmosphere. At the top level
the forms read follow one another, and a source read to its end has only atmosphere after the
last, its final comment open or not. -/

namespace LispReader

namespace Dialect

/-- Forms that follow one another in the source from position `i`, each after atmosphere, the
last of them ending at `j` (`j = i` for none). -/
def Chain (d : Dialect) (source : Text) : Nat → List (Form Span) → Nat → Prop
  | i, [], j => i = j
  | i, f :: rest, j =>
    i ≤ f.ann.start ∧ d.Atmosphere (source.extract i f.ann.start) ∧ d.Chain source f.ann.stop rest j

/-- A list or a vector written between brackets: the opener of its kind at its start, the closer of
its kind just before its end, and between them its items in increasing order, each after
atmosphere, with atmosphere after the last. -/
def Bracketed (d : Dialect) (source : Text) (kind : SeqKind) (items : List (Form Span))
    (sp : Span) : Prop :=
  d.StartsWith kind.opener (source.drop sp.start) ∧
    d.StartsWith kind.closer (source.drop (sp.stop - 1)) ∧
    items.Pairwise (fun f g => f.ann.stop ≤ g.ann.start) ∧
    ∃ j, d.Chain source (sp.start + 1) items j ∧ j ≤ sp.stop - 1 ∧
      d.Atmosphere (source.extract j (sp.stop - 1))

/-- A list written as a quote: a quote prefix at its start, its head symbol over the prefix, as
wide as the kind of quote says, and the quoted form after atmosphere, ending where the list
ends. -/
def QuoteWritten (d : Dialect) (source : Text) (items : List (Form Span)) (sp : Span) : Prop :=
  d.StartsWith .quotePrefix (source.drop sp.start) ∧
    ∃ (kind : QuoteKind) (f : Form Span),
      items = [Form.symbol kind.name ⟨sp.start, sp.start + kind.width⟩, f] ∧
      sp.start + kind.width ≤ f.ann.start ∧
      d.Atmosphere (source.extract (sp.start + kind.width) f.ann.start) ∧ f.ann.stop = sp.stop

/-- Where a node stands in its source: within it, starting before it ends; a list is bracketed or a
quote, and a vector is bracketed. -/
def Placed (d : Dialect) (source : Text) : Form Span → Prop
  | .atom _ sp => sp.start < sp.stop ∧ sp.stop ≤ source.length
  | .list items sp => sp.start < sp.stop ∧ sp.stop ≤ source.length ∧
      (d.Bracketed source .list items sp ∨ d.QuoteWritten source items sp)
  | .vector items sp => sp.start < sp.stop ∧ sp.stop ≤ source.length ∧
      d.Bracketed source .vector items sp

variable {d : Dialect} {source : Text}

/-! ### Chains of forms -/

/-- Every form of a chain from `i` starts at `i` or later. -/
theorem Chain.le_start {i j : Nat} {fs : List (Form Span)} (chain : d.Chain source i fs j)
    (each : ∀ f ∈ fs, f.ann.start ≤ f.ann.stop) : ∀ g ∈ fs, i ≤ g.ann.start := by
  induction fs generalizing i with
  | nil => simp
  | cons f rest ih =>
    obtain ⟨before, -, chain⟩ := chain
    intro g member
    rcases List.mem_cons.mp member with rfl | later
    · exact before
    · -- A later form starts after this one ends, which is after it starts.
      have after := ih chain (fun h inside => each h (List.mem_cons_of_mem f inside)) g later
      have := each f (List.mem_cons_self ..)
      omega

/-- The forms of a chain lie in increasing order, each ending before the next starts. -/
theorem Chain.pairwise {i j : Nat} {fs : List (Form Span)} (chain : d.Chain source i fs j)
    (each : ∀ f ∈ fs, f.ann.start ≤ f.ann.stop) :
    fs.Pairwise (fun f g => f.ann.stop ≤ g.ann.start) := by
  induction fs generalizing i with
  | nil => exact .nil
  | cons f rest ih =>
    obtain ⟨-, -, chain⟩ := chain
    have each' : ∀ g ∈ rest, g.ann.start ≤ g.ann.stop :=
      fun g inside => each g (List.mem_cons_of_mem f inside)
    exact .cons (chain.le_start each') (ih chain each')

/-- Items of the grammar form a chain from where they start, with atmosphere after the last
through their end, and each of them starts before it ends. -/
theorem Items.chain (source pre : Text) {p : Nat} {t u : Text} {fs : List (Form Span)} :
    d.Items p t u fs → source = pre ++ t ++ u → pre.length = p →
      (∃ j, d.Chain source p fs j ∧ j ≤ p + t.length ∧
        d.Atmosphere (source.extract j (p + t.length))) ∧ ∀ f ∈ fs, f.ann.start < f.ann.stop := by
  -- Induction on the forms, each step taking the atmosphere and the form in front.
  induction fs generalizing pre p t with
  | nil =>
    rintro (blanks | _) split at_pre
    subst at_pre split
    exact ⟨⟨pre.length, rfl, by omega, by rw [Text.extract_middle]; exact blanks⟩, by simp⟩
  | cons f fs' ih =>
    rintro (_ | ⟨blanks, expr, items⟩) split at_pre
    rename_i a x rest
    obtain ⟨⟨j, chain, le, trailing⟩, each⟩ :=
      ih (pre ++ a ++ x) items (by simp [split]) (by simp [at_pre]; omega)
    obtain ⟨c, more, first, -⟩ := expr.front
    have starts : f.ann.start = p + a.length := by rw [expr.ann]
    have stops : f.ann.stop = p + a.length + x.length := by rw [expr.ann]
    have gap : source.extract p (p + a.length) = a := by
      rw [split, ← at_pre, show pre ++ (a ++ x ++ rest) ++ u = pre ++ a ++ (x ++ rest ++ u) by simp]
      exact Text.extract_middle pre a _
    have width : p + (a ++ x ++ rest).length = p + a.length + x.length + rest.length := by
      simp only [List.length_append]
      omega
    refine ⟨⟨j, ⟨by omega, by rw [starts, gap]; exact blanks, by rw [stops]; exact chain⟩,
      by omega, by rw [width]; exact trailing⟩, ?_⟩
    intro g member
    rcases List.mem_cons.mp member with rfl | later
    · rw [starts, stops, first]
      simp
    · exact each g later

/-! ### Each node in its place -/

/-- A sequence derived from a text between brackets is bracketed there. -/
theorem Derived.bracketed {pre : Text} {kind : SeqKind} {o c : CodePoint} {inner u : Text}
    {items : List (Form Span)} (split : source = pre ++ (o :: inner ++ [c]) ++ u)
    (opens : d.categoryOf o = kind.opener) (inside : d.Items (pre.length + 1) inner (c :: u) items)
    (closes : d.categoryOf c = kind.closer) :
    d.Bracketed source kind items ⟨pre.length, pre.length + inner.length + 1 + 1⟩ := by
  obtain ⟨⟨j, chain, le, trailing⟩, each⟩ :=
    Items.chain source (pre ++ [o]) inside (by simp [split]) (by simp)
  have closer_at : source.drop (pre.length + inner.length + 1 + 1 - 1) = c :: u := by
    rw [split, show pre.length + inner.length + 1 + 1 - 1 = (pre ++ o :: inner).length by
      simp only [List.length_append, List.length_cons]; omega]
    simp
  refine ⟨by simp [split, StartsWith, opens], by rw [closer_at]; exact closes,
    chain.pairwise (fun f inside => Nat.le_of_lt (each f inside)), j, chain, by dsimp only; omega, ?_⟩
  have last : pre.length + inner.length + 1 + 1 - 1 = pre.length + 1 + inner.length := by omega
  rwa [last]

/-- A quote derived from a prefix `pfx` of the kind's width, atmosphere and a form is written as a
quote there. -/
theorem Derived.quoteWritten {pre a x u : Text} {q : CodePoint} (pfx : Text) (kind : QuoteKind)
    {f : Form Span} (split : source = pre ++ (q :: pfx ++ a ++ x) ++ u)
    (quotes : d.categoryOf q = .quotePrefix) (width : (q :: pfx).length = kind.width)
    (blanks : d.Atmosphere a) (expr : d.Expr (pre.length + kind.width + a.length) x u f) :
    d.QuoteWritten source [Form.symbol kind.name ⟨pre.length, pre.length + kind.width⟩, f]
      ⟨pre.length, pre.length + kind.width + a.length + x.length⟩ := by
  have starts : f.ann.start = pre.length + kind.width + a.length := by rw [expr.ann]
  have stops : f.ann.stop = pre.length + kind.width + a.length + x.length := by rw [expr.ann]
  -- The atmosphere lies between the prefix and the quoted form.
  have gap : source.extract (pre.length + kind.width) (pre.length + kind.width + a.length) = a := by
    rw [split, ← width]
    simp
  refine ⟨by simp [split, StartsWith, quotes], kind, f, rfl, ?_, ?_, ?_⟩
  · dsimp only
    omega
  · dsimp only
    rw [starts, gap]
    exact blanks
  · exact stops

/-- A node derived at its place in the source is placed there. -/
theorem Derived.placed {n : Form Span} (derived : d.Derived source n) : d.Placed source n := by
  obtain ⟨pre, x, u, split, expr⟩ := derived
  have within : pre.length + x.length ≤ source.length := by simp [split]
  have span := expr.ann
  obtain ⟨c₀, more, first, -⟩ := expr.front
  -- Each node starts before it ends and ends within the source.
  have bounds : n.ann.start < n.ann.stop ∧ n.ann.stop ≤ source.length := by
    rw [span]
    simp only [first, List.length_cons] at within ⊢
    omega
  cases expr with
  | run | char | string => exact bounds
  | @seq _ kind o c inner _ items opens inside closes =>
    rw [SeqKind.ann_build] at bounds
    have bracketed := Derived.bracketed split opens inside closes
    cases kind with
    | list => exact ⟨bounds.1, bounds.2, .inl bracketed⟩
    | vector => exact ⟨bounds.1, bounds.2, bracketed⟩
  | @quote _ q a x' _ f quotes _ blanks expr' =>
    refine ⟨bounds.1, bounds.2, .inr ?_⟩
    have written := Derived.quoteWritten [] (d.quoteKind q) split quotes
      (by rw [quoteKind_width]; rfl) blanks (by rwa [quoteKind_width])
    simpa [quoteKind_width] using written
  | @splice _ q s a x' _ f quotes _ _ blanks expr' =>
    exact ⟨bounds.1, bounds.2, .inr (Derived.quoteWritten [s] .unquoteSplicing split quotes rfl
      blanks expr')⟩

/-- The head symbol of a quote is placed over the prefix. -/
theorem HeadsQuote.placed {f n : Form Span} (heads : d.HeadsQuote source f n) :
    d.Placed source n := by
  obtain ⟨g, sp, -, derived, starts⟩ := heads
  obtain ⟨kind, rfl, -, inside, within⟩ := derived.quote_head starts rfl
  -- The prefix is one or two code points wide and the quoted form comes after it.
  have wide : 0 < kind.width := by cases kind <;> decide
  exact ⟨by dsimp only; omega, by dsimp only; omega⟩

/-- A placed node starts before it ends, within the source. -/
theorem Placed.bounds {n : Form Span} (placed : d.Placed source n) :
    n.ann.start < n.ann.stop ∧ n.ann.stop ≤ source.length := by
  cases n with
  | atom => exact placed
  | list | vector => exact ⟨placed.1, placed.2.1⟩

/-! ### The forms of a reading -/

/-- Every node of a form a reading reads, also one read before a fault, is placed in the source. -/
theorem readWithin_nodes_placed (d : Dialect) (limit : Nat) (source : Text) :
    ∀ f ∈ (d.readWithin limit source).forms, ∀ n ∈ f.nodes, d.Placed source n := by
  intro f member n node
  -- Each node is derived at its own place, or heads a quote.
  rcases d.readWithin_nodes limit source f member n node with derived | heads
  · exact derived.placed
  · exact heads.placed

/-- The forms a reading reads follow one another from the start of the source, each after
atmosphere; when the whole source is read, only atmosphere, its last comment closed or not,
follows the last of them. -/
theorem readWithin_chain (d : Dialect) (limit : Nat) (source : Text) :
    ∃ j, d.Chain source 0 (d.readWithin limit source).forms j ∧
      ((d.readWithin limit source).fault = none → d.Trailing (source.drop j) []) := by
  cases fault : (d.readWithin limit source).fault with
  | none =>
    -- Read to the end: the source is items of the grammar and an ending.
    have whole : d.readWithin limit source = ⟨(d.readWithin limit source).forms, none⟩ := by
      rw [← fault]
    obtain ⟨program, -⟩ := d.readWithin_sound whole
    generalize (d.readWithin limit source).forms = forms at program ⊢
    obtain @⟨x, tail, _, items, ending⟩ := program
    obtain ⟨⟨j, chain, le, gap⟩, -⟩ := Items.chain (x ++ tail) [] items (by simp) rfl
    have within : j ≤ x.length := by omega
    -- After the last form come the atmosphere that ends the items and the ending.
    have cut : (x ++ tail).extract j (0 + x.length) = x.drop j := by
      rw [List.extract_eq_take_drop, List.drop_append_of_le_length within, Nat.zero_add,
        ← List.length_drop]
      exact List.take_left
    refine ⟨j, chain, fun _ => ⟨x.drop j, tail, List.drop_append_of_le_length within, cut ▸ gap,
      ending, .inr rfl⟩⟩
  | some fault =>
    -- Stopped by a fault: the forms read are still items of the grammar.
    obtain ⟨x, rest, more, split, items, forms⟩ := d.readFrom_items limit ⟨0, source⟩ []
    obtain ⟨⟨j, chain, -, -⟩, -⟩ := Items.chain source [] items (by simpa using split) rfl
    refine ⟨j, ?_, fun none_left => by cases none_left⟩
    rwa [readWithin, forms, List.reverse_nil, List.nil_append]

/-- Spans nest and tile the source. Every node of every form a reading reads, also before a fault,
lies within the source, starting before it ends; a list or a vector between brackets has its
opener at its start and its closer just before its end, with its items in increasing order
between them, and a quote has its head symbol over its prefix, one or two code points wide, and
its quoted form running to its end. The forms read lie in increasing order. What lies between
neighbouring spans at one level, and between the start of the source and the first form, is
atmosphere; and when the whole source is read, only atmosphere follows the last form. -/
theorem readWithin_spans (d : Dialect) (limit : Nat) (source : Text) :
    (∀ f ∈ (d.readWithin limit source).forms, ∀ n ∈ f.nodes, d.Placed source n) ∧
      (d.readWithin limit source).forms.Pairwise (fun f g => f.ann.stop ≤ g.ann.start) ∧
      ∃ j, d.Chain source 0 (d.readWithin limit source).forms j ∧
        ((d.readWithin limit source).fault = none → d.Trailing (source.drop j) []) := by
  have placed := d.readWithin_nodes_placed limit source
  obtain ⟨j, chain, trailing⟩ := d.readWithin_chain limit source
  -- Each form read is a node of itself, so it starts before it ends.
  have each : ∀ f ∈ (d.readWithin limit source).forms, f.ann.start ≤ f.ann.stop :=
    fun f member => Nat.le_of_lt (placed f member f (Form.mem_nodes_self f)).bounds.1
  exact ⟨placed, chain.pairwise each, j, chain, trailing⟩

end Dialect

end LispReader

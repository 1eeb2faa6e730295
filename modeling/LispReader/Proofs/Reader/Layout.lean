import LispReader.Proofs.Reader.Complete

/-! Where read forms stand in their source. A form the grammar derives spans exactly the text it is
derived from, and every node inside it is derived from a text of its own at its own place, except
the head symbol of a quote, which stands over the quote's prefix. A derivation holds wherever its
text starts, and before any text that ends the runs the old one ended and lets no char literal
prefix reach further back, so a derived form can be moved and cut out of its source. Every
reading, also one a fault stops, reads grammar items at the front of its source. -/

namespace LispReader

/-- The span moved `k` code points further into a source. -/
def Span.shift (k : Nat) (sp : Span) : Span :=
  ⟨sp.start + k, sp.stop + k⟩

namespace Form

mutual
/-- The form with each of its spans moved `k` code points further. -/
def shift (k : Nat) : Form Span → Form Span
  | .atom a sp => .atom a (sp.shift k)
  | .list items sp => .list (shiftAll k items) (sp.shift k)
  | .vector items sp => .vector (shiftAll k items) (sp.shift k)

/-- The forms with each of their spans moved `k` code points further. -/
def shiftAll (k : Nat) : List (Form Span) → List (Form Span)
  | [] => []
  | f :: rest => f.shift k :: shiftAll k rest
end

mutual
/-- The nodes of a form at every depth: the form itself, then the nodes of its items in order. -/
def nodes : Form α → List (Form α)
  | .atom a ann => [.atom a ann]
  | .list items ann => .list items ann :: nodesAll items
  | .vector items ann => .vector items ann :: nodesAll items

/-- The nodes of some forms, in order. -/
def nodesAll : List (Form α) → List (Form α)
  | [] => []
  | f :: rest => f.nodes ++ nodesAll rest
end

mutual
/-- Moving a form by nothing leaves it where it is. -/
theorem shift_zero : (f : Form Span) → f.shift 0 = f
  | .atom _ _ => rfl
  | .list items _ => by rw [shift, shiftAll_zero items]; rfl
  | .vector items _ => by rw [shift, shiftAll_zero items]; rfl

/-- Moving forms by nothing leaves them where they are. -/
theorem shiftAll_zero : (fs : List (Form Span)) → shiftAll 0 fs = fs
  | [] => rfl
  | f :: rest => by rw [shiftAll, shift_zero f, shiftAll_zero rest]
end

/-- A moved form nests as deeply as before. -/
theorem depth_shift (k : Nat) : (f : Form Span) → (f.shift k).depth = f.depth
  | .atom _ _ => rfl
  | .list items _ | .vector items _ => by
    rw [shift, depth, depth, depthAll_shiftAll k items]
where
  depthAll_shiftAll (k : Nat) : (fs : List (Form Span)) → depthAll (shiftAll k fs) = depthAll fs
    | [] => rfl
    | f :: rest => by rw [shiftAll, depthAll, depthAll, depth_shift k f, depthAll_shiftAll k rest]

/-- An atom of `w` code points at `q` moved by `r` is the one at `p` moved by `r'`, when both land
at one place. -/
theorem shift_atom_at {a : Atom} {p q r r' w : Nat} (same : q + r = p + r') :
    (Form.atom a ⟨q, q + w⟩).shift r = (Form.atom a ⟨p, p + w⟩).shift r' := by
  simp only [shift, Span.shift, atom.injEq, Span.mk.injEq, true_and]
  omega

/-- Every form is a node of itself. -/
theorem mem_nodes_self (f : Form α) : f ∈ f.nodes := by
  cases f <;> simp [nodes]

/-- The nodes of some forms are the nodes of each of them. -/
theorem mem_nodesAll {n : Form α} {fs : List (Form α)} : n ∈ nodesAll fs ↔ ∃ f ∈ fs, n ∈ f.nodes := by
  induction fs with
  | nil => simp [nodesAll]
  | cons f rest ih => simp [nodesAll, ih]

/-- The nodes of a list or a vector are itself and the nodes of its items. -/
theorem mem_nodes_seq {n : Form α} {kind : SeqKind} {items : List (Form α)} {ann : α} :
    n ∈ (match kind with | .list => Form.list items ann | .vector => Form.vector items ann).nodes ↔
      n = (match kind with | .list => Form.list items ann | .vector => Form.vector items ann) ∨
        ∃ f ∈ items, n ∈ f.nodes := by
  cases kind <;> simp [nodes, mem_nodesAll]

/-- The nodes of a quote are itself, its head symbol and the nodes of the quoted form. -/
theorem mem_nodes_quote {n f : Form α} {name : String} {head ann : α} :
    n ∈ (Form.list [Form.symbol name head, f] ann).nodes ↔
      n = .list [Form.symbol name head, f] ann ∨ n = Form.symbol name head ∨ n ∈ f.nodes := by
  simp [nodes, nodesAll, symbol]

mutual
/-- A node nests no deeper than the form it belongs to. -/
theorem depth_le_of_mem_nodes {n : Form α} : (f : Form α) → n ∈ f.nodes → n.depth ≤ f.depth
  | .atom _ _, member => by
    rw [nodes, List.mem_singleton] at member
    subst member
    exact Nat.le_refl _
  | .list items _, member | .vector items _, member => by
    rcases List.mem_cons.mp member with rfl | inner
    · exact Nat.le_refl _
    · exact Nat.le_trans (depth_le_of_mem_nodesAll items inner) (by rw [depth]; omega)

/-- A node of some forms nests no deeper than the deepest of them. -/
theorem depth_le_of_mem_nodesAll {n : Form α} :
    (fs : List (Form α)) → n ∈ nodesAll fs → n.depth ≤ depthAll fs
  | [], member => by simp [nodesAll] at member
  | f :: rest, member => by
    rw [nodesAll, List.mem_append] at member
    rw [depthAll]
    rcases member with here | later
    · exact Nat.le_trans (depth_le_of_mem_nodes f here) (Nat.le_max_left _ _)
    · exact Nat.le_trans (depth_le_of_mem_nodesAll rest later) (Nat.le_max_right _ _)
end

end Form

/-- The span a sequence is built with is its annotation. -/
@[simp] theorem SeqKind.ann_build (kind : SeqKind) (items : List (Form Span)) (span : Span) :
    (kind.build items span).ann = span := by
  cases kind <;> rfl

/-- A sequence moved is the sequence of its items moved. -/
@[simp] theorem SeqKind.shift_build (kind : SeqKind) (items : List (Form Span)) (span : Span)
    (k : Nat) : (kind.build items span).shift k = kind.build (Form.shiftAll k items) (span.shift k) := by
  cases kind <;> rfl

/-- The nodes of a sequence are itself and the nodes of its items. -/
theorem SeqKind.mem_nodes_build {n : Form Span} (kind : SeqKind) (items : List (Form Span))
    (span : Span) : n ∈ (kind.build items span).nodes ↔
      n = kind.build items span ∨ ∃ f ∈ items, n ∈ f.nodes := by
  cases kind <;> simp [build, Form.nodes, Form.mem_nodesAll]

/-- The width of the prefix a quote of the kind is written with: the unquote prefix and the splice
mark for unquote-splicing, one code point for the others. -/
def QuoteKind.width : QuoteKind → Nat
  | .unquoteSplicing => 2
  | _ => 1

/-- The text a quote of the kind is written with in a dialect: its prefix, and for
unquote-splicing the unquote prefix followed by the splice mark. -/
def Dialect.quoteToken (d : Dialect) : QuoteKind → Token
  | .quote => d.quote
  | .quasiquote => d.quasiquote
  | .unquote => d.unquote
  | .unquoteSplicing =>
    match d.unquote, d.splice with
    | some u, some s => some (u ++ s)
    | _, _ => none

/-- The text of a source from `start` to just before `stop`, as a span marks it. -/
theorem Text.extract_middle (pre x u : Text) :
    (pre ++ x ++ u).extract pre.length (pre.length + x.length) = x := by
  simp

namespace Dialect

variable {d : Dialect}

/-! ### Spans of derived forms -/

/-- A derived form spans exactly the text it is derived from. -/
theorem Expr.ann {p : Nat} {x u : Text} {f : Form Span} (expr : d.Expr p x u f) :
    f.ann = ⟨p, p + x.length⟩ := by
  cases expr with
  | run | string => rfl
  | char =>
    simp only [Form.ann, List.length_append, List.length_cons, Span.mk.injEq, true_and]
    omega
  | seq =>
    rw [SeqKind.ann_build]
    simp only [List.length_append, List.length_cons, List.length_nil, Span.mk.injEq, true_and]
    omega
  | quote | splice =>
    simp only [Form.ann, List.length_append, List.length_cons, Span.mk.injEq, true_and]
    omega

/-- A form derived from a text at its place in a source. -/
def Derived (d : Dialect) (source : Text) (f : Form Span) : Prop :=
  ∃ pre x u, source = pre ++ x ++ u ∧ d.Expr pre.length x u f

/-- The node `n` of `f` is the head symbol of a quote in `f`: the first of the two items of a list
derived from a text that starts with a quote prefix. -/
def HeadsQuote (d : Dialect) (source : Text) (f n : Form Span) : Prop :=
  ∃ g sp, Form.list [n, g] sp ∈ f.nodes ∧ d.Derived source (.list [n, g] sp) ∧
    d.StartsWith .quotePrefix (source.drop sp.start)

/-- Heading a quote in an item is heading it in the form around the item. -/
theorem HeadsQuote.widen {source : Text} {f g n : Form Span} (inside : ∀ m ∈ g.nodes, m ∈ f.nodes)
    (heads : d.HeadsQuote source g n) : d.HeadsQuote source f n :=
  let ⟨h, sp, member, derived, starts⟩ := heads
  ⟨h, sp, inside _ member, derived, starts⟩

mutual
/-- Every node of a derived form is derived at its own place, or heads a quote. -/
theorem Expr.nodes_derived (source pre : Text) {p : Nat} {x u : Text} {f : Form Span} :
    d.Expr p x u f → source = pre ++ x ++ u → pre.length = p →
      ∀ n ∈ f.nodes, d.Derived source n ∨ d.HeadsQuote source f n
  | .run some_run inside stops no_char cast, split, at_pre, n, member => by
    rw [Form.nodes, List.mem_singleton] at member
    subst member at_pre
    exact .inl ⟨pre, _, u, split, .run some_run inside stops no_char cast⟩
  | .char reads named starts inside stops resolves, split, at_pre, n, member => by
    rw [Form.nodes, List.mem_singleton] at member
    subst member at_pre
    exact .inl ⟨pre, _, u, split, .char reads named starts inside stops resolves⟩
  | .string delimits string, split, at_pre, n, member => by
    rw [Form.nodes, List.mem_singleton] at member
    subst member at_pre
    exact .inl ⟨pre, _, u, split, .string delimits string⟩
  | @Expr.seq _ _ kind o c inner _ items opens inside closes, split, at_pre, n, member => by
    rcases (SeqKind.mem_nodes_build kind items _).mp member with rfl | ⟨g, item, deeper⟩
    · subst at_pre
      exact .inl ⟨pre, _, u, split, .seq opens inside closes⟩
    · -- The items stand after the opener.
      rcases Items.nodes_derived source (pre ++ [o]) inside
        (by rw [split]; simp) (by simp [at_pre]) g item n deeper with derived | heads
      · exact .inl derived
      · refine .inr (heads.widen fun m m_member => ?_)
        exact (SeqKind.mem_nodes_build kind items _).mpr (.inr ⟨g, item, m_member⟩)
  | @Expr.quote _ _ q a x' _ f' quotes no_splice blanks expr, split, at_pre, n, member => by
    -- The quote itself, its head, or a node of the quoted form.
    rcases Form.mem_nodes_quote.mp member with rfl | rfl | deeper
    · subst at_pre
      exact .inl ⟨pre, _, u, split, .quote quotes no_splice blanks expr⟩
    · subst at_pre
      refine .inr ⟨f', _, Form.mem_nodes_self _, ⟨pre, _, u, split,
        .quote quotes no_splice blanks expr⟩, ?_⟩
      simp [split, StartsWith, quotes]
    · rcases Expr.nodes_derived source (pre ++ q :: a) expr (by simp [split])
        (by simp [at_pre]; omega) n deeper with derived | heads
      · exact .inl derived
      · exact .inr (heads.widen fun m m_member => Form.mem_nodes_quote.mpr (.inr (.inr m_member)))
  | @Expr.splice _ _ q s a x' _ f' quotes unquotes marks blanks expr, split, at_pre, n, member => by
    rcases Form.mem_nodes_quote.mp member with rfl | rfl | deeper
    · subst at_pre
      exact .inl ⟨pre, _, u, split, .splice quotes unquotes marks blanks expr⟩
    · subst at_pre
      refine .inr ⟨f', _, Form.mem_nodes_self _, ⟨pre, _, u, split,
        .splice quotes unquotes marks blanks expr⟩, ?_⟩
      simp [split, StartsWith, quotes]
    · rcases Expr.nodes_derived source (pre ++ q :: s :: a) expr
        (by simp [split]) (by simp [at_pre]; omega) n deeper with derived | heads
      · exact .inl derived
      · exact .inr (heads.widen fun m m_member => Form.mem_nodes_quote.mpr (.inr (.inr m_member)))

/-- Every node of the items of a sequence is derived at its own place, or heads a quote. -/
theorem Items.nodes_derived (source pre : Text) {p : Nat} {t u : Text} {fs : List (Form Span)} :
    d.Items p t u fs → source = pre ++ t ++ u → pre.length = p →
      ∀ f ∈ fs, ∀ n ∈ f.nodes, d.Derived source n ∨ d.HeadsQuote source f n
  | .nil _, _, _, f, member => by simp at member
  | @Items.cons _ _ a x rest _ g gs _ expr items, split, at_pre, f, member => by
    rcases List.mem_cons.mp member with first | later
    · rw [first]
      exact Expr.nodes_derived source (pre ++ a) expr (by simp [split]) (by simp [at_pre])
    · exact Items.nodes_derived source (pre ++ a ++ x) items (by simp [split])
        (by simp [at_pre]; omega) f later
end

/-! ### The head of a quote -/

/-- A quote prefix is the token of one of the three quote roles. -/
theorem quotePrefix_claimed {q : CodePoint} (quotes : d.categoryOf q = .quotePrefix) :
    some [q] ∈ [d.quote, d.quasiquote, d.unquote] := by
  unfold categoryOf classify at quotes
  split at quotes
  · cases quotes
  split at quotes
  · rename_i role found
    have key := List.find?_some found
    have member := List.mem_of_find?_eq_some found
    simp only [roles, List.mem_append, List.mem_cons, List.mem_map, List.not_mem_nil,
      or_false] at member
    -- The first six roles claim other categories; a quote role claims its own token.
    rcases member with (same | same | same | same | same | same) | ⟨tok, claimed, same⟩ <;>
      subst same <;> simp at quotes
    simp only [decide_eq_true_eq, Option.some.injEq] at key
    subst key
    simpa [quotePrefixes, List.mem_eraseDups] using claimed
  · cases quotes

/-- A quote prefix of one code point stands for no unquote-splicing. -/
theorem quoteKind_width (c : CodePoint) : (d.quoteKind c).width = 1 := by
  unfold quoteKind
  split
  · rfl
  · split <;> rfl

/-- The kind of quote a prefix stands for is written with that prefix. -/
theorem quoteToken_quoteKind {q : CodePoint} (quotes : d.categoryOf q = .quotePrefix) :
    d.quoteToken (d.quoteKind q) = some [q] := by
  have claimed := d.quotePrefix_claimed quotes
  -- The unquote role wins over the quasiquote role, which wins over the quote role.
  unfold quoteKind
  by_cases unquotes : d.unquote = some [q]
  · simp [unquotes, quoteToken]
  by_cases quasi : d.quasiquote = some [q]
  · simp [unquotes, quasi, quoteToken]
  · simp only [List.mem_cons, List.not_mem_nil, or_false] at claimed
    simp only [if_neg unquotes, if_neg quasi, quoteToken]
    rcases claimed with same | same | same
    · exact same.symm
    · exact absurd same.symm quasi
    · exact absurd same.symm unquotes

/-- The head of a derived list that starts with a quote prefix is the quote's head symbol: it
spans the token of its kind, one or two code points before the quoted form. -/
theorem Derived.quote_head {source : Text} {m : Form Span} (derived : d.Derived source m)
    (starts : d.StartsWith .quotePrefix (source.drop m.ann.start)) {n : Form Span}
    {rest : List (Form Span)} {sp : Span} (shape : m = .list (n :: rest) sp) :
    ∃ kind, n = Form.symbol kind.name ⟨sp.start, sp.start + kind.width⟩ ∧
      d.quoteToken kind = some (source.extract sp.start (sp.start + kind.width)) ∧
      sp.start + kind.width < sp.stop ∧ sp.stop ≤ source.length := by
  obtain ⟨pre, x, u, split, expr⟩ := derived
  have front : source.drop pre.length = x ++ u := by simp [split]
  have within : pre.length + x.length ≤ source.length := by simp [split]
  cases expr with
  | run | char | string => cases shape
  | @seq _ kind o c inner _ items opens =>
    -- A list between brackets starts with its opener, which is no quote prefix.
    rw [SeqKind.ann_build, front] at starts
    simp only [StartsWith, List.cons_append] at starts
    cases kind <;> simp_all [SeqKind.opener]
  | @quote _ q a x' _ f' quotes _ _ expr' =>
    simp only [Form.list.injEq, List.cons.injEq] at shape
    obtain ⟨⟨rfl, -⟩, rfl⟩ := shape
    obtain ⟨c₀, more, first, -⟩ := expr'.front
    refine ⟨d.quoteKind q, by rw [quoteKind_width], ?_, ?_, ?_⟩
    · rw [quoteToken_quoteKind quotes, quoteKind_width]
      simp [split]
    · simp only [quoteKind_width, first, List.length_cons]
      omega
    · simp only [List.length_append, List.length_cons] at within
      dsimp only
      omega
  | @splice _ q s a x' _ f' quotes unquotes marks _ expr' =>
    simp only [Form.list.injEq, List.cons.injEq] at shape
    obtain ⟨⟨rfl, -⟩, rfl⟩ := shape
    obtain ⟨c₀, more, first, -⟩ := expr'.front
    refine ⟨.unquoteSplicing, rfl, ?_, ?_, ?_⟩
    · simp [quoteToken, unquotes, marks, split, QuoteKind.width]
    · simp only [QuoteKind.width, first, List.length_cons]
      omega
    · simp only [List.length_append, List.length_cons] at within
      dsimp only
      omega

/-! ### Moving a derived form -/

/-- A text `u'` can stand after a form in place of `u`: it ends every run that `u` ends, and a char
literal prefix that reaches from a text into `u'` reached into `u` too. -/
def Follows (d : Dialect) (u u' : Text) : Prop :=
  (d.StopsRun u → d.StopsRun u') ∧ ∀ w, d.CharLiteralAt (w ++ u') → d.CharLiteralAt (w ++ u)

/-- Nothing at all can stand after a form in place of anything. -/
theorem follows_nil (u : Text) : d.Follows u [] := by
  refine ⟨fun _ => trivial, fun w ⟨reads, pfx, named, leads⟩ => ⟨reads, pfx, named, ?_⟩⟩
  -- A prefix of the text alone is a prefix of the text and what followed it.
  rw [List.append_nil] at leads
  exact leads.trans (List.prefix_append w u)

/-- Texts that can stand in place of each other can still do so behind a common front. -/
theorem Follows.append {u u' : Text} (v : Text) (follows : d.Follows u u') :
    d.Follows (v ++ u) (v ++ u') := by
  refine ⟨fun stops => ?_, fun w reaches => ?_⟩
  · -- Only the code point right after a run decides whether it goes on.
    cases v with
    | nil => exact follows.1 stops
    | cons c rest => exact stops
  · simpa using follows.2 (w ++ v) (by simpa using reaches)

/-- Whether a quote prefix splices looks only at the code point after it. -/
theorem splicesAt_append {q : CodePoint} {v : Text} (some_v : v ≠ []) (u u' : Text) :
    d.SplicesAt q (v ++ u) ↔ d.SplicesAt q (v ++ u') := by
  obtain ⟨c, rest, rfl⟩ := List.exists_cons_of_ne_nil some_v
  exact Iff.rfl

mutual
/-- A derived form can be derived at any other place, before any text that can stand after it in
place of the old one; the two forms agree once moved to a common place. -/
theorem Expr.move {p : Nat} {x u u' : Text} {f : Form Span} (q : Nat) :
    d.Expr p x u f → d.Follows u u' →
      ∃ g, d.Expr q x u' g ∧ ∀ r r', q + r = p + r' → g.shift r = f.shift r'
  | .run some_run inside stops no_char cast, follows =>
    ⟨_, .run some_run inside (follows.1 stops) (fun reaches => no_char (follows.2 _ reaches)) cast,
      fun _ _ same => Form.shift_atom_at same⟩
  | .char reads named starts inside stops resolves, follows =>
    ⟨_, .char reads named starts inside (follows.1 stops) resolves,
      fun _ _ same => Form.shift_atom_at same⟩
  | .string delimits string, _ =>
    ⟨_, .string delimits string, fun _ _ same => Form.shift_atom_at same⟩
  | @Expr.seq _ _ kind o c inner _ items opens inside closes, follows => by
    -- The items move with the opener, before the closer and what can now follow it.
    obtain ⟨gs, inside', moved⟩ := Items.move (q + 1) inside (follows.append [c])
    refine ⟨_, .seq opens inside' closes, fun r r' same => ?_⟩
    rw [SeqKind.shift_build, SeqKind.shift_build, moved r r' (by omega)]
    simp only [Span.shift]
    congr 2
    omega
  | @Expr.quote _ _ q₀ a x' _ f' quotes no_splice blanks expr, follows => by
    obtain ⟨g', expr', moved⟩ := Expr.move (q + 1 + a.length) expr follows
    -- The quoted form is no empty text, so the code point after the prefix stays where it was.
    obtain ⟨c₀, more, first, -⟩ := expr.front
    have some_text : a ++ x' ≠ [] := by simp [first]
    refine ⟨_, .quote quotes (fun splices => no_splice ((splicesAt_append some_text u u').mpr
      splices)) blanks expr', fun r r' same => ?_⟩
    simp only [Form.shift, Form.shiftAll, Form.symbol, Span.shift, moved r r' (by omega),
      Form.list.injEq, Form.atom.injEq, List.cons.injEq, Span.mk.injEq, true_and, and_true]
    omega
  | @Expr.splice _ _ q₀ n a x' _ f' quotes unquotes marks blanks expr, follows => by
    obtain ⟨g', expr', moved⟩ := Expr.move (q + 2 + a.length) expr follows
    refine ⟨_, .splice quotes unquotes marks blanks expr', fun r r' same => ?_⟩
    simp only [Form.shift, Form.shiftAll, Form.symbol, Span.shift, moved r r' (by omega),
      Form.list.injEq, Form.atom.injEq, List.cons.injEq, Span.mk.injEq, true_and, and_true]
    omega

/-- Items derived in a sequence can be derived at any other place, before any text that can stand
after them in place of the old one. -/
theorem Items.move {p : Nat} {t u u' : Text} {fs : List (Form Span)} (q : Nat) :
    d.Items p t u fs → d.Follows u u' →
      ∃ gs, d.Items q t u' gs ∧ ∀ r r', q + r = p + r' → Form.shiftAll r gs = Form.shiftAll r' fs
  | .nil blanks, _ => ⟨[], .nil blanks, fun _ _ _ => rfl⟩
  | @Items.cons _ _ a x rest _ f fs' blanks expr items, follows => by
    obtain ⟨g, expr', moved⟩ := Expr.move (q + a.length) expr (follows.append rest)
    obtain ⟨gs, items', moved'⟩ := Items.move (q + a.length + x.length) items follows
    refine ⟨g :: gs, .cons blanks expr' items', fun r r' same => ?_⟩
    rw [Form.shiftAll, Form.shiftAll, moved r r' (by omega), moved' r r' (by omega)]
end

/-! ### What a reading reads -/

/-- Every reading, also one a fault stops, reads grammar items at the front of what is left: the
forms it reads after those read before are the items' forms. -/
theorem readFrom_items (d : Dialect) (limit : Nat) (s : Scan) (read : List (Form Span)) :
    ∃ x rest more, s.rest = x ++ rest ∧ d.Items s.point x rest more ∧
      (d.readFrom limit s read).forms = read.reverse ++ more := by
  -- Induction on what is left: each form read leaves less.
  induction h : s.rest.length using Nat.strongRecOn generalizing s read with
  | ind len ih =>
  -- Where reading stops at once, it reads no items.
  have stops_here : (d.readFrom limit s read).forms = read.reverse →
      ∃ x rest more, s.rest = x ++ rest ∧ d.Items s.point x rest more ∧
        (d.readFrom limit s read).forms = read.reverse ++ more :=
    fun stops => ⟨[], s.rest, [], rfl, .nil .nil, by simp [stops]⟩
  by_cases empty : (d.skipAtmosphere s).rest = []
  · exact stops_here (by rw [d.readFrom_end limit s read empty])
  cases found : d.readFormAt limit [.expression] (d.skipAtmosphere s)
    (d.skipAtmosphere_length_le s) with
  | error fault => exact stops_here (by rw [d.readFrom_form limit s read empty, found])
  | ok step =>
    -- One form is read, and the items after it from where it ends.
    obtain ⟨x', rest, more, split', items, forms⟩ :=
      ih _ (h ▸ step.shorter) step.next (step.form :: read) rfl
    obtain ⟨⟨a, x, split, moved, blanks, expr⟩, -⟩ :=
      d.readForm_sound (show d.readForm limit [.expression] s = .ok step by rw [readForm_eq, found])
    rw [split'] at split expr
    rw [moved] at items
    refine ⟨a ++ x ++ x', rest, step.form :: more, by simp [split], .cons blanks expr items, ?_⟩
    rw [d.readFrom_form limit s read empty, found]
    simp [forms]

/-- Every node of a form a reading reads, also one read before a fault, is derived at its own
place in the source or heads a quote there. -/
theorem readWithin_nodes (d : Dialect) (limit : Nat) (source : Text) :
    ∀ f ∈ (d.readWithin limit source).forms, ∀ n ∈ f.nodes,
      d.Derived source n ∨ d.HeadsQuote source f n := by
  obtain ⟨x, rest, more, split, items, forms⟩ := d.readFrom_items limit ⟨0, source⟩ []
  intro f member
  rw [readWithin, forms, List.reverse_nil, List.nil_append] at member
  exact Items.nodes_derived source [] items (by simpa using split) rfl f member

end Dialect

end LispReader

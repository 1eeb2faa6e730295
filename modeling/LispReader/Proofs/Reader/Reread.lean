import LispReader.Proofs.Reader.Layout

/-! Reading the text under a node's span again. Every node of a form a reading reads, at any
depth, spans a text that reads by itself as that one node, its spans counted from the node's
start, except the head symbol of a quote, which spans the prefix the quote is written with.
What makes this hold is that a derivation depends on what follows its text only through whether a
run or a char literal prefix could go on into it, and nothing can go on into the end of a text. -/

namespace LispReader

namespace Dialect

variable {d : Dialect}

/-- The node `n` of `f` is the head symbol of a quote: the first item of a list node of `f` that
starts with a quote prefix in the source. -/
def QuoteHead (d : Dialect) (source : Text) (f n : Form Span) : Prop :=
  ∃ rest sp, Form.list (n :: rest) sp ∈ f.nodes ∧ d.StartsWith .quotePrefix (source.drop sp.start)

/-- A form derived from a whole text, with nothing after it, makes that text a program. -/
theorem Expr.program {x : Text} {g : Form Span} (expr : d.Expr 0 x [] g) : d.Program x [g] := by
  -- One item with no atmosphere around it, and the text ends right after it.
  have items : d.Items 0 ([] ++ x ++ []) [] [g] := .cons .nil expr (.nil .nil)
  simpa using Program.mk items .done

/-- The text under the span of a derived node reads by itself as that node alone, its spans
counted from the node's start. -/
theorem Derived.rereads {source : Text} {n : Form Span} (derived : d.Derived source n)
    {limit : Nat} (bounded : n.depth ≤ limit) :
    ∃ g, d.readWithin limit (source.extract n.ann.start n.ann.stop) = ⟨[g], none⟩ ∧
      g.shift n.ann.start = n := by
  obtain ⟨pre, x, u, split, expr⟩ := derived
  -- The node's span covers exactly its text.
  have text : source.extract n.ann.start n.ann.stop = x := by
    rw [expr.ann, split]
    exact Text.extract_middle pre x u
  -- Moved to the start and cut off from what followed, the text derives the node moved back.
  obtain ⟨g, expr', moved⟩ := Expr.move 0 expr (follows_nil u)
  have back : g.shift pre.length = n := by
    rw [moved pre.length 0 (by omega), Form.shift_zero]
  have depth : g.depth ≤ limit := by rwa [← Form.depth_shift pre.length g, back]
  refine ⟨g, ?_, by rw [expr.ann]; exact back⟩
  rw [text]
  exact readWithin_of_program expr'.program (by simpa using depth)

/-- Every node of every form a reading reads, at any depth and also before a fault, reads again
from the text under its span. The head symbol of a quote spans the text the quote is written
with, the token of its kind: the quote, quasiquote or unquote prefix, or the unquote prefix and
the splice mark. Any other node's text reads, with the same nesting allowed, as exactly one form
and no fault, and that form is the node with each of its spans counted from the node's start. -/
theorem readWithin_nodes_reread (d : Dialect) (limit : Nat) (source : Text) :
    ∀ f ∈ (d.readWithin limit source).forms, ∀ n ∈ f.nodes,
      (d.QuoteHead source f n →
        ∃ kind, n = Form.symbol kind.name n.ann ∧
          d.quoteToken kind = some (source.extract n.ann.start n.ann.stop)) ∧
      (¬ d.QuoteHead source f n →
        ∃ g, d.readWithin limit (source.extract n.ann.start n.ann.stop) = ⟨[g], none⟩ ∧
          g.shift n.ann.start = n) := by
  intro f member n node
  have nodes := d.readWithin_nodes limit source f member
  refine ⟨fun ⟨rest, sp, list_node, starts⟩ => ?_, fun plain => ?_⟩
  · -- The list the head starts is derived itself: a head symbol is an atom, and no list.
    have derived : d.Derived source (.list (n :: rest) sp) := by
      rcases nodes _ list_node with derived | ⟨g, sp', -, quote, starts'⟩
      · exact derived
      · obtain ⟨kind, same, -⟩ := quote.quote_head starts' rfl
        cases same
    obtain ⟨kind, rfl, token, -⟩ := derived.quote_head starts rfl
    exact ⟨kind, rfl, token⟩
  · -- A node that heads no quote is derived at its own place.
    rcases nodes n node with derived | ⟨g, sp, list_node, -, starts⟩
    · obtain ⟨p, x, u, expr, bounded⟩ := d.readWithin_forms limit source f member
      exact derived.rereads (Nat.le_trans (Form.depth_le_of_mem_nodes f node) bounded)
    · exact absurd ⟨[g], sp, list_node, starts⟩ plain

/-- In the standard dialect `,@x` reads as an unquote-splicing whose head symbol spans the two code
points `,@`, the token of its kind; the symbol `x` in it reads again from its own text. -/
theorem splice_head_spans_prefix :
    Form.list [Form.symbol "unquote-splicing" ⟨0, 2⟩, Form.symbol "x" ⟨2, 3⟩] ⟨0, 3⟩ ∈
        (standard.readWithin nestingLimit (Text.ofString ",@x")).forms ∧
      Form.symbol "unquote-splicing" ⟨0, 2⟩ ∈
        (Form.list [Form.symbol "unquote-splicing" ⟨0, 2⟩, Form.symbol "x" ⟨2, 3⟩] ⟨0, 3⟩ :
          Form Span).nodes ∧
      (standard.QuoteHead (Text.ofString ",@x")
          (Form.list [Form.symbol "unquote-splicing" ⟨0, 2⟩, Form.symbol "x" ⟨2, 3⟩] ⟨0, 3⟩)
          (Form.symbol "unquote-splicing" ⟨0, 2⟩) →
        ∃ kind, Form.symbol "unquote-splicing" ⟨0, 2⟩ =
            Form.symbol kind.name (Form.symbol "unquote-splicing" ⟨0, 2⟩ : Form Span).ann ∧
          standard.quoteToken kind = some ((Text.ofString ",@x").extract 0 2)) ∧
      (¬ standard.QuoteHead (Text.ofString ",@x")
          (Form.list [Form.symbol "unquote-splicing" ⟨0, 2⟩, Form.symbol "x" ⟨2, 3⟩] ⟨0, 3⟩)
          (Form.symbol "unquote-splicing" ⟨0, 2⟩) →
        ∃ g, standard.readWithin nestingLimit ((Text.ofString ",@x").extract 0 2) = ⟨[g], none⟩ ∧
          g.shift 0 = Form.symbol "unquote-splicing" ⟨0, 2⟩) := by
  have cast : castAtom standard (Text.ofString "x") = some (.symbol (Text.ofString "x")) := by
    have word : (Numeral.Lexeme.read? (Text.ofString "x")).isNone := by decide
    unfold castAtom
    rw [if_neg (by decide), if_neg (by decide), if_neg (by decide),
      Option.isNone_iff_eq_none.mp word]
    rfl
  have symbol : standard.Expr 2 (Text.ofString "x") [] (Form.symbol "x" ⟨2, 3⟩) :=
    .run (by decide) (by decide) trivial (by decide) cast
  have spliced : standard.Expr 0 (Text.ofString ",@x") []
      (Form.list [Form.symbol "unquote-splicing" ⟨0, 2⟩, Form.symbol "x" ⟨2, 3⟩] ⟨0, 3⟩) :=
    .splice (q := CodePoint.ofChar ',') (n := CodePoint.ofChar '@') (a := []) (by decide) rfl rfl
      .nil symbol
  have read : standard.readWithin nestingLimit (Text.ofString ",@x") =
      ⟨[Form.list [Form.symbol "unquote-splicing" ⟨0, 2⟩, Form.symbol "x" ⟨2, 3⟩] ⟨0, 3⟩], none⟩ :=
    readWithin_of_program spliced.program
      (by simp [Form.depth, Form.depthAll, Form.symbol, nestingLimit])
  have yielded : Form.list [Form.symbol "unquote-splicing" ⟨0, 2⟩, Form.symbol "x" ⟨2, 3⟩]
      ⟨0, 3⟩ ∈ (standard.readWithin nestingLimit (Text.ofString ",@x")).forms := by
    rw [read]
    exact List.mem_singleton_self _
  have node : Form.symbol "unquote-splicing" ⟨0, 2⟩ ∈
      (Form.list [Form.symbol "unquote-splicing" ⟨0, 2⟩, Form.symbol "x" ⟨2, 3⟩] ⟨0, 3⟩ :
        Form Span).nodes :=
    Form.mem_nodes_quote.mpr (.inr (.inl rfl))
  exact ⟨yielded, node, readWithin_nodes_reread standard nestingLimit _ _ yielded _ node⟩

end Dialect

end LispReader

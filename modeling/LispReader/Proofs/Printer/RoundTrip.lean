import LispReader.Proofs.Printer.ReadBack

/-! Printing what was read and reading it again. For the standard dialect, the strict one, the one
without char literals and the one where commas are blanks and the tilde unquotes, each printed
with its own tokens in shorthand or not, every form read from any source, also one read before a
fault, prints as a text that reads back as one form and no fault; that form is the same as the
one printed and prints as the same text. -/

namespace LispReader

namespace Dialect

/-- The dialect where the comma is a blank and the tilde unquotes, as in Clojure. -/
def clojureLike : Dialect :=
  { extraBlanks := some (Text.ofString ","), unquote := some (Text.ofString "~") }

/-- The print style writing the dialect's own tokens, in shorthand or not. -/
def printStyle (d : Dialect) (shorthand : Bool) : PrintStyle where
  shorthand := shorthand
  listOpen := d.listOpen
  listClose := d.listClose
  vectorOpen := d.vectorOpen
  vectorClose := d.vectorClose
  stringDelimiter := d.stringDelimiter
  quote := d.quote
  quasiquote := d.quasiquote
  unquote := d.unquote
  splice := d.splice
  charPrefix := d.charPrefix

/-- The four dialects whose printing is read back: the standard one, the strict one, the one
without char literals and the Clojure-like one. -/
def printable : List Dialect := [standard, strict, { charLiterals := false }, clojureLike]

/-- The head of a quoted form is the symbol its name casts to. -/
theorem castAtom_head (d : Dialect) (k : QuoteKind) :
    castAtom d (Text.ofString k.name) = some (.symbol (Text.ofString k.name)) := by
  -- No quote's name is a reserved word, a number or anything that looks like one.
  have word : Numeral.Lexeme.read? (Text.ofString k.name) = none := by
    rw [← Option.isNone_iff_eq_none]
    cases k <;> decide
  have plain : Numeral.looksNumeric (Text.ofString k.name) = false := by cases k <;> decide
  unfold castAtom
  rw [if_neg (by cases k <;> decide), if_neg (by cases k <;> decide),
    if_neg (by cases k <;> decide), word]
  simp [plain]

/-- A run no constituent follows starts no char literal on its own. -/
theorem not_charLiteralAt_of_append {d : Dialect} {run u : Text}
    (plain : ¬ d.CharLiteralAt (run ++ u)) : ¬ d.CharLiteralAt run :=
  fun ⟨reads, pfx, named, pre⟩ => plain ⟨reads, pfx, named, pre.trans (List.prefix_append run u)⟩

mutual
/-- Every atom of a form of the grammar is one the dialect reads, the heads of quotes being runs. -/
theorem Expr.readsAtoms {d : Dialect} (heads : ∀ k : QuoteKind, d.IsRun (Text.ofString k.name))
    {p : Nat} {x u : Text} {f : Form Span} : d.Expr p x u f → ∀ a ∈ f.atoms, d.ReadsAtom a
  | .run some_run inside _ plain cast => fun a member => by
    rw [List.mem_singleton.mp member]
    exact .run ⟨some_run, inside, not_charLiteralAt_of_append plain⟩ cast
  | .char reads prefixed _ _ _ _ => fun a member => by
    rw [List.mem_singleton.mp member]
    exact .char _ reads prefixed
  | .string _ _ => fun a member => by
    rw [List.mem_singleton.mp member]
    exact .string _
  | @Expr.seq _ _ kind _ _ _ _ _ _ items _ => fun a member => by
    have within := Items.readsAtoms heads items
    cases kind <;> exact within a member
  | @Expr.quote _ _ q _ _ _ _ _ _ _ expr => fun a member => by
    rcases List.mem_append.mp member with head | operand
    · rw [List.mem_singleton.mp head]
      exact .run (heads (d.quoteKind q)) (castAtom_head d _)
    · simp only [Form.atomsAll, List.append_nil] at operand
      exact Expr.readsAtoms heads expr a operand
  | .splice _ _ _ _ expr => fun a member => by
    rcases List.mem_append.mp member with head | operand
    · rw [List.mem_singleton.mp head]
      exact .run (heads .unquoteSplicing) (castAtom_head d _)
    · simp only [Form.atomsAll, List.append_nil] at operand
      exact Expr.readsAtoms heads expr a operand

/-- Every atom of items of the grammar is one the dialect reads. -/
theorem Items.readsAtoms {d : Dialect} (heads : ∀ k : QuoteKind, d.IsRun (Text.ofString k.name))
    {p : Nat} {x u : Text} {fs : List (Form Span)} :
    d.Items p x u fs → ∀ a ∈ Form.atomsAll fs, d.ReadsAtom a
  | .nil _ => fun a member => by simp [Form.atomsAll] at member
  | .cons _ expr items => fun a member => by
    rcases List.mem_append.mp member with first | later
    · exact Expr.readsAtoms heads expr a first
    · exact Items.readsAtoms heads items a later
end

/-- Each of the four dialects fits its own print style, in shorthand or not. -/
theorem printStyle_fits {d : Dialect} (listed : d ∈ printable) (shorthand : Bool) :
    (d.printStyle shorthand).Fits d := by
  simp only [printable, List.mem_cons, List.not_mem_nil, or_false] at listed
  -- Every field is a fact about a few code points of a dialect given outright.
  rcases listed with rfl | rfl | rfl | rfl <;>
  exact {
    space := by decide
    listOpen := ⟨CodePoint.ofChar '(', by simp only [printStyle]; decide, by decide⟩
    listClose := ⟨CodePoint.ofChar ')', by simp only [printStyle]; decide, by decide⟩
    vectorOpen := ⟨CodePoint.ofChar '[', by simp only [printStyle]; decide, by decide⟩
    vectorClose := ⟨CodePoint.ofChar ']', by simp only [printStyle]; decide, by decide⟩
    stringDelimiter := ⟨by simp only [printStyle]; decide, by decide⟩
    escape := by decide
    quote := ⟨CodePoint.ofChar '\'', by simp only [printStyle]; decide, by decide, by decide⟩
    quasiquote := ⟨CodePoint.ofChar '`', by simp only [printStyle]; decide, by decide, by decide⟩
    unquote := ⟨_, rfl, rfl, by decide⟩
    splice := ⟨CodePoint.ofChar '@', by simp only [printStyle]; decide, by decide, by decide⟩
    charPrefix := rfl
    prefixRun := fun pfx named => by
      cases Option.some_inj.mp named
      decide
    names := by decide
    heads := fun k => by cases k <;> decide
    words := by decide }

/-- Every form one of the four dialects reads from any source, also one read before a fault,
prints with the dialect's tokens, in shorthand or not, as a text the dialect reads back as exactly
one form and no fault; that form is the same as the one printed and prints as the same text. -/
theorem read_print_read {d : Dialect} (listed : d ∈ printable) (shorthand : Bool) (source : Text)
    {f : Form Span} (yielded : f ∈ (d.read source).forms) :
    ∃ text g, (d.printStyle shorthand).print f = .ok text ∧ d.read text = ⟨[g], none⟩ ∧
      g.sameAs f ∧ (d.printStyle shorthand).print g = .ok text := by
  have fits := printStyle_fits listed shorthand
  -- The form is one of the grammar within the nesting allowed, so its atoms are ones it reads.
  obtain ⟨p, x, u, expr, bounded⟩ := d.readWithin_forms nestingLimit source f yielded
  obtain ⟨text, g, printed, read, same, printed_alike, -⟩ :=
    readWithin_print fits (Expr.readsAtoms fits.heads expr) bounded
  exact ⟨text, g, printed, read, same, printed_alike.trans printed⟩

/-- The quote of a symbol, read in the standard dialect, prints without shorthand as a list that
reads back as the same quote. -/
theorem quoted_symbol_prints_back :
    standard ∈ printable ∧
      Form.list [Form.symbol "quote" ⟨0, 1⟩, Form.symbol "x" ⟨1, 2⟩] ⟨0, 2⟩ ∈
        (standard.read (Text.ofString "'x")).forms ∧
      ∃ text g, (standard.printStyle false).print
          (Form.list [Form.symbol "quote" ⟨0, 1⟩, Form.symbol "x" ⟨1, 2⟩] ⟨0, 2⟩ : Form Span) =
            .ok text ∧
        standard.read text = ⟨[g], none⟩ ∧
        g.sameAs (Form.list [Form.symbol "quote" ⟨0, 1⟩, Form.symbol "x" ⟨1, 2⟩] ⟨0, 2⟩ : Form Span) ∧
        (standard.printStyle false).print g = .ok text := by
  have listed : standard ∈ printable := List.mem_cons_self
  have cast : castAtom standard (Text.ofString "x") = some (.symbol (Text.ofString "x")) := by
    have word : (Numeral.Lexeme.read? (Text.ofString "x")).isNone := by decide
    unfold castAtom
    rw [if_neg (by decide), if_neg (by decide), if_neg (by decide),
      Option.isNone_iff_eq_none.mp word]
    rfl
  have symbol : standard.Expr 1 (Text.ofString "x") [] (Form.symbol "x" ⟨1, 2⟩) :=
    .run (by decide) (by decide) trivial (by decide) cast
  have quoted : standard.Expr 0 (Text.ofString "'x") []
      (Form.list [Form.symbol "quote" ⟨0, 1⟩, Form.symbol "x" ⟨1, 2⟩] ⟨0, 2⟩) :=
    .quote (q := CodePoint.ofChar '\'') (a := []) (by decide) (by decide) .nil symbol
  have read : standard.read (Text.ofString "'x") =
      ⟨[Form.list [Form.symbol "quote" ⟨0, 1⟩, Form.symbol "x" ⟨1, 2⟩] ⟨0, 2⟩], none⟩ :=
    readFrom_complete .done (by simp [Form.depth, Form.depthAll, Form.symbol, nestingLimit]) []
      rfl rfl (.cons (a := []) .nil quoted (.nil .nil))
  have yielded : Form.list [Form.symbol "quote" ⟨0, 1⟩, Form.symbol "x" ⟨1, 2⟩] ⟨0, 2⟩ ∈
      (standard.read (Text.ofString "'x")).forms := by
    rw [read]
    exact List.mem_singleton_self _
  exact ⟨listed, yielded, read_print_read listed false _ yielded⟩

end Dialect

end LispReader

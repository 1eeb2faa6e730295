import LispReader.Proofs.Reader.Sound

/-! Completeness of the reader: whatever the grammar derives it reads, form by form, with the
spans the derivation gives, as long as the nesting is allowed. Each production has its lemma,
which takes what the reader does on the production's parts as a hypothesis; one recursion over the
derivation puts them together. With soundness this makes the grammar exactly what the reader
accepts, and every source a program in one way at most. -/

namespace LispReader

namespace Dialect

/-- A code point that can start a form: neither atmosphere nor a closer. -/
def StartsForm (d : Dialect) (c : CodePoint) : Prop :=
  d.categoryOf c ≠ .blank ∧ d.categoryOf c ≠ .commentStart ∧ (d.categoryOf c).isCloser = false

/-- Every form starts with a code point that can start one. -/
theorem Expr.front {d : Dialect} {p : Nat} {x u : Text} {f : Form Span} (expr : d.Expr p x u f) :
    ∃ c rest, x = c :: rest ∧ d.StartsForm c := by
  cases expr with
  | run some_run inside =>
    obtain ⟨c, rest, rfl⟩ := List.exists_cons_of_ne_nil some_run
    have plain : d.categoryOf c = .constituent := by
      simpa [isConstituent] using inside c (List.mem_cons_self ..)
    exact ⟨c, rest, rfl, by simp [StartsForm, plain, Category.isCloser]⟩
  | @char _ pfx name _ first _ _ _ starts =>
    cases whole : pfx ++ first :: name with
    | nil => simp at whole
    | cons c rest =>
      rw [whole] at starts
      have plain : d.categoryOf c = .constituent := starts
      exact ⟨c, rest, rfl, by simp [StartsForm, plain, Category.isCloser]⟩
  | string delimits => exact ⟨_, _, rfl, by simp [StartsForm, delimits, Category.isCloser]⟩
  | @seq _ kind _ _ _ _ _ opens =>
    refine ⟨_, _, List.cons_append .., ?_⟩
    cases kind <;> simp_all [StartsForm, SeqKind.opener, Category.isCloser]
  | quote quotes =>
    exact ⟨_, _, List.cons_append .., by simp [StartsForm, quotes, Category.isCloser]⟩
  | splice quotes =>
    exact ⟨_, _, List.cons_append .., by simp [StartsForm, quotes, Category.isCloser]⟩

/-- No atmosphere stands in front of a form. -/
theorem StartsForm.ends {d : Dialect} {c : CodePoint} (starts : d.StartsForm c) (rest : Text) :
    d.AtmosphereEnds (c :: rest) :=
  ⟨starts.1, starts.2.1⟩

/-- The opener of either kind of sequence starts a sequence of that kind. -/
theorem readFormAt_opener (d : Dialect) (depth : Nat) (expected : List Expectation) (t : Scan)
    {s : Scan} (skipped : t.rest.length ≤ s.rest.length) {c : CodePoint} {rest : Text}
    (front : t.rest = c :: rest) {kind : SeqKind} (opens : d.categoryOf c = kind.opener) :
    d.readFormAt depth expected t skipped = d.readSeq depth kind t (by simp [front]) skipped := by
  cases kind with
  | list => exact d.readFormAt_listOpen depth expected t skipped front opens
  | vector => exact d.readFormAt_vectorOpen depth expected t skipped front opens

/-! ### What the reader does on each production -/

/-- The form `f` is read, whatever the reader expects, from every scan that holds the text `x`
from position `p` with `u` after it. -/
def ReadsExactly (d : Dialect) (depth p : Nat) (x u : Text) (f : Form Span) : Prop :=
  ∀ (expected : List Expectation) {t s : Scan} (skipped : t.rest.length ≤ s.rest.length),
    t.point = p → t.rest = x ++ u →
      (d.readFormAt depth expected t skipped).map Step.out = .ok (f, ⟨p + x.length, u⟩)

/-- The items `more` of an open sequence, from position `p` through its closer `c`, are read
from every scan that holds them, after whatever items were read before. -/
def ReadsItemsExactly (d : Dialect) (depth : Nat) (kind : SeqKind) (p : Nat) (inner : Text)
    (c : CodePoint) (u : Text) (more : List (Form Span)) : Prop :=
  ∀ (start : Nat) (items : List (Form Span)) {s : Scan}, s.point = p → s.rest = inner ++ c :: u →
    (d.readItems depth kind start items s).map Step.out =
      .ok (kind.build (items.reverse ++ more) ⟨start, p + inner.length + 1⟩,
        ⟨p + inner.length + 1, u⟩)

section Productions

variable {d : Dialect} {depth p : Nat}

/-- A run of constituents is read as its atom. -/
theorem readsExactly_run {run u : Text} {a : Atom} (some_run : run ≠ [])
    (inside : ∀ c ∈ run, d.isConstituent c) (stops : d.StopsRun u)
    (no_char : ¬ d.CharLiteralAt (run ++ u)) (cast : castAtom d run = some a) :
    d.ReadsExactly depth p run u (.atom a ⟨p, p + run.length⟩) := by
  intro expected t s skipped at_point split
  subst at_point
  obtain ⟨c, more, rfl⟩ := List.exists_cons_of_ne_nil some_run
  have plain : d.categoryOf c = .constituent := by
    simpa [isConstituent] using inside c (List.mem_cons_self ..)
  have front : t.rest = c :: (more ++ u) := by simp [split]
  rw [d.readFormAt_atom depth expected t skipped front plain,
    d.readAtom_run front split some_run inside stops no_char cast]
  rfl

/-- A char literal is read as the character it names. -/
theorem readsExactly_char {pfx name u : Text} {first c : CodePoint} (reads : d.charLiterals)
    (named : d.charPrefix = some pfx) (starts : d.StartsWith .constituent (pfx ++ first :: name))
    (inside : ∀ c ∈ name, d.isConstituent c) (stops : d.StopsRun u)
    (resolves : CharName.resolveFrom first name = some c) :
    d.ReadsExactly depth p (pfx ++ first :: name) u
      (.atom (.char [c]) ⟨p, p + (pfx.length + 1 + name.length)⟩) := by
  intro expected t s skipped at_point split
  subst at_point
  -- The literal starts with a constituent, so the reader takes the way of an atom.
  obtain ⟨c₀, rest, whole, plain⟩ : ∃ c₀ rest, pfx ++ first :: name = c₀ :: rest ∧
      d.categoryOf c₀ = .constituent := by
    cases whole : pfx ++ first :: name with
    | nil => simp at whole
    | cons c₀ rest =>
      rw [whole] at starts
      exact ⟨c₀, rest, rfl, starts⟩
  have front : t.rest = c₀ :: (rest ++ u) := by simp [split, whole]
  have width : (pfx ++ first :: name).length = pfx.length + 1 + name.length := by
    simp only [List.length_append, List.length_cons]
    omega
  rw [d.readFormAt_atom depth expected t skipped front plain,
    d.readAtom_char front split reads named inside stops resolves, width]
  rfl

/-- A string is read as its value. -/
theorem readsExactly_string {q : CodePoint} {body value u : Text}
    (delimits : d.categoryOf q = .stringDelimiter) (string : d.StringRest q body value) :
    d.ReadsExactly depth p (q :: body) u (.atom (.string value) ⟨p, p + (body.length + 1)⟩) := by
  intro expected t s skipped at_point split
  subst at_point
  have front : t.rest = q :: (body ++ u) := by simp [split]
  rw [d.readFormAt_string depth expected t skipped front delimits,
    d.readString_complete front rfl string]
  rfl

/-- A sequence is read as its items, one level deeper. -/
theorem readsExactly_seq {kind : SeqKind} {o c : CodePoint} {inner u : Text}
    {items : List (Form Span)} (opens : d.categoryOf o = kind.opener)
    (items_read : d.ReadsItemsExactly depth kind (p + 1) inner c u items) :
    d.ReadsExactly (depth + 1) p (o :: inner ++ [c]) u
      (kind.build items ⟨p, p + inner.length + 1 + 1⟩) := by
  intro expected t s skipped at_point split
  subst at_point
  have front : t.rest = o :: (inner ++ [c] ++ u) := by simp [split]
  have moved := t.advance_one front
  rw [d.readFormAt_opener (depth + 1) expected t skipped front opens, d.readSeq_items,
    items_read t.point [] (by rw [moved]) (by simp [moved])]
  have span : t.point + 1 + inner.length + 1 = t.point + inner.length + 1 + 1 := by omega
  have width : t.point + (o :: inner ++ [c]).length = t.point + inner.length + 1 + 1 := by
    simp only [List.length_append, List.length_cons, List.length_nil]
    omega
  rw [span, width]
  rfl

/-- The prefix in front of atmosphere and a form is one code point wide when it does not splice. -/
theorem quotePrefixAt_single {q : CodePoint} {rest : Text} (no_splice : ¬ d.SplicesAt q rest) :
    d.quotePrefixAt q rest = (d.quoteKind q, 1) := by
  rcases d.quotePrefixAt_cases q rest with ⟨n, more, rfl, unquotes, marks, -⟩ | ⟨-, single⟩
  · exact absurd ⟨unquotes, marks⟩ no_splice
  · exact single

/-- After a quote prefix `q :: pfx`, atmosphere and a form, the reader stands at the form. -/
theorem afterQuotePrefix_at {t : Scan} {q : CodePoint} {rest pfx a x u : Text}
    (front : t.rest = q :: rest) (width : (d.quotePrefixAt q rest).2 = (q :: pfx).length)
    (split : rest = pfx ++ a ++ x ++ u) (blanks : d.Atmosphere a) (ends : d.AtmosphereEnds (x ++ u)) :
    d.afterQuotePrefix t q rest = ⟨t.point + (q :: pfx).length + a.length, x ++ u⟩ := by
  rw [afterQuotePrefix, width,
    t.advance_append (show t.rest = (q :: pfx) ++ (a ++ (x ++ u)) by simp [front, split])]
  exact d.skipAtmosphere_exact rfl blanks ends

/-- The unquote prefix followed by the splice mark is the two-wide unquote-splicing prefix. -/
theorem quotePrefixAt_splice {q n : CodePoint} (rest : Text) (unquotes : d.unquote = some [q])
    (marks : d.splice = some [n]) :
    d.quotePrefixAt q (n :: rest) = (.unquoteSplicing, 2) := by
  simp [quotePrefixAt, unquotes, marks]

/-- A quote prefix `q :: pfx` of the kind given, atmosphere and a form are read as the list of the
kind's head symbol and the form, one level deeper. -/
theorem readsExactly_prefixed (pfx : Text) {q c : CodePoint} {a x u more : Text} {f : Form Span}
    {kind : QuoteKind} (quotes : d.categoryOf q = .quotePrefix)
    (prefixed : d.quotePrefixAt q (pfx ++ a ++ x ++ u) = (kind, (q :: pfx).length))
    (blanks : d.Atmosphere a) (first : x = c :: more) (starts : d.StartsForm c)
    (inner_read : d.ReadsExactly depth (p + (q :: pfx).length + a.length) x u f) :
    d.ReadsExactly (depth + 1) p (q :: pfx ++ a ++ x) u
      (.list [Form.symbol kind.name ⟨p, p + (q :: pfx).length⟩, f]
        ⟨p, p + (q :: pfx).length + a.length + x.length⟩) := by
  intro expected t s skipped at_point split
  subst at_point first
  have front : t.rest = q :: (pfx ++ a ++ (c :: more) ++ u) := by simp [split]
  -- The prefix and its atmosphere are passed over, and the form follows.
  have after := d.afterQuotePrefix_at front (by rw [prefixed]) rfl blanks (starts.ends (more ++ u))
  have operand : d.endsOrCloses (d.afterQuotePrefix t q (pfx ++ a ++ (c :: more) ++ u)).rest =
      false := by
    rw [after]
    exact starts.2.2
  rw [d.readFormAt_quotePrefix (depth + 1) expected t skipped front quotes,
    d.readQuoted_operand depth t q _ front skipped operand, after, readForm_eq]
  have skip_eq : d.skipAtmosphere ⟨t.point + (q :: pfx).length + a.length, (c :: more) ++ u⟩ =
      ⟨t.point + (q :: pfx).length + a.length, (c :: more) ++ u⟩ :=
    d.skipAtmosphere_exact (a := []) rfl .nil (starts.ends (more ++ u))
  obtain ⟨inner, found, same_form, same_next⟩ := Step.exists_of_map_out
    (inner_read [.expression] (d.skipAtmosphere_length_le _) (by rw [skip_eq]) (by rw [skip_eq]))
  rw [found, prefixed]
  simp only [Except.map]
  rw [same_form, same_next]
  have width : t.point + (q :: pfx ++ a ++ c :: more).length =
      t.point + (q :: pfx).length + a.length + (c :: more).length := by
    simp only [List.length_append, List.length_cons]
    omega
  rw [width]

/-- A quote prefix that does not splice, atmosphere and a form are read as the list of the quote's
head symbol and the form. -/
theorem readsExactly_quote {q c : CodePoint} {a x u more : Text} {f : Form Span}
    (quotes : d.categoryOf q = .quotePrefix) (no_splice : ¬ d.SplicesAt q (a ++ x ++ u))
    (blanks : d.Atmosphere a) (first : x = c :: more) (starts : d.StartsForm c)
    (inner_read : d.ReadsExactly depth (p + 1 + a.length) x u f) :
    d.ReadsExactly (depth + 1) p (q :: a ++ x) u
      (.list [Form.symbol (d.quoteKind q).name ⟨p, p + 1⟩, f] ⟨p, p + 1 + a.length + x.length⟩) :=
  readsExactly_prefixed [] quotes (quotePrefixAt_single no_splice) blanks first starts inner_read

/-- The unquote prefix, the splice mark, atmosphere and a form are read as the list of the
unquote-splicing head symbol and the form. -/
theorem readsExactly_splice {q n c : CodePoint} {a x u more : Text} {f : Form Span}
    (quotes : d.categoryOf q = .quotePrefix) (unquotes : d.unquote = some [q])
    (marks : d.splice = some [n]) (blanks : d.Atmosphere a) (first : x = c :: more)
    (starts : d.StartsForm c) (inner_read : d.ReadsExactly depth (p + 2 + a.length) x u f) :
    d.ReadsExactly (depth + 1) p (q :: n :: a ++ x) u
      (.list [Form.symbol QuoteKind.unquoteSplicing.name ⟨p, p + 2⟩, f]
        ⟨p, p + 2 + a.length + x.length⟩) :=
  readsExactly_prefixed [n] quotes (quotePrefixAt_splice _ unquotes marks) blanks first starts
    inner_read

/-- Atmosphere and the closer end the items. -/
theorem readsItemsExactly_nil {kind : SeqKind} {c : CodePoint} {a u : Text}
    (closes : d.categoryOf c = kind.closer) (blanks : d.Atmosphere a) :
    d.ReadsItemsExactly depth kind p a c u [] := by
  intro start items s at_point split
  subst at_point
  have ends : d.AtmosphereEnds (c :: u) := by
    cases kind <;> simp_all [AtmosphereEnds, SeqKind.closer]
  have skipped := d.skipAtmosphere_exact split blanks ends
  have front : (d.skipAtmosphere s).rest = c :: u := by rw [skipped]
  rw [readItems_eq, d.readItemsAt_close depth kind start items _ _ front closes, skipped,
    Scan.advance_one _ rfl, List.append_nil]

/-- Atmosphere and an item come first, and the items after it follow. -/
theorem readsItemsExactly_cons {kind : SeqKind} {c c₀ : CodePoint} {a x more rest u : Text}
    {f : Form Span} {fs : List (Form Span)} (blanks : d.Atmosphere a) (first : x = c₀ :: more)
    (starts : d.StartsForm c₀) (item_read : d.ReadsExactly depth (p + a.length) x (rest ++ c :: u) f)
    (rest_read : d.ReadsItemsExactly depth kind (p + a.length + x.length) rest c u fs) :
    d.ReadsItemsExactly depth kind p (a ++ x ++ rest) c u (f :: fs) := by
  intro start items s at_point split
  subst at_point first
  have skipped := d.skipAtmosphere_exact
    (show s.rest = a ++ ((c₀ :: more) ++ (rest ++ c :: u)) by simp [split]) blanks
    (starts.ends (more ++ (rest ++ c :: u)))
  have front : (d.skipAtmosphere s).rest = c₀ :: (more ++ (rest ++ c :: u)) := by rw [skipped]; rfl
  rw [readItems_eq, d.readItemsAt_item depth kind start items _ _ front starts.2.2]
  -- The item is read where the atmosphere ends, and the items after it from where it ends.
  obtain ⟨item, found, same_form, same_next⟩ := Step.exists_of_map_out
    (item_read (kind.expected d) (Nat.le_refl (d.skipAtmosphere s).rest.length) (by rw [skipped])
      (by rw [skipped]))
  rw [found]
  dsimp only [Except.bind]
  rw [same_form, rest_read start (f :: items) (by rw [same_next]) (by rw [same_next])]
  have width : s.point + (a ++ c₀ :: more ++ rest).length =
      s.point + a.length + (c₀ :: more).length + rest.length := by
    simp only [List.length_append, List.length_cons]
    omega
  rw [width, List.reverse_cons, List.append_assoc, List.singleton_append]

end Productions

/-! ### Every derivation is read -/

mutual
/-- Every form by the grammar is read, whatever the reader expects, when its nesting is
allowed. -/
theorem Expr.read_complete {d : Dialect} {p : Nat} {x u : Text} {f : Form Span} {depth : Nat}
    (bounded : f.depth ≤ depth) : d.Expr p x u f → d.ReadsExactly depth p x u f
  | .run some_run inside stops no_char cast => readsExactly_run some_run inside stops no_char cast
  | .char reads named starts inside stops resolves =>
    readsExactly_char reads named starts inside stops resolves
  | .string delimits string => readsExactly_string delimits string
  | .seq opens items closes => by
    -- A sequence takes one level, its items the rest.
    rw [SeqKind.depth_build] at bounded
    obtain ⟨depth, rfl⟩ : ∃ inner, depth = inner + 1 := ⟨depth - 1, by omega⟩
    exact readsExactly_seq opens (Items.read_complete closes
      (fun g member => Nat.le_trans (Form.depth_le_depthAll member) (by omega)) rfl items)
  | .quote quotes no_splice blanks expr => by
    rw [depth_quoted _ (by simp [Form.symbol, Form.depth])] at bounded
    obtain ⟨depth, rfl⟩ : ∃ inner, depth = inner + 1 := ⟨depth - 1, by omega⟩
    obtain ⟨c, more, first, starts⟩ := expr.front
    exact readsExactly_quote quotes no_splice blanks first starts
      (Expr.read_complete (by omega) expr)
  | .splice quotes unquotes marks blanks expr => by
    rw [depth_quoted _ (by simp [Form.symbol, Form.depth])] at bounded
    obtain ⟨depth, rfl⟩ : ∃ inner, depth = inner + 1 := ⟨depth - 1, by omega⟩
    obtain ⟨c, more, first, starts⟩ := expr.front
    exact readsExactly_splice quotes unquotes marks blanks first starts
      (Expr.read_complete (by omega) expr)

/-- All items by the grammar are read through the closer, when their nesting is allowed. -/
theorem Items.read_complete {d : Dialect} {kind : SeqKind} {p : Nat} {inner : Text}
    {c : CodePoint} {u w : Text} {more : List (Form Span)} {depth : Nat}
    (closes : d.categoryOf c = kind.closer) (bounded : ∀ g ∈ more, g.depth ≤ depth)
    (closed : w = c :: u) : d.Items p inner w more → d.ReadsItemsExactly depth kind p inner c u more
  | .nil blanks => readsItemsExactly_nil closes blanks
  | .cons blanks expr rest => by
    have item_read := Expr.read_complete (bounded _ (List.mem_cons_self ..)) expr
    have rest_read := Items.read_complete closes
      (fun g member => bounded g (List.mem_cons_of_mem _ member)) closed rest
    obtain ⟨c₀, x, first, starts⟩ := expr.front
    subst closed
    exact readsItemsExactly_cons blanks first starts item_read rest_read
end

/-- A source of items by the grammar followed by an ending is read form by form to its end,
without a fault, when the nesting of each form is allowed. -/
theorem readFrom_complete {d : Dialect} {limit p : Nat} {x tail : Text} {more : List (Form Span)}
    (ending : d.Ending tail) (bounded : ∀ f ∈ more, f.depth ≤ limit) (read : List (Form Span))
    {s : Scan} (at_point : s.point = p) (split : s.rest = x ++ tail) :
    d.Items p x tail more → d.readFrom limit s read = ⟨read.reverse ++ more, none⟩
  | .nil blanks => by
    rw [d.readFrom_end limit s read (by rw [d.skipAtmosphere_to_end split blanks ending]),
      List.append_nil]
  | @Items.cons _ _ a x rest _ f fs blanks expr items => by
    subst at_point
    obtain ⟨c₀, more, rfl, starts⟩ := expr.front
    have skipped := d.skipAtmosphere_exact
      (show s.rest = a ++ ((c₀ :: more) ++ (rest ++ tail)) by simp [split]) blanks
      (starts.ends (more ++ (rest ++ tail)))
    rw [d.readFrom_form limit s read (by rw [skipped]; simp)]
    -- The first form is read where the atmosphere ends, the rest from where it ends.
    obtain ⟨step, found, same_form, same_next⟩ := Step.exists_of_map_out
      (Expr.read_complete (bounded f (List.mem_cons_self ..)) expr [.expression]
        (d.skipAtmosphere_length_le s) (by rw [skipped]) (by rw [skipped]))
    rw [found]
    dsimp only
    rw [same_form, readFrom_complete ending (fun g member => bounded g (List.mem_cons_of_mem _ member))
      (f :: read) (by rw [same_next]) (by rw [same_next]) items]
    simp

/-- A program of the grammar is read to its end without a fault, when the nesting of each form is
allowed. -/
theorem readWithin_of_program {d : Dialect} {limit : Nat} {source : Text}
    {forms : List (Form Span)} (program : d.Program source forms)
    (bounded : ∀ f ∈ forms, f.depth ≤ limit) : d.readWithin limit source = ⟨forms, none⟩ := by
  obtain ⟨items, ending⟩ := program
  exact (readFrom_complete ending bounded [] rfl rfl items).trans (by simp)

/-- Atmosphere, the text of one form, atmosphere and an ending are read as that form when its
nesting is allowed. -/
theorem readWithin_of_parts {d : Dialect} {limit : Nat} {a x rest tail : Text} {f : Form Span}
    (blanks : d.Atmosphere a) (expr : d.Expr a.length x (rest ++ tail) f)
    (blanks' : d.Atmosphere rest) (ending : d.Ending tail) (bounded : f.depth ≤ limit) :
    d.readWithin limit (a ++ x ++ rest ++ tail) = ⟨[f], none⟩ := by
  have expr' : d.Expr (0 + a.length) x (rest ++ tail) f := by
    rwa [Nat.zero_add]
  exact readWithin_of_program (.mk (.cons blanks expr' (.nil blanks')) ending)
    (by simpa using bounded)

/-- A source derived as one form, with nothing before or after it, is read as that form when its
nesting is allowed. -/
theorem readWithin_single {d : Dialect} {limit : Nat} {source : Text} {f : Form Span}
    (expr : d.Expr 0 source [] f) (bounded : f.depth ≤ limit) :
    d.readWithin limit source = ⟨[f], none⟩ := by
  simpa using readWithin_of_parts .nil expr .nil .done bounded

/-- A source read as one form without a fault is atmosphere, the text of the form, atmosphere and
an ending. -/
theorem readWithin_single_parts {d : Dialect} {limit : Nat} {source : Text} {f : Form Span}
    (read : d.readWithin limit source = ⟨[f], none⟩) :
    ∃ a x rest tail, source = a ++ x ++ rest ++ tail ∧ d.Atmosphere a ∧
      d.Expr a.length x (rest ++ tail) f ∧ d.Atmosphere rest ∧ d.Ending tail := by
  obtain ⟨⟨items, ending⟩, -⟩ := d.readWithin_sound read
  rename_i x tail
  -- One form: the items after it are atmosphere alone.
  rcases items with _ | ⟨blanks, expr, after⟩
  rcases after with ⟨blanks'⟩
  rename_i a x' rest
  rw [Nat.zero_add] at expr
  exact ⟨a, x', rest, tail, by simp, blanks, expr, blanks', ending⟩

/-- The reader reads a source to its end without a fault exactly when the source is a program of
the grammar, and then its forms are the program's, each within the nesting allowed. -/
theorem readWithin_eq_iff_program (d : Dialect) (limit : Nat) (source : Text)
    (forms : List (Form Span)) :
    d.readWithin limit source = ⟨forms, none⟩ ↔
      d.Program source forms ∧ ∀ f ∈ forms, f.depth ≤ limit :=
  ⟨d.readWithin_sound, fun ⟨program, bounded⟩ => readWithin_of_program program bounded⟩

/-- The grammar is unambiguous: a source is a program of one list of forms at most. -/
theorem Program.unique {d : Dialect} {source : Text} {forms forms' : List (Form Span)}
    (first : d.Program source forms) (second : d.Program source forms') : forms = forms' := by
  -- Both are read with nesting enough for either, and the reader gives one answer.
  let limit := max (Form.depthAll forms) (Form.depthAll forms')
  have read : d.readWithin limit source = ⟨forms, none⟩ := readWithin_of_program first
    fun f member => Nat.le_trans (Form.depth_le_depthAll member) (Nat.le_max_left _ _)
  have read' : d.readWithin limit source = ⟨forms', none⟩ := readWithin_of_program second
    fun f member => Nat.le_trans (Form.depth_le_depthAll member) (Nat.le_max_right _ _)
  rw [read] at read'
  exact congrArg Reading.forms read'

/-- Where the escape is the string delimiter, the delimiter closes the string before it can
escape: four delimiters read as two empty strings, and never as one string of an escaped
delimiter, which an escape followed by any code point would also derive. -/
theorem escape_as_delimiter_closes_string :
    ({ escape := some (Text.ofString "\"") } : Dialect).read (Text.ofString "\"\"\"\"") =
      ⟨[.atom (.string []) ⟨0, 2⟩, .atom (.string []) ⟨2, 4⟩], none⟩ := by
  have delimits : ({ escape := some (Text.ofString "\"") } : Dialect).categoryOf
      (CodePoint.ofChar '"') = .stringDelimiter := by decide
  exact readFrom_complete .done (by simp [Form.depth]) [] rfl (by decide)
    (.cons .nil (.string delimits .close) (.cons .nil (.string delimits .close) (.nil .nil)))

end Dialect

end LispReader

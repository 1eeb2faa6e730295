import LispReader.Form.Printer
import LispReader.Proofs.Reader.Complete
import LispReader.Proofs.Char.Names
import LispReader.Proofs.Numeral.NotANumber
import Mathlib.Data.List.Forall2

/-! Printed forms read back. A print style fits a dialect when the tokens it writes are the
dialect's and the words it writes are runs; then every form whose atoms the dialect reads prints
as a text that reads back as one form, the same as the one printed, printing as the same text and
nesting as deeply. The proof follows the form: an atom prints as a run, a string or a char literal
that the grammar reads as that atom; a list or a vector prints its items between its brackets with
spaces between them; a quoted form in shorthand prints as its prefix and its operand, with a space
after an unquote whose operand starts with the splice mark. -/

namespace LispReader

namespace Form

mutual
/-- The atoms of a form, left to right. -/
def atoms : Form α → List Atom
  | .atom a _ => [a]
  | .list items _ | .vector items _ => atomsAll items

/-- The atoms of some forms, left to right. -/
def atomsAll : List (Form α) → List Atom
  | [] => []
  | f :: rest => f.atoms ++ atomsAll rest
end

end Form

namespace Dialect

/-- A text the dialect reads as one run wherever no constituent follows it: it is not empty,
holds constituents only and starts no char literal. -/
structure IsRun (d : Dialect) (run : Text) : Prop where
  /-- The run is not empty. -/
  ne_nil : run ≠ []
  /-- Every code point of the run is a constituent. -/
  constituents : ∀ c ∈ run, d.isConstituent c
  /-- No char literal starts the run. -/
  no_char : ¬ d.CharLiteralAt run

instance (d : Dialect) (run : Text) : Decidable (d.IsRun run) :=
  decidable_of_iff (run ≠ [] ∧ (∀ c ∈ run, d.isConstituent c) ∧ ¬ d.CharLiteralAt run)
    ⟨fun ⟨some_run, inside, plain⟩ => ⟨some_run, inside, plain⟩,
      fun run => ⟨run.ne_nil, run.constituents, run.no_char⟩⟩

/-- An atom the dialect reads: the atom of a run, a string, or a character when the dialect reads
char literals. -/
inductive ReadsAtom (d : Dialect) : Atom → Prop where
  /-- The atom a run casts to. -/
  | run {run : Text} {a : Atom} : d.IsRun run → castAtom d run = some a → ReadsAtom d a
  /-- A string. -/
  | string (value : Text) : ReadsAtom d (.string value)
  /-- A character. -/
  | char (c : CodePoint) {pfx : Text} : d.charLiterals → d.charPrefix = some pfx →
      ReadsAtom d (.char [c])

end Dialect

namespace PrintStyle

/-- A print style fits a dialect when what it prints reads back: its brackets and the string
delimiter are single code points of their roles, strings escape with the dialect's backslash, its
quote prefixes are the dialect's, the space separates, and the char prefix, the letters of char
names and the words printed for quotes, truth values and nil are constituents. -/
structure Fits (st : PrintStyle) (d : Dialect) : Prop where
  /-- The space is a blank. -/
  space : d.categoryOf (CodePoint.ofChar ' ') = .blank
  /-- A list opens with one code point that opens a list. -/
  listOpen : ∃ o, st.listOpen = some [o] ∧ d.categoryOf o = .listOpen
  /-- A list closes with one code point that closes a list. -/
  listClose : ∃ c, st.listClose = some [c] ∧ d.categoryOf c = .listClose
  /-- A vector opens with one code point that opens a vector. -/
  vectorOpen : ∃ o, st.vectorOpen = some [o] ∧ d.categoryOf o = .vectorOpen
  /-- A vector closes with one code point that closes a vector. -/
  vectorClose : ∃ c, st.vectorClose = some [c] ∧ d.categoryOf c = .vectorClose
  /-- Strings are delimited by the double quote, which delimits them in the dialect. -/
  stringDelimiter : st.stringDelimiter = some [CodePoint.ofChar '"'] ∧
    d.categoryOf (CodePoint.ofChar '"') = .stringDelimiter
  /-- The dialect escapes with the backslash, as the printer does. -/
  escape : d.escape = some [CodePoint.ofChar '\\']
  /-- The quote prefix is one code point that quotes. -/
  quote : ∃ q, st.quote = some [q] ∧ d.categoryOf q = .quotePrefix ∧ d.quoteKind q = .quote
  /-- The quasiquote prefix is one code point that quasiquotes. -/
  quasiquote : ∃ q, st.quasiquote = some [q] ∧ d.categoryOf q = .quotePrefix ∧
    d.quoteKind q = .quasiquote
  /-- The unquote prefix is the dialect's, one code point. -/
  unquote : ∃ q, st.unquote = some [q] ∧ d.unquote = some [q] ∧ d.categoryOf q = .quotePrefix
  /-- The splice mark is the dialect's, one code point and no blank. -/
  splice : ∃ n, st.splice = some [n] ∧ d.splice = some [n] ∧ d.categoryOf n ≠ .blank
  /-- Char literals are printed with the dialect's prefix. -/
  charPrefix : st.charPrefix = d.charPrefix
  /-- The char prefix is constituents. -/
  prefixRun : ∀ pfx, d.charPrefix = some pfx → pfx ≠ [] ∧ ∀ c ∈ pfx, d.isConstituent c
  /-- The letters and digits of char names are constituents. -/
  names : ∀ c ∈ CharName.nameAlphabet, d.isConstituent c
  /-- The heads of quoted forms are runs. -/
  heads : ∀ k : QuoteKind, d.IsRun (Text.ofString k.name)
  /-- The words for the truth values and nil are runs. -/
  words : ∀ word ∈ [Text.ofString "#t", Text.ofString "#f", Text.ofString "nil"], d.IsRun word

end PrintStyle

/-- A code point of the given number is the code point of the character of that number. -/
theorem CodePoint.eq_ofChar {p : CodePoint} {c : Char} (same : p.val = c.toNat) :
    p = CodePoint.ofChar c := by
  cases p
  simp_all [CodePoint.ofChar]

namespace PrintStyle

/-- A code point of a string prints as itself when it is neither the double quote nor the
backslash, and otherwise as the backslash and a code point that unescapes to it. -/
theorem escapeInString_cases (c : CodePoint) :
    (escapeInString c = [c] ∧ c ≠ CodePoint.ofChar '"' ∧ c ≠ CodePoint.ofChar '\\') ∨
      ∃ e, escapeInString c = [CodePoint.ofChar '\\', e] ∧ unescape e = c := by
  unfold escapeInString
  -- The six escaped code points, each with the letter or mark that unescapes to it.
  split
  · rename_i same
    rw [CodePoint.eq_ofChar (c := '\\') same]
    exact .inr ⟨CodePoint.ofChar '\\', by decide, by decide⟩
  split
  · rename_i same
    rw [CodePoint.eq_ofChar (c := '"') same]
    exact .inr ⟨CodePoint.ofChar '"', by decide, by decide⟩
  split
  · rename_i same
    rw [CodePoint.eq_ofChar (c := '\n') same]
    exact .inr ⟨CodePoint.ofChar 'n', by decide, by decide⟩
  split
  · rename_i same
    rw [CodePoint.eq_ofChar (c := '\t') same]
    exact .inr ⟨CodePoint.ofChar 't', by decide, by decide⟩
  split
  · rename_i same
    rw [CodePoint.eq_ofChar (c := '\r') same]
    exact .inr ⟨CodePoint.ofChar 'r', by decide, by decide⟩
  split
  · rename_i same
    rw [CodePoint.eq_ofChar (c := '\x00') same]
    exact .inr ⟨CodePoint.ofChar '0', by decide, by decide⟩
  · rename_i backslash quote _ _ _ _
    refine .inl ⟨rfl, fun same => quote ?_, fun same => backslash ?_⟩
    · rw [same]
      rfl
    · rw [same]
      rfl

/-- No code point of a value prints as a text that starts with the code point `q`, so that the value
printed between delimiters `q` holds no delimiter of its own. -/
def PrintsClearOf (q : CodePoint) (value : Text) : Prop :=
  ∀ c ∈ value, (escapeInString c).head? ≠ some q

instance (q : CodePoint) (value : Text) : Decidable (PrintsClearOf q value) :=
  inferInstanceAs (Decidable (∀ c ∈ value, _))

/-- The printer escapes six code points: the backslash, the double quote, the line feed, the tab,
the carriage return and NUL. -/
theorem mem_escaped {c : CodePoint} (escaped : escapeInString c ≠ [c]) :
    c ∈ [CodePoint.ofChar '\\', CodePoint.ofChar '"', CodePoint.ofChar '\n', CodePoint.ofChar '\t',
      CodePoint.ofChar '\r', CodePoint.ofChar '\x00'] := by
  unfold escapeInString at escaped
  split_ifs at escaped with backslash quote newline tab cr nul
  · simp [CodePoint.eq_ofChar (c := '\\') backslash]
  · simp [CodePoint.eq_ofChar (c := '"') quote]
  · simp [CodePoint.eq_ofChar (c := '\n') newline]
  · simp [CodePoint.eq_ofChar (c := '\t') tab]
  · simp [CodePoint.eq_ofChar (c := '\r') cr]
  · simp [CodePoint.eq_ofChar (c := '\x00') nul]
  · exact absurd rfl escaped

/-- A code point prints as a text that starts with itself when it prints as itself, and with the
backslash when it is escaped. -/
theorem head_escapeInString (c : CodePoint) :
    (escapeInString c).head? =
      some (if escapeInString c = [c] then c else CodePoint.ofChar '\\') := by
  rcases escapeInString_cases c with ⟨plain, -, -⟩ | ⟨e, escaped, -⟩
  · rw [if_pos plain, plain]
    rfl
  · rw [if_neg (by simp [escaped]), escaped]
    rfl

/-- The backslash starts every escape, and is escaped itself. -/
theorem backslash_escaped : escapeInString (CodePoint.ofChar '\\') ≠ [CodePoint.ofChar '\\'] := by
  decide

/-- Every value prints clear of a code point the printer escapes, other than the backslash: that
code point is printed as the backslash and a letter or mark, and nothing prints as a text starting
with it. -/
theorem printsClearOf_of_escaped {q : CodePoint} (escaped : escapeInString q ≠ [q])
    (not_backslash : q ≠ CodePoint.ofChar '\\') (value : Text) : PrintsClearOf q value := by
  intro c _
  rw [head_escapeInString]
  split_ifs with plain
  · intro same
    obtain rfl := Option.some.inj same
    exact escaped plain
  · exact fun same => not_backslash (Option.some.inj same).symm

/-- Every value prints clear of the double quote, which the printer escapes with the backslash. -/
theorem printsClearOf_doubleQuote (value : Text) : PrintsClearOf (CodePoint.ofChar '"') value :=
  printsClearOf_of_escaped (by decide) (by decide) value

/-- A value prints clear of the backslash exactly when each of its code points prints as itself. -/
theorem printsClearOf_backslash_iff (value : Text) :
    PrintsClearOf (CodePoint.ofChar '\\') value ↔ ∀ c ∈ value, escapeInString c = [c] := by
  refine ⟨fun clear c member => ?_, fun plain c member => ?_⟩
  · -- An escaped code point would print as a text starting with the backslash.
    have starts := clear c member
    rw [head_escapeInString] at starts
    by_contra escapes
    exact starts (by rw [if_neg escapes])
  · rw [head_escapeInString, if_pos (plain c member)]
    intro same
    obtain rfl := Option.some.inj same
    exact backslash_escaped (plain _ member)

/-- A value prints clear of a code point the printer writes as itself exactly when it does not hold
that code point. -/
theorem printsClearOf_iff_not_mem {q : CodePoint} (plain : escapeInString q = [q]) (value : Text) :
    PrintsClearOf q value ↔ q ∉ value := by
  -- The backslash that starts every escape is not q, since q prints as itself.
  have not_backslash : CodePoint.ofChar '\\' ≠ q := by
    rintro rfl
    exact backslash_escaped plain
  refine ⟨fun clear member => ?_, fun absent c member => ?_⟩
  · have starts := clear q member
    rw [head_escapeInString, if_pos plain] at starts
    exact starts rfl
  · rw [head_escapeInString]
    split_ifs
    · intro same
      obtain rfl := Option.some.inj same
      exact absent member
    · exact fun same => not_backslash (Option.some.inj same)

end PrintStyle

namespace Dialect

/-- The atom a run casts to: nil, a truth value, a number keeping the run as its lexeme, or the
symbol of the run. -/
theorem castAtom_cases {d : Dialect} {run : Text} {a : Atom} (cast : castAtom d run = some a) :
    a = .nil ∨ (∃ b, a = .bool b) ∨ (∃ value, a = .number ⟨value, some run⟩) ∨ a = .symbol run := by
  unfold castAtom at cast
  split at cast
  · cases cast
    exact .inl rfl
  split at cast
  · cases cast
    exact .inr (.inl ⟨true, rfl⟩)
  split at cast
  · cases cast
    exact .inr (.inl ⟨false, rfl⟩)
  split at cast
  · obtain ⟨value, -, rfl⟩ := Option.map_eq_some_iff.mp cast
    exact .inr (.inr (.inl ⟨value, rfl⟩))
  · split at cast
    · cases cast
    · cases cast
      exact .inr (.inr (.inr rfl))

/-- The word a truth value prints as casts to it. -/
theorem castAtom_bool (d : Dialect) (b : Bool) :
    castAtom d (Text.ofString (if b then "#t" else "#f")) = some (.bool b) := by
  unfold castAtom
  cases b
  · rw [if_neg (by decide), if_neg (by decide), if_pos (by decide)]
  · rw [if_neg (by decide), if_pos (by decide)]

/-- The word nil prints as casts to it. -/
theorem castAtom_nil (d : Dialect) : castAtom d (Text.ofString "nil") = some .nil := by
  unfold castAtom
  rw [if_pos rfl]

/-- An atom the dialect reads is the same as itself. -/
theorem ReadsAtom.sameAs_self {d : Dialect} {a : Atom} (reads : d.ReadsAtom a) : a.sameAs a := by
  cases reads with
  | run _ cast => exact castAtom_sameAs_self cast
  | string value => simp [Atom.sameAs]
  | char c _ _ => simp [Atom.sameAs]

section Printed

variable {d : Dialect} {st : PrintStyle}

/-- No char literal starts a run that no constituent follows, the prefix being constituents. -/
theorem IsRun.no_char_before (fits : st.Fits d) {t u : Text} (run : d.IsRun t)
    (stops : d.StopsRun u) : ¬ d.CharLiteralAt (t ++ u) := by
  rintro ⟨reads, pfx, named, pre⟩
  have ⟨_, inside⟩ := fits.prefixRun pfx named
  apply run.no_char
  refine ⟨reads, pfx, named, ?_⟩
  by_cases short : pfx.length ≤ t.length
  · exact List.prefix_of_prefix_length_le pre (List.prefix_append t u) short
  · -- A longer prefix would take the code point after the run, which is no constituent.
    obtain ⟨w, rfl⟩ := List.prefix_of_prefix_length_le (List.prefix_append t u) pre (by omega)
    cases w with
    | nil => simp at short
    | cons c w =>
      obtain ⟨v, rfl⟩ := (List.prefix_append_right_inj t).mp pre
      have constituent := inside c (by simp)
      simp only [List.cons_append, StopsRun] at stops
      simp [stops] at constituent

/-- A run reads as the atom it casts to wherever no constituent follows it. -/
theorem IsRun.expr (fits : st.Fits d) {t u : Text} {a : Atom} (run : d.IsRun t)
    (cast : castAtom d t = some a) (stops : d.StopsRun u) (p : Nat) :
    d.Expr p t u (.atom a ⟨p, p + t.length⟩) :=
  .run run.ne_nil run.constituents stops (run.no_char_before fits stops) cast

/-- The atom a run casts to prints as a run that casts to it again: the run itself, or the word
for a truth value or nil. -/
theorem castAtom_print (fits : st.Fits d) {run : Text} {a : Atom} (isRun : d.IsRun run)
    (cast : castAtom d run = some a) :
    ∃ t, st.printAtom a = .ok t ∧ d.IsRun t ∧ castAtom d t = some a := by
  rcases castAtom_cases cast with rfl | ⟨b, rfl⟩ | ⟨value, rfl⟩ | rfl
  · exact ⟨_, rfl, fits.words _ (by simp), castAtom_nil d⟩
  · exact ⟨_, rfl, fits.words _ (by cases b <;> simp), castAtom_bool d b⟩
  · exact ⟨run, rfl, isRun, cast⟩
  · exact ⟨run, rfl, isRun, cast⟩

/-- With the backslash as the escape, the printed value of a string and a closing delimiter `q` are
the rest of a string of that value, when no code point of the value prints as a text starting with
`q`. -/
theorem stringRest_printed {q : CodePoint} (escape : d.escape = some [CodePoint.ofChar '\\'])
    {value : Text} (clear : PrintStyle.PrintsClearOf q value) :
    d.StringRest q (value.flatMap PrintStyle.escapeInString ++ [q]) value := by
  -- One code point of the value at a time, each as its escape.
  induction value with
  | nil => exact .close
  | cons c value ih =>
    have first := clear c List.mem_cons_self
    have rest := ih fun c' member => clear c' (List.mem_cons_of_mem c member)
    rw [List.flatMap_cons, List.append_assoc]
    rcases PrintStyle.escapeInString_cases c with ⟨plain, -, not_backslash⟩ | ⟨e, escaped, back⟩
    · rw [plain] at first ⊢
      refine .plain (by simpa using first) ?_ rest
      rw [escape]
      intro same
      exact not_backslash (List.singleton_inj.mp (Option.some_inj.mp same)).symm
    · rw [escaped] at first ⊢
      rw [← back]
      exact .escaped (by simpa using first) escape rest

/-- The escaped value of a string and the closing double quote are the rest of a string of that
value. -/
theorem stringRest_escaped (fits : st.Fits d) (value : Text) :
    d.StringRest (CodePoint.ofChar '"')
      (value.flatMap PrintStyle.escapeInString ++ [CodePoint.ofChar '"']) value :=
  stringRest_printed fits.escape (PrintStyle.printsClearOf_doubleQuote value)

/-- A character prints as the char prefix and its name, which reads back as the character
wherever no constituent follows it. -/
theorem char_readsBack (fits : st.Fits d) {c : CodePoint} {pfx : Text} (reads : d.charLiterals)
    (prefixed : d.charPrefix = some pfx) :
    ∃ t, st.printAtom (.char [c]) = .ok t ∧
      ∀ p u, d.StopsRun u → ∃ span, d.Expr p t u (.atom (.char [c]) span) := by
  obtain ⟨first, rest, named, letters, resolves⟩ := CharName.resolveFrom_nameOf c
  obtain ⟨pfx_nonempty, inside⟩ := fits.prefixRun pfx prefixed
  -- The prefix starts with a constituent and the name's letters are constituents.
  have starts : d.StartsWith .constituent (pfx ++ first :: rest) := by
    obtain ⟨c₀, more, rfl⟩ := List.exists_cons_of_ne_nil pfx_nonempty
    simpa [StartsWith, isConstituent] using inside c₀ (by simp)
  refine ⟨pfx ++ first :: rest, ?_, fun p u stops =>
    ⟨_, .char reads prefixed starts (fun x member => fits.names x (letters x member)) stops resolves⟩⟩
  simp [PrintStyle.printAtom, CharName.nameOfText, named, fits.charPrefix, prefixed, joinTokens,
    Except.mapError, bind, Except.bind]

/-- An atom the dialect reads prints as a text that reads back as the same atom wherever no
constituent follows it. -/
theorem printAtom_readsBack (fits : st.Fits d) {a : Atom} (reads : d.ReadsAtom a) :
    ∃ t, st.printAtom a = .ok t ∧ ∀ p u, d.StopsRun u → ∃ span, d.Expr p t u (.atom a span) := by
  cases reads with
  | run isRun cast =>
    obtain ⟨t, printed, isRun', cast'⟩ := castAtom_print fits isRun cast
    exact ⟨t, printed, fun p u stops => ⟨_, isRun'.expr fits cast' stops p⟩⟩
  | string value =>
    obtain ⟨delimits, role⟩ := fits.stringDelimiter
    refine ⟨CodePoint.ofChar '"' :: (value.flatMap PrintStyle.escapeInString ++
      [CodePoint.ofChar '"']), ?_, fun p u _ => ⟨_, .string role (stringRest_escaped fits value)⟩⟩
    simp [PrintStyle.printAtom, enclose, joinTokens, delimits, bind, Except.bind]
  | char c reads prefixed => exact char_readsBack fits reads prefixed

end Printed

end Dialect

/-- A form read alike another: the same, printing as it does and nesting as deeply. -/
def Alike (st : PrintStyle) (g : Form β) (f : Form α) : Prop :=
  g.sameAs f ∧ st.print g = st.print f ∧ g.depth = f.depth

/-- A text reads back as a form: wherever it stands before a text no run goes on into, the
grammar reads it as one form alike the given one. -/
def ReadsBack (d : Dialect) (st : PrintStyle) (text : Text) (f : Form α) : Prop :=
  ∀ p u, d.StopsRun u → ∃ g : Form Span, d.Expr p text u g ∧ Alike st g f

namespace Form

/-- A form the same as a symbol is that symbol. -/
theorem eq_symbol_of_sameAs {g : Form β} {name : Text} {ann : α}
    (same : g.sameAs (.atom (.symbol name) ann)) : ∃ span, g = .atom (.symbol name) span := by
  cases g with
  | atom a span =>
    cases a <;> simp_all [sameAs, Atom.sameAs]
  | list => simp [sameAs] at same
  | vector => simp [sameAs] at same

/-- A symbol is the same only as that symbol. -/
theorem eq_symbol_of_symbol_sameAs {f : Form α} {name : Text} {span : β}
    (same : (Form.atom (.symbol name) span).sameAs f) : ∃ ann, f = .atom (.symbol name) ann := by
  cases f with
  | atom a ann =>
    cases a <;> simp_all [sameAs, Atom.sameAs]
  | list => simp [sameAs] at same
  | vector => simp [sameAs] at same

/-- Forms the same item by item as two forms are two forms, each the same as its own. -/
theorem allSame_pair {gs : List (Form β)} {f₁ f₂ : Form α} (same : allSame gs [f₁, f₂]) :
    ∃ g₁ g₂, gs = [g₁, g₂] ∧ g₁.sameAs f₁ ∧ g₂.sameAs f₂ := by
  match gs, same with
  | [g₁, g₂], same => exact ⟨g₁, g₂, rfl, by simp_all [allSame]⟩
  | [], same | [_], same | _ :: _ :: _ :: _, same => simp [allSame] at same

end Form

namespace PrintStyle

/-- Only a two-item list headed by a symbol has a shorthand. -/
theorem shorthandOf_eq_none (st : PrintStyle) {items : List (Form α)}
    (unheaded : ¬ ∃ name ann g, items = [.atom (.symbol name) ann, g]) : st.shorthandOf items = none := by
  unfold shorthandOf
  split
  · exact absurd ⟨_, _, _, rfl⟩ unheaded
  · rfl

/-- A list with a shorthand is two items headed by a symbol whose prefix it is, in a style that
prints shorthand. -/
theorem shorthandOf_eq_some {st : PrintStyle} {items : List (Form α)} {p : Option Text}
    {unquotes : Bool} (short : st.shorthandOf items = some (p, unquotes)) :
    ∃ name ann g, items = [.atom (.symbol name) ann, g] ∧ st.prefixFor name = some p ∧
      unquotes = decide (name = Text.ofString "unquote") := by
  unfold shorthandOf at short
  split at short
  · rename_i name ann g
    split at short
    · obtain ⟨p', prefixed, same⟩ := Option.map_eq_some_iff.mp short
      cases same
      exact ⟨name, ann, g, rfl, prefixed, rfl⟩
    · cases short
  · cases short

/-- Lists the same item by item have the same shorthand: only a two-item list headed by a symbol
has one, and the forms the same as a symbol are that symbol. -/
theorem shorthandOf_of_allSame (st : PrintStyle) {gs : List (Form β)} {fs : List (Form α)}
    (same : Form.allSame gs fs) : st.shorthandOf gs = st.shorthandOf fs := by
  by_cases headed : ∃ name ann f, fs = [.atom (.symbol name) ann, f]
  · obtain ⟨name, ann, f, rfl⟩ := headed
    obtain ⟨g₁, g₂, rfl, first, -⟩ := Form.allSame_pair same
    obtain ⟨span, rfl⟩ := Form.eq_symbol_of_sameAs first
    rfl
  · rw [st.shorthandOf_eq_none headed]
    apply st.shorthandOf_eq_none
    rintro ⟨name, span, g, rfl⟩
    -- The list printed would be headed by the same symbol.
    match fs, same with
    | [f₁, f₂], same =>
      obtain ⟨first, -⟩ : (Form.atom (.symbol name) span).sameAs f₁ ∧ g.sameAs f₂ := by
        simpa [Form.allSame] using same
      obtain ⟨ann, rfl⟩ := Form.eq_symbol_of_symbol_sameAs first
      exact headed ⟨name, ann, f₂, rfl⟩
    | [], same | [_], same | _ :: _ :: _ :: _, same => simp [Form.allSame] at same

end PrintStyle

section Alike

variable {st : PrintStyle}

/-- An atom the same as itself is read alike itself, whatever its annotations. -/
theorem Alike.atom {a : Atom} (same : a.sameAs a) (span : β) (ann : α) :
    Alike st (Form.atom a span) (Form.atom a ann) :=
  ⟨same, rfl, rfl⟩

/-- Forms alike one by one are the same one by one, print alike and nest alike. -/
theorem Alike.all {gs : List (Form β)} {fs : List (Form α)} (alike : List.Forall₂ (Alike st) gs fs) :
    Form.allSame gs fs ∧ st.printAll gs = st.printAll fs ∧ Form.depthAll gs = Form.depthAll fs := by
  induction alike with
  | nil => exact ⟨rfl, rfl, rfl⟩
  | cons first _ ih =>
    obtain ⟨same, printed, deep⟩ := first
    obtain ⟨same', printed', deep'⟩ := ih
    refine ⟨by simp [Form.allSame, same, same'], ?_, by simp [Form.depthAll, deep, deep']⟩
    simp only [PrintStyle.printAll, printed, printed']

/-- Lists of forms alike one by one are alike. -/
theorem Alike.list {gs : List (Form β)} {fs : List (Form α)} (alike : List.Forall₂ (Alike st) gs fs)
    (span : β) (ann : α) : Alike st (Form.list gs span) (Form.list fs ann) := by
  obtain ⟨same, printed, deep⟩ := Alike.all alike
  refine ⟨same, ?_, by simp [Form.depth, deep]⟩
  simp only [PrintStyle.print, printed, st.shorthandOf_of_allSame same]

/-- Vectors of forms alike one by one are alike. -/
theorem Alike.vector {gs : List (Form β)} {fs : List (Form α)}
    (alike : List.Forall₂ (Alike st) gs fs) (span : β) (ann : α) :
    Alike st (Form.vector gs span) (Form.vector fs ann) := by
  obtain ⟨same, printed, deep⟩ := Alike.all alike
  refine ⟨same, ?_, by simp [Form.depth, deep]⟩
  simp only [PrintStyle.print, printed]

end Alike

namespace PrintStyle

/-- The symbols that print in shorthand are the four quotes' heads, each as its own prefix. -/
theorem prefixFor_cases {st : PrintStyle} {name : Text} {p : Option Text}
    (prefixed : st.prefixFor name = some p) :
    (name = Text.ofString "quote" ∧ p = st.quote) ∨
      (name = Text.ofString "quasiquote" ∧ p = st.quasiquote) ∨
      (name = Text.ofString "unquote" ∧ p = st.unquote) ∨
      (name = Text.ofString "unquote-splicing" ∧ p = st.splicePrefix.toOption) := by
  unfold prefixFor at prefixed
  split at prefixed
  · exact .inl ⟨‹_›, (Option.some_inj.mp prefixed).symm⟩
  split at prefixed
  · exact .inr (.inl ⟨‹_›, (Option.some_inj.mp prefixed).symm⟩)
  split at prefixed
  · exact .inr (.inr (.inl ⟨‹_›, (Option.some_inj.mp prefixed).symm⟩))
  split at prefixed
  · exact .inr (.inr (.inr ⟨‹_›, (Option.some_inj.mp prefixed).symm⟩))
  · cases prefixed

end PrintStyle

namespace Dialect

/-- A quote prefix that is not the unquote prefix splices with nothing. -/
theorem not_splicesAt {d : Dialect} {q : CodePoint} (other : d.unquote ≠ some [q]) (t : Text) :
    ¬ d.SplicesAt q t := by
  cases t with
  | nil => exact id
  | cons n _ => exact fun splices => other splices.1

/-- A prefix that quotes or quasiquotes is not the unquote prefix. -/
theorem unquote_ne_of_quoteKind {d : Dialect} {q : CodePoint} (kind : d.quoteKind q ≠ .unquote) :
    d.unquote ≠ some [q] := by
  intro same
  simp [quoteKind, same] at kind

end Dialect

section ReadBack

variable {d : Dialect} {st : PrintStyle}

/-- A text that reads back is not empty. -/
theorem ReadsBack.ne_nil {text : Text} {f : Form α} (back : ReadsBack d st text f) : text ≠ [] := by
  obtain ⟨g, expr, -⟩ := back 0 [] trivial
  obtain ⟨c, rest, rfl, -⟩ := expr.front
  simp

/-- An atom the dialect reads prints as a text that reads back alike it. -/
theorem atom_readsBack (fits : st.Fits d) {a : Atom} (reads : d.ReadsAtom a) (ann : α) :
    ∃ text, st.print (.atom a ann) = .ok text ∧ ReadsBack d st text (.atom a ann) := by
  obtain ⟨t, printed, back⟩ := d.printAtom_readsBack fits reads
  refine ⟨t, printed, fun p u stops => ?_⟩
  obtain ⟨span, expr⟩ := back p u stops
  exact ⟨_, expr, Alike.atom reads.sameAs_self span ann⟩

/-- Texts that read back, joined by spaces, read back as items before a code point that is no
constituent. -/
theorem items_readsBack (fits : st.Fits d) {texts : List Text} {fs : List (Form α)}
    (back : List.Forall₂ (ReadsBack d st) texts fs) {c : CodePoint}
    (stops : d.isConstituent c = false) (u : Text) :
    ∀ p, ∃ gs, d.Items p (Text.joinWith [CodePoint.ofChar ' '] texts) (c :: u) gs ∧
      List.Forall₂ (Alike st) gs fs := by
  -- One text at a time: each is followed by the space before the next one, or by the closer.
  have space : d.isConstituent (CodePoint.ofChar ' ') = false := by
    simp [Dialect.isConstituent, fits.space]
  induction back with
  | nil => exact fun p => ⟨[], .nil .nil, .nil⟩
  | @cons t f ts fs first rest ih =>
    intro p
    rcases ts with _ | ⟨t', ts⟩
    · -- The last text, followed by the closer.
      obtain rfl := List.forall₂_nil_left_iff.mp rest
      obtain ⟨g, expr, alike⟩ := first p (c :: u) stops
      exact ⟨[g], by simpa [Text.joinWith] using Dialect.Items.cons (p := p) .nil expr (.nil .nil),
        .cons alike .nil⟩
    · -- A text followed by a space and the texts after it.
      obtain ⟨gs, items, alike⟩ := ih (p + t.length + 1)
      have spaced : d.Items (p + t.length) ([CodePoint.ofChar ' '] ++
          Text.joinWith [CodePoint.ofChar ' '] (t' :: ts)) (c :: u) gs :=
        Dialect.Items.atmosphere_prepend (.blank fits.space .nil) items
      obtain ⟨g, expr, alike'⟩ := first p (([CodePoint.ofChar ' '] ++
        Text.joinWith [CodePoint.ofChar ' '] (t' :: ts)) ++ c :: u) space
      exact ⟨g :: gs, by simpa [Text.joinWith] using Dialect.Items.cons (p := p) .nil expr spaced,
        .cons alike' alike⟩

/-- Items printed between the brackets of a sequence read back as a sequence of that kind. -/
theorem enclosed_readsBack (fits : st.Fits d) {kind : SeqKind} {o c : CodePoint}
    (opens : d.categoryOf o = kind.opener) (closes : d.categoryOf c = kind.closer)
    {texts : List Text} {fs : List (Form α)} (back : List.Forall₂ (ReadsBack d st) texts fs)
    (p : Nat) (u : Text) :
    ∃ gs span, d.Expr p (o :: Text.joinWith [CodePoint.ofChar ' '] texts ++ [c]) u
      (kind.build gs span) ∧ List.Forall₂ (Alike st) gs fs := by
  have not_run : d.isConstituent c = false := by
    cases kind <;> simp [Dialect.isConstituent, closes, SeqKind.closer]
  obtain ⟨gs, items, alike⟩ := items_readsBack fits back not_run u (p + 1)
  exact ⟨gs, _, .seq opens items closes, alike⟩

/-- A quote prefix of one code point, atmosphere and a text that reads back read back as the
quote of what the text reads as, when the prefix does not splice with what follows it. -/
theorem quoted_readsBack {q : CodePoint} {a operand name : Text} {g : Form α}
    (prefixes : d.categoryOf q = .quotePrefix) (named : Text.ofString (d.quoteKind q).name = name)
    (blanks : d.Atmosphere a) (no_splice : ∀ u, ¬ d.SplicesAt q (a ++ operand ++ u))
    (back : ReadsBack d st operand g) (ann₁ ann : α) :
    ReadsBack d st (q :: a ++ operand) (.list [.atom (.symbol name) ann₁, g] ann) := by
  intro p u stops
  obtain ⟨g', expr, alike⟩ := back (p + 1 + a.length) u stops
  refine ⟨_, .quote prefixes (no_splice u) blanks expr, Alike.list (.cons ?_ (.cons alike .nil)) _ _⟩
  rw [← named]
  exact Alike.atom (by simp [Atom.sameAs]) _ _

/-- The unquote prefix and the splice mark before a text that reads back read back as the
unquote-splicing of what the text reads as. -/
theorem spliced_readsBack {q n : CodePoint} {operand : Text} {g : Form α}
    (prefixes : d.categoryOf q = .quotePrefix) (unquotes : d.unquote = some [q])
    (splices : d.splice = some [n]) (back : ReadsBack d st operand g) (ann₁ ann : α) :
    ReadsBack d st (q :: n :: operand)
      (.list [.atom (.symbol (Text.ofString "unquote-splicing")) ann₁, g] ann) := by
  intro p u stops
  obtain ⟨g', expr, alike⟩ := back (p + 2 + ([] : Text).length) u stops
  exact ⟨_, .splice prefixes unquotes splices .nil expr,
    Alike.list (.cons (Alike.atom (by simp [Atom.sameAs]) _ _) (.cons alike .nil)) _ _⟩

/-- A list whose items print as texts that read back prints as a text that reads back alike it:
in shorthand when it is a quote, between its brackets otherwise. -/
theorem list_readsBack (fits : st.Fits d) {items : List (Form α)} {texts : List Text}
    (printed : st.printAll items = .ok texts) (back : List.Forall₂ (ReadsBack d st) texts items)
    (ann : α) : ∃ text, st.print (.list items ann) = .ok text ∧ ReadsBack d st text (.list items ann) := by
  simp only [PrintStyle.print, printed, bind, Except.bind]
  split
  · -- A quote in shorthand: its prefix, then its operand.
    rename_i p unquotes head operand short
    obtain ⟨name, ann₁, g, rfl, prefixed, rfl⟩ := PrintStyle.shorthandOf_eq_some short
    have back_g : ReadsBack d st operand g := by
      obtain ⟨-, rest⟩ := List.forall₂_cons.mp back
      exact (List.forall₂_cons.mp rest).1
    rcases PrintStyle.prefixFor_cases prefixed with ⟨rfl, rfl⟩ | ⟨rfl, rfl⟩ | ⟨rfl, rfl⟩ | ⟨rfl, rfl⟩
    · obtain ⟨q, token, prefixes, kind⟩ := fits.quote
      have other : Text.ofString "quote" ≠ Text.ofString "unquote" := by decide
      refine ⟨q :: operand, by simp [token, joinTokens, other], quoted_readsBack prefixes (by rw [kind]; rfl)
        .nil (fun _ => Dialect.not_splicesAt (Dialect.unquote_ne_of_quoteKind (by rw [kind]; decide)) _)
        back_g ann₁ ann⟩
    · obtain ⟨q, token, prefixes, kind⟩ := fits.quasiquote
      have other : Text.ofString "quasiquote" ≠ Text.ofString "unquote" := by decide
      refine ⟨q :: operand, by simp [token, joinTokens, other], quoted_readsBack prefixes (by rw [kind]; rfl)
        .nil (fun _ => Dialect.not_splicesAt (Dialect.unquote_ne_of_quoteKind (by rw [kind]; decide)) _)
        back_g ann₁ ann⟩
    · -- An unquote: a space sets apart an operand that starts with the splice mark.
      obtain ⟨q, token, unquotes, prefixes⟩ := fits.unquote
      obtain ⟨n, mark, splices, not_blank⟩ := fits.splice
      have named : Text.ofString (d.quoteKind q).name = Text.ofString "unquote" := by
        simp [Dialect.quoteKind, unquotes, QuoteKind.name]
      by_cases spliced : [n].isPrefixOf operand
      · refine ⟨q :: [CodePoint.ofChar ' '] ++ operand, by simp [token, mark, spliced, joinTokens],
          quoted_readsBack prefixes named (.blank fits.space .nil) ?_ back_g ann₁ ann⟩
        rintro u ⟨-, same⟩
        rw [splices, Option.some_inj, List.singleton_inj] at same
        exact not_blank (same ▸ fits.space)
      · refine ⟨q :: operand, by simp [token, mark, spliced, joinTokens],
          quoted_readsBack prefixes named .nil ?_ back_g ann₁ ann⟩
        obtain ⟨x, rest, rfl⟩ := List.exists_cons_of_ne_nil back_g.ne_nil
        rintro u ⟨-, same⟩
        rw [splices, Option.some_inj, List.singleton_inj] at same
        simp [same] at spliced
    · obtain ⟨q, token, unquotes, prefixes⟩ := fits.unquote
      obtain ⟨n, mark, splices, -⟩ := fits.splice
      have other : Text.ofString "unquote-splicing" ≠ Text.ofString "unquote" := by decide
      refine ⟨q :: n :: operand, ?_, spliced_readsBack prefixes unquotes splices back_g ann₁ ann⟩
      simp [PrintStyle.splicePrefix, token, mark, joinTokens, Except.toOption, other]
  · -- Any other list: its items between its brackets.
    rename_i texts _ _ _
    obtain ⟨o, opener, opens⟩ := fits.listOpen
    obtain ⟨c, closer, closes⟩ := fits.listClose
    refine ⟨o :: Text.joinWith [CodePoint.ofChar ' '] texts ++ [c],
      by simp [enclose, joinTokens, opener, closer, bind, Except.bind], fun p u _ => ?_⟩
    obtain ⟨gs, span, expr, alike⟩ :=
      enclosed_readsBack fits (show d.categoryOf o = SeqKind.list.opener from opens) closes back p u
    exact ⟨_, expr, Alike.list alike _ _⟩

/-- A vector whose items print as texts that read back prints as a text that reads back alike it,
its items between its brackets. -/
theorem vector_readsBack (fits : st.Fits d) {items : List (Form α)} {texts : List Text}
    (printed : st.printAll items = .ok texts) (back : List.Forall₂ (ReadsBack d st) texts items)
    (ann : α) :
    ∃ text, st.print (.vector items ann) = .ok text ∧ ReadsBack d st text (.vector items ann) := by
  obtain ⟨o, opener, opens⟩ := fits.vectorOpen
  obtain ⟨c, closer, closes⟩ := fits.vectorClose
  refine ⟨o :: Text.joinWith [CodePoint.ofChar ' '] texts ++ [c],
    by simp [PrintStyle.print, printed, enclose, joinTokens, opener, closer, bind, Except.bind],
    fun p u _ => ?_⟩
  obtain ⟨gs, span, expr, alike⟩ :=
    enclosed_readsBack fits (show d.categoryOf o = SeqKind.vector.opener from opens) closes back p u
  exact ⟨_, expr, Alike.vector alike _ _⟩

mutual
/-- A form whose atoms the dialect reads prints as a text that reads back alike it. -/
theorem print_readsBack (fits : st.Fits d) :
    ∀ (f : Form α), (∀ a ∈ f.atoms, d.ReadsAtom a) →
      ∃ text, st.print f = .ok text ∧ ReadsBack d st text f
  | .atom a ann, reads => atom_readsBack fits (reads a (by simp [Form.atoms])) ann
  | .list items ann, reads =>
    have ⟨_, printed, back⟩ := printAll_readsBack fits items (by simpa [Form.atoms] using reads)
    list_readsBack fits printed back ann
  | .vector items ann, reads =>
    have ⟨_, printed, back⟩ := printAll_readsBack fits items (by simpa [Form.atoms] using reads)
    vector_readsBack fits printed back ann

/-- Forms whose atoms the dialect reads print as texts that each read back alike their form. -/
theorem printAll_readsBack (fits : st.Fits d) :
    ∀ (fs : List (Form α)), (∀ a ∈ Form.atomsAll fs, d.ReadsAtom a) →
      ∃ texts, st.printAll fs = .ok texts ∧ List.Forall₂ (ReadsBack d st) texts fs
  | [], _ => ⟨[], rfl, .nil⟩
  | f :: rest, reads =>
    have ⟨t, printed, back⟩ :=
      print_readsBack fits f fun a member => reads a (by simp [Form.atomsAll, member])
    have ⟨ts, printedAll, backAll⟩ :=
      printAll_readsBack fits rest fun a member => reads a (by simp [Form.atomsAll, member])
    ⟨t :: ts, by simp [PrintStyle.printAll, printed, printedAll, bind, Except.bind, pure,
      Except.pure], .cons back backAll⟩
end

/-- A form whose atoms the dialect reads prints as a text the dialect reads whole as one form
alike it, when the nesting of the form is allowed. -/
theorem readWithin_print (fits : st.Fits d) {f : Form α} (reads : ∀ a ∈ f.atoms, d.ReadsAtom a)
    {limit : Nat} (bounded : f.depth ≤ limit) :
    ∃ text g, st.print f = .ok text ∧ d.readWithin limit text = ⟨[g], none⟩ ∧ Alike st g f := by
  obtain ⟨text, printed, back⟩ := print_readsBack fits f reads
  obtain ⟨g, expr, alike⟩ := back 0 [] trivial
  -- The text is one item and nothing after it.
  have whole : d.Program text [g] := by
    simpa using Dialect.Program.mk (Dialect.Items.cons (p := 0) .nil expr (.nil .nil)) .done
  refine ⟨text, g, printed, Dialect.readWithin_of_program whole ?_, alike⟩
  intro g' member
  rw [List.mem_singleton.mp member, alike.2.2]
  exact bounded

end ReadBack

end LispReader

import LispReader.Proofs.Reader.Sound

/-! Texts the reader stops inside. Up to the point where reading fails, a source is complete forms
followed by constructs opened and not closed: lists and vectors whose closer has not come, and
quote prefixes whose form has not come. `Begun` and `Pending` are the grammar of such texts, with
the constructs left open listed innermost first; `Stuck` says, for each kind of syntax error, what
the source holds from the error on, where the error stands, what it expects and which construct
must be the innermost one open. -/

namespace LispReader

/-- A construct open at a point of a source. -/
inductive Frame where
  /-- A list or a vector whose closer has not come. -/
  | seq (kind : SeqKind)
  /-- A quote prefix whose form has not come. -/
  | quote
  deriving DecidableEq

namespace Dialect

/-- Atmosphere in front of the text `u`; when `u` is empty it may end inside a comment. -/
def Trailing (d : Dialect) (a u : Text) : Prop :=
  ∃ blanks e, a = blanks ++ e ∧ d.Atmosphere blanks ∧ d.Ending e ∧ (e = [] ∨ u = [])

mutual
/-- The text `x`, starting at position `p` and followed by `u`, opens the constructs `frames`,
innermost first, and closes none of them. -/
inductive Begun (d : Dialect) : Nat → Text → Text → List Frame → Prop where
  /-- Nothing opened. -/
  | none {p : Nat} {u : Text} : Begun d p [] u []
  /-- An opener and what the sequence holds so far. -/
  | seq {p : Nat} {kind : SeqKind} {o : CodePoint} {inner u : Text} {frames : List Frame} :
      d.categoryOf o = kind.opener → Pending d (p + 1) inner u frames →
        Begun d p (o :: inner) u (frames ++ [.seq kind])
  /-- A quote prefix, atmosphere, and what the form it quotes opens so far. -/
  | quote {p : Nat} {q : CodePoint} {a x u : Text} {frames : List Frame} :
      d.categoryOf q = .quotePrefix → ¬ d.SplicesAt q (a ++ x ++ u) → d.Trailing a (x ++ u) →
        Begun d (p + 1 + a.length) x u frames → Begun d p (q :: a ++ x) u (frames ++ [.quote])
  /-- The unquote prefix and the splice mark, atmosphere, and what the form they splice opens so
  far. -/
  | splice {p : Nat} {q n : CodePoint} {a x u : Text} {frames : List Frame} :
      d.categoryOf q = .quotePrefix → d.unquote = some [q] → d.splice = some [n] →
        d.Trailing a (x ++ u) → Begun d (p + 2 + a.length) x u frames →
        Begun d p (q :: n :: a ++ x) u (frames ++ [.quote])

/-- The text `x`, starting at position `p` and followed by `u`: complete items, atmosphere, and the
constructs `frames` it then opens and does not close, innermost first. -/
inductive Pending (d : Dialect) : Nat → Text → Text → List Frame → Prop where
  /-- Items, atmosphere and what is begun after them. -/
  | mk {p : Nat} {x a y u : Text} {fs : List (Form Span)} {frames : List Frame} :
      d.Items p x (a ++ y ++ u) fs → d.Trailing a (y ++ u) →
        Begun d (p + x.length + a.length) y u frames → Pending d p (x ++ a ++ y) u frames
end

/-- The rest of a string after its opening delimiter `q` when the source ends inside the string:
no delimiter closes it, and an escape at the very end escapes nothing. -/
inductive StringOpen (d : Dialect) (q : CodePoint) : Text → Prop where
  /-- The source ends. -/
  | done : StringOpen d q []
  /-- A code point that stands for itself. -/
  | plain {c : CodePoint} {rest : Text} :
      c ≠ q → d.escape ≠ some [c] → StringOpen d q rest → StringOpen d q (c :: rest)
  /-- An escape and the code point it escapes. -/
  | escaped {c e : CodePoint} {rest : Text} :
      c ≠ q → d.escape = some [c] → StringOpen d q rest → StringOpen d q (c :: e :: rest)
  /-- An escape the source ends on. -/
  | escapeEnd {c : CodePoint} : c ≠ q → d.escape = some [c] → StringOpen d q [c]

/-- Reading stops at the syntax error `e` at position `p`, where `post` is the rest of the source
and `innermost` the innermost construct open, if any: one case for each kind of error. -/
inductive Stuck (d : Dialect) : Option Frame → Nat → Text → SyntaxError → Prop where
  /-- A string the source ends inside: the error stands at the end of the source. -/
  | unterminatedString {innermost : Option Frame} {p : Nat} {q : CodePoint} {body : Text} :
      d.categoryOf q = .stringDelimiter → d.StringOpen q body →
        Stuck d innermost p (q :: body)
          ⟨.unterminatedString, p + (body.length + 1), [.character, .token d.stringDelimiter]⟩
  /-- The source ends inside a list or a vector. -/
  | unterminated {kind : SeqKind} {p : Nat} :
      Stuck d (some (.seq kind)) p [] ⟨kind.unterminated, p, kind.expected d⟩
  /-- A list or a vector meets the closer of the other kind. -/
  | mismatched {kind : SeqKind} {p : Nat} {c : CodePoint} {rest : Text} :
      (d.categoryOf c).isCloser → d.categoryOf c ≠ kind.closer →
        Stuck d (some (.seq kind)) p (c :: rest) ⟨.mismatchedDelimiter, p, kind.expected d⟩
  /-- A closer where nothing is open. -/
  | unexpectedClosing {p : Nat} {c : CodePoint} {rest : Text} :
      (d.categoryOf c).isCloser →
        Stuck d none p (c :: rest) ⟨.unexpectedClosingDelimiter, p, [.expression]⟩
  /-- A quote prefix whose atmosphere runs into a closer or the end of the source. -/
  | dangling {p : Nat} {post : Text} :
      d.endsOrCloses post → Stuck d (some .quote) p post ⟨.danglingQuotePrefix, p, [.expression]⟩
  /-- A whole run of constituents, which no char literal starts, that casts to no atom. -/
  | malformedNumber {innermost : Option Frame} {p : Nat} {run rest : Text} :
      run ≠ [] → (∀ c ∈ run, d.isConstituent c) → d.StopsRun rest →
        ¬ d.CharLiteralAt (run ++ rest) → castAtom d run = none →
        Stuck d innermost p (run ++ rest) ⟨.malformedNumericLiteral, p, [.number]⟩
  /-- A char literal whose first code point and constituents name no character. -/
  | malformedChar {innermost : Option Frame} {p : Nat} {pfx name rest : Text} {first : CodePoint} :
      d.charLiterals → d.charPrefix = some pfx → d.StartsWith .constituent (pfx ++ first :: name) →
        (∀ c ∈ name, d.isConstituent c) → d.StopsRun rest → CharName.resolveFrom first name = none →
        Stuck d innermost p (pfx ++ first :: name ++ rest) ⟨.malformedCharacterLiteral, p, [.character]⟩
  /-- The prefix of char literals ends the source: the error stands at the end. -/
  | charAtEnd {innermost : Option Frame} {p : Nat} {pfx : Text} :
      d.charLiterals → d.charPrefix = some pfx → d.StartsWith .constituent pfx →
        Stuck d innermost p pfx ⟨.unexpectedEndOfInput, p + pfx.length, [.character]⟩

/-! ### Building unfinished texts -/

/-- Atmosphere trails anything. -/
theorem Trailing.of_atmosphere {d : Dialect} {a u : Text} (blanks : d.Atmosphere a) :
    d.Trailing a u :=
  ⟨a, [], by simp, blanks, .done, .inl rfl⟩

/-- What trails a text that goes on is plain atmosphere. -/
theorem Trailing.atmosphere {d : Dialect} {a u : Text} (trailing : d.Trailing a u)
    (some_left : u ≠ []) : d.Atmosphere a := by
  obtain ⟨blanks, e, rfl, atmosphere, -, ended⟩ := trailing
  obtain rfl : e = [] := ended.resolve_right some_left
  simpa using atmosphere

/-- Constructs begun with nothing in front of them. -/
theorem Begun.pending {d : Dialect} {p : Nat} {y u : Text} {frames : List Frame}
    (begun : d.Begun p y u frames) : d.Pending p y u frames := by
  have := Pending.mk (x := []) (a := []) (.nil .nil) (.of_atmosphere .nil) (by simpa using begun)
  simpa using this

/-- Atmosphere in front of an unfinished text joins the atmosphere of its items. -/
theorem Pending.atmosphere_prepend {d : Dialect} {p : Nat} {b x u : Text} {frames : List Frame}
    (blanks : d.Atmosphere b) (pending : d.Pending (p + b.length) x u frames) :
    d.Pending p (b ++ x) u frames := by
  obtain @⟨_, x, a, y, _, fs, _, items, trailing, begun⟩ := pending
  -- What is begun after the items starts as far in as before.
  have moved : p + (b ++ x).length + a.length = p + b.length + x.length + a.length := by
    simp only [List.length_append]
    omega
  have := Pending.mk (items.atmosphere_prepend blanks) trailing (moved ▸ begun)
  simpa using this

/-- Atmosphere and a complete form in front of an unfinished text are its first item. -/
theorem Pending.cons {d : Dialect} {p : Nat} {b x rest u : Text} {f : Form Span}
    {frames : List Frame} (blanks : d.Atmosphere b) (expr : d.Expr (p + b.length) x (rest ++ u) f)
    (pending : d.Pending (p + b.length + x.length) rest u frames) :
    d.Pending p (b ++ x ++ rest) u frames := by
  obtain @⟨_, xs, a, y, _, fs, _, items, trailing, begun⟩ := pending
  have moved : p + (b ++ x ++ xs).length + a.length =
      p + b.length + x.length + xs.length + a.length := by
    simp only [List.length_append]
    omega
  -- The form is followed by the items, the atmosphere and what is begun after them.
  have expr' : d.Expr (p + b.length) x (xs ++ (a ++ y ++ u)) f := by simpa using expr
  have := Pending.mk (Items.cons blanks expr' items) trailing (moved ▸ begun)
  simpa using this

/-- An error stands within the source: at the point reading stopped or after what is left. -/
theorem Stuck.point_le {d : Dialect} {innermost : Option Frame} {p : Nat} {post : Text}
    {e : SyntaxError} (stuck : d.Stuck innermost p post e) : e.point ≤ p + post.length := by
  cases stuck with
  -- A string or a char literal the source ends inside is reported at the end of the source.
  | unterminatedString => simp
  | charAtEnd => exact Nat.le_refl _
  -- Every other error is reported where reading stopped.
  | unterminated | mismatched | unexpectedClosing | dangling | malformedNumber | malformedChar =>
    exact Nat.le_add_right _ _

/-- An error stands at or past the point where reading stopped. -/
theorem Stuck.start_le_point {d : Dialect} {innermost : Option Frame} {p : Nat} {post : Text}
    {e : SyntaxError} (stuck : d.Stuck innermost p post e) : p ≤ e.point := by
  cases stuck with
  -- A string or a char literal the source ends inside is reported at the end of the source.
  | unterminatedString => simp only; omega
  | charAtEnd => simp only; omega
  -- Every other error is reported where reading stopped.
  | unterminated | mismatched | unexpectedClosing | dangling | malformedNumber | malformedChar =>
    exact Nat.le_refl _

/-! ### Unfinished texts within a nesting budget

The reader reads the forms of a list, a vector or a quote with one level of nesting less than the
construct itself had. A text the reader passes over on its way to a point, with `b` levels to
spend, is complete items each nesting within `b` levels and constructs opened and not closed,
each taking one level from what the forms inside it may use. -/

mutual
/-- The text `x`, starting at position `p` and followed by `u`, opens constructs and closes none of
them, within `b` levels of nesting. -/
inductive BegunWithin (d : Dialect) : Nat → Nat → Text → Text → Prop where
  /-- Nothing opened. -/
  | none {b p : Nat} {u : Text} : BegunWithin d b p [] u
  /-- An opener and what the sequence holds so far, one level deeper. -/
  | seq {b p : Nat} {kind : SeqKind} {o : CodePoint} {inner u : Text} {fs : List (Form Span)} :
      d.categoryOf o = kind.opener → PendingWithin d b (p + 1) inner u fs →
        BegunWithin d (b + 1) p (o :: inner) u
  /-- A quote prefix, and atmosphere and what the form it quotes begins, one level deeper. -/
  | quote {b p : Nat} {q : CodePoint} {x u : Text} :
      d.categoryOf q = .quotePrefix → ¬ d.SplicesAt q (x ++ u) →
        PendingWithin d b (p + 1) x u [] → BegunWithin d (b + 1) p (q :: x) u
  /-- The unquote prefix and the splice mark, and atmosphere and what the form they splice begins,
  one level deeper. -/
  | splice {b p : Nat} {q n : CodePoint} {x u : Text} :
      d.categoryOf q = .quotePrefix → d.unquote = some [q] → d.splice = some [n] →
        PendingWithin d b (p + 2) x u [] → BegunWithin d (b + 1) p (q :: n :: x) u

/-- The text `x`, starting at position `p` and followed by `u`: the complete items `fs`, each
nesting within `b` levels, and atmosphere, then the constructs it opens within `b` levels. -/
inductive PendingWithin (d : Dialect) : Nat → Nat → Text → Text → List (Form Span) → Prop where
  /-- Items and what is begun after them. -/
  | mk {b p : Nat} {x y u : Text} {fs : List (Form Span)} :
      d.Items p x (y ++ u) fs → (∀ f ∈ fs, f.depth ≤ b) → BegunWithin d b (p + x.length) y u →
        PendingWithin d b p (x ++ y) u fs
end

/-- Constructs begun with nothing in front of them. -/
theorem BegunWithin.pending {d : Dialect} {b p : Nat} {y u : Text} (begun : d.BegunWithin b p y u) :
    d.PendingWithin b p y u [] := by
  have := PendingWithin.mk (x := []) (.nil .nil) (by simp) (by simpa using begun)
  simpa using this

/-- Atmosphere in front of an unfinished text joins the atmosphere of its items. -/
theorem PendingWithin.atmosphere_prepend {d : Dialect} {b p : Nat} {a x u : Text}
    {fs : List (Form Span)} (blanks : d.Atmosphere a) (pending : d.PendingWithin b (p + a.length) x u fs) :
    d.PendingWithin b p (a ++ x) u fs := by
  obtain @⟨_, _, x, y, _, _, items, bounded, begun⟩ := pending
  have moved : p + (a ++ x).length = p + a.length + x.length := by
    simp only [List.length_append]
    omega
  have := PendingWithin.mk (items.atmosphere_prepend blanks) bounded (moved ▸ begun)
  simpa using this

/-- A complete form within the budget, in front of an unfinished text, is its first item. -/
theorem PendingWithin.cons {d : Dialect} {b p : Nat} {x rest u : Text} {f : Form Span}
    {fs : List (Form Span)} (expr : d.Expr p x (rest ++ u) f) (bounded : f.depth ≤ b)
    (pending : d.PendingWithin b (p + x.length) rest u fs) :
    d.PendingWithin b p (x ++ rest) u (f :: fs) := by
  obtain @⟨_, _, xs, y, _, _, items, bounded', begun⟩ := pending
  have moved : p + (x ++ xs).length = p + x.length + xs.length := by
    simp only [List.length_append]
    omega
  -- The form is followed by the items and what is begun after them.
  have expr' : d.Expr (p + ([] : Text).length) x (xs ++ (y ++ u)) f := by simpa using expr
  have items' : d.Items (p + ([] : Text).length + x.length) xs (y ++ u) fs := by simpa using items
  have := PendingWithin.mk (Items.cons .nil expr' items')
    (List.forall_mem_cons.mpr ⟨bounded, bounded'⟩) (moved ▸ begun)
  simpa using this

end Dialect

end LispReader

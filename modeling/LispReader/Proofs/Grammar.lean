import LispReader.Reader.Program

/-! The grammar of a dialect: atmosphere, strings, atoms, quoted forms and sequences. Each
production covers a text that starts at a position and is followed by another text, which it may
look at but does not take, and gives the form it reads with its span. -/

namespace LispReader

namespace Form

mutual
/-- How deeply a form nests: an atom needs no level, a list or a vector one more than its
deepest item. -/
def depth : Form α → Nat
  | .atom _ _ => 0
  | .list items _ | .vector items _ => depthAll items + 1

/-- The greatest depth among some forms, none for no forms. -/
def depthAll : List (Form α) → Nat
  | [] => 0
  | f :: rest => max f.depth (depthAll rest)
end

/-- The forms of a list are each as shallow as the deepest of them. -/
theorem depth_le_depthAll {f : Form α} {items : List (Form α)} (member : f ∈ items) :
    f.depth ≤ depthAll items := by
  induction items with
  | nil => cases member
  | cons g rest ih =>
    rw [depthAll]
    rcases List.mem_cons.mp member with same | later
    · subst same
      exact Nat.le_max_left _ _
    · exact Nat.le_trans (ih later) (Nat.le_max_right _ _)

/-- Forms each within a bound have their deepest within it. -/
theorem depthAll_le {items : List (Form α)} {bound : Nat}
    (each : ∀ f ∈ items, f.depth ≤ bound) : depthAll items ≤ bound := by
  induction items with
  | nil => exact Nat.zero_le _
  | cons f rest ih =>
    rw [depthAll]
    exact Nat.max_le.mpr ⟨each f (by simp), ih fun g member => each g (by simp [member])⟩

end Form

/-- The category of the code point that opens the sequence. -/
def SeqKind.opener : SeqKind → Category
  | .list => .listOpen
  | .vector => .vectorOpen

namespace Dialect

/-- A text no run of constituents can go on into: it is empty or starts with no constituent. -/
def StopsRun (d : Dialect) : Text → Prop
  | [] => True
  | c :: _ => d.isConstituent c = false

instance (d : Dialect) : (t : Text) → Decidable (d.StopsRun t)
  | [] => isTrue trivial
  | c :: _ => inferInstanceAs (Decidable (d.isConstituent c = false))

/-- A text that starts with a code point of the given category. -/
def StartsWith (d : Dialect) (category : Category) : Text → Prop
  | [] => False
  | c :: _ => d.categoryOf c = category

instance (d : Dialect) (category : Category) : (t : Text) → Decidable (d.StartsWith category t)
  | [] => isFalse id
  | c :: _ => inferInstanceAs (Decidable (d.categoryOf c = category))

/-- A char literal starts the text: the dialect reads them and the text starts with their
prefix. -/
def CharLiteralAt (d : Dialect) (l : Text) : Prop :=
  d.charLiterals ∧ ∃ pfx, d.charPrefix = some pfx ∧ pfx <+: l

instance (d : Dialect) (l : Text) : Decidable (d.CharLiteralAt l) :=
  decidable_of_iff (d.charLiterals ∧ (d.charPrefix.map (·.isPrefixOf l)).getD false) (by
    unfold CharLiteralAt
    cases d.charPrefix <;> simp [List.isPrefixOf_iff_prefix])

/-- The code point `q`, in front of the text, is the unquote prefix and the text starts with the
splice mark, so that the two make one prefix. -/
def SplicesAt (d : Dialect) (q : CodePoint) : Text → Prop
  | [] => False
  | n :: _ => d.unquote = some [q] ∧ d.splice = some [n]

instance (d : Dialect) (q : CodePoint) : (t : Text) → Decidable (d.SplicesAt q t)
  | [] => isFalse id
  | n :: _ => inferInstanceAs (Decidable (d.unquote = some [q] ∧ d.splice = some [n]))

/-- Atmosphere: blanks, and comments each through the line feed that ends it. -/
inductive Atmosphere (d : Dialect) : Text → Prop where
  /-- No atmosphere at all. -/
  | nil : Atmosphere d []
  /-- A blank, then more atmosphere. -/
  | blank {c : CodePoint} {rest : Text} :
      d.categoryOf c = .blank → Atmosphere d rest → Atmosphere d (c :: rest)
  /-- A comment through its line feed, then more atmosphere. -/
  | comment {c : CodePoint} {body rest : Text} :
      d.categoryOf c = .commentStart → CodePoint.newline ∉ body → Atmosphere d rest →
        Atmosphere d (c :: body ++ CodePoint.newline :: rest)

/-- What may follow the last form of a source: nothing, or a comment the source ends inside. -/
inductive Ending (d : Dialect) : Text → Prop where
  /-- The source ends. -/
  | done : Ending d []
  /-- The source ends inside a comment. -/
  | comment {c : CodePoint} {body : Text} :
      d.categoryOf c = .commentStart → CodePoint.newline ∉ body → Ending d (c :: body)

/-- The rest of a string after its opening delimiter `q`, through its closing one, and the value
it stands for: the delimiter closes it wherever it stands, and an escape makes the next code
point stand for itself or for the control it names. -/
inductive StringRest (d : Dialect) (q : CodePoint) : Text → Text → Prop where
  /-- The closing delimiter. -/
  | close : StringRest d q [q] []
  /-- A code point that stands for itself. -/
  | plain {c : CodePoint} {rest value : Text} :
      c ≠ q → d.escape ≠ some [c] → StringRest d q rest value →
        StringRest d q (c :: rest) (c :: value)
  /-- An escape and the code point it escapes. -/
  | escaped {c e : CodePoint} {rest value : Text} :
      c ≠ q → d.escape = some [c] → StringRest d q rest value →
        StringRest d q (c :: e :: rest) (unescape e :: value)

mutual
/-- A form: the text `x`, starting at position `p` and followed by `u`, reads as the form. -/
inductive Expr (d : Dialect) : Nat → Text → Text → Form Span → Prop where
  /-- A run of constituents as long as it goes, which no char literal starts: a reserved word,
  a number or a symbol. -/
  | run {p : Nat} {run u : Text} {a : Atom} :
      run ≠ [] → (∀ c ∈ run, d.isConstituent c) → d.StopsRun u →
        ¬ d.CharLiteralAt (run ++ u) → castAtom d run = some a →
        Expr d p run u (.atom a ⟨p, p + run.length⟩)
  /-- A char literal: its prefix, one code point whatever it is, and the constituents after it,
  which together name a character. -/
  | char {p : Nat} {pfx name u : Text} {first c : CodePoint} :
      d.charLiterals → d.charPrefix = some pfx →
        d.StartsWith .constituent (pfx ++ first :: name) → (∀ c ∈ name, d.isConstituent c) →
        d.StopsRun u → CharName.resolveFrom first name = some c →
        Expr d p (pfx ++ first :: name) u (.atom (.char [c]) ⟨p, p + (pfx.length + 1 + name.length)⟩)
  /-- A string. -/
  | string {p : Nat} {q : CodePoint} {body value u : Text} :
      d.categoryOf q = .stringDelimiter → d.StringRest q body value →
        Expr d p (q :: body) u (.atom (.string value) ⟨p, p + (body.length + 1)⟩)
  /-- A list or a vector: its opener, its items and its own closer. -/
  | seq {p : Nat} {kind : SeqKind} {o c : CodePoint} {inner u : Text} {items : List (Form Span)} :
      d.categoryOf o = kind.opener → Items d (p + 1) inner (c :: u) items →
        d.categoryOf c = kind.closer →
        Expr d p (o :: inner ++ [c]) u (kind.build items ⟨p, p + inner.length + 1 + 1⟩)
  /-- A quote prefix, atmosphere and the form it quotes, read as the list of the quote's head
  symbol and the form. -/
  | quote {p : Nat} {q : CodePoint} {a x u : Text} {f : Form Span} :
      d.categoryOf q = .quotePrefix → ¬ d.SplicesAt q (a ++ x ++ u) → d.Atmosphere a →
        Expr d (p + 1 + a.length) x u f →
        Expr d p (q :: a ++ x) u
          (.list [Form.symbol (d.quoteKind q).name ⟨p, p + 1⟩, f] ⟨p, p + 1 + a.length + x.length⟩)
  /-- The unquote prefix and the splice mark, atmosphere and the form they splice. -/
  | splice {p : Nat} {q n : CodePoint} {a x u : Text} {f : Form Span} :
      d.categoryOf q = .quotePrefix → d.unquote = some [q] → d.splice = some [n] →
        d.Atmosphere a → Expr d (p + 2 + a.length) x u f →
        Expr d p (q :: n :: a ++ x) u
          (.list [Form.symbol QuoteKind.unquoteSplicing.name ⟨p, p + 2⟩, f]
            ⟨p, p + 2 + a.length + x.length⟩)

/-- Items: atmosphere, then forms each followed by atmosphere; the text `t` starts at position `p`
and is followed by `u`. -/
inductive Items (d : Dialect) : Nat → Text → Text → List (Form Span) → Prop where
  /-- Atmosphere and no more forms. -/
  | nil {p : Nat} {a u : Text} : d.Atmosphere a → Items d p a u []
  /-- Atmosphere, a form, and more items after it. -/
  | cons {p : Nat} {a x rest u : Text} {f : Form Span} {fs : List (Form Span)} :
      d.Atmosphere a → Expr d (p + a.length) x (rest ++ u) f →
        Items d (p + a.length + x.length) rest u fs → Items d p (a ++ x ++ rest) u (f :: fs)
end

/-- A whole source: items, then what may end a source. -/
inductive Program (d : Dialect) : Text → List (Form Span) → Prop where
  /-- Top-level items and the ending after them. -/
  | mk {x tail : Text} {forms : List (Form Span)} :
      d.Items 0 x tail forms → d.Ending tail → Program d (x ++ tail) forms

end Dialect

end LispReader

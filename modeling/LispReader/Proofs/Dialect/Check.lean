import LispReader.Proofs.Reader.Append
import LispReader.Proofs.Printer.ReadBack

/-! Which dialects the check refuses. Given its blanks as text, a dialect whose three quote roles
claim different keys is refused for a conflict exactly when two of its nine roles claim one key, a
role claims a blank, or it reads char literals with a prefix that is text not starting with a
constituent; a char literal prefix turned off while char literals are read is refused apart, as a
value missing. An accepted dialect gives each role whose key is one code point that code point, so
a quote role's key in front of any form reads as the quote of that form under the role's name. -/

namespace LispReader

/-- Whether a refusal is a conflict among the dialect's own tokens, as against a value missing where
the dialect needs one. -/
def DialectError.isConflict : DialectError → Bool
  | .clash .. | .charPrefix _ => true
  | .charPrefixOff | .blanksOff => false

namespace Dialect

/-- The keys of the nine roles, in order: the brackets of lists and vectors, the string delimiter,
the comment start and the three quote prefixes; a role turned off claims none. -/
def roleKeys (d : Dialect) : List Text :=
  [d.listOpen, d.listClose, d.vectorOpen, d.vectorClose, d.stringDelimiter, d.commentStart,
    d.quote, d.quasiquote, d.unquote].filterMap id

/-- Two roles claim one key, or a role claims a single blank. -/
def Conflicting (d : Dialect) : Prop :=
  ¬ d.roleKeys.Nodup ∨ ∃ key ∈ d.roleKeys, ∃ c ∈ d.blanks, key = [c]

/-- Char literals are read, and their prefix is text that does not start with a constituent. -/
def BadCharPrefix (d : Dialect) : Prop :=
  d.charLiterals ∧ ∃ pfx, d.charPrefix = some pfx ∧ ∀ c ∈ pfx.head?, d.isConstituent c = false

/-- The three quote roles claim pairwise different keys. -/
def QuoteKeysDistinct (d : Dialect) : Prop :=
  ([d.quote, d.quasiquote, d.unquote].filterMap id).Nodup

instance (d : Dialect) : Decidable d.QuoteKeysDistinct :=
  inferInstanceAs (Decidable (List.Nodup _))

/-- A key is a blank exactly when it is one blank code point. -/
theorem isBlankKey_iff (d : Dialect) (key : Text) :
    d.isBlankKey key = true ↔ ∃ c ∈ d.blanks, key = [c] := by
  unfold isBlankKey
  split <;> simp_all

/-! ### The first clash -/

/-- Looking for the first clash finds none exactly when the keys the roles claim are pairwise
different, none is a blank and none was claimed before. -/
theorem firstClash_eq_none_iff (d : Dialect) (claimed : List (Text × Category))
    (roles : List (Token × Category)) :
    d.firstClash claimed roles = none ↔
      (∀ key ∈ roles.filterMap Prod.fst, d.isBlankKey key = false ∧ key ∉ claimed.map Prod.fst) ∧
        (roles.filterMap Prod.fst).Nodup := by
  -- Induction on the roles, each key joining the keys claimed before the next.
  induction roles generalizing claimed with
  | nil => simp [firstClash]
  | cons role rest ih =>
    obtain ⟨token, category⟩ := role
    cases token with
    | none => simpa [firstClash] using ih claimed
    | some key =>
      have keys : ((some key, category) :: rest).filterMap Prod.fst =
          key :: rest.filterMap Prod.fst := rfl
      simp only [firstClash, keys]
      by_cases blank : d.isBlankKey key = true
      · -- A blank claimed by a role is a clash at once.
        rw [if_pos blank]
        refine iff_of_false (by simp) fun ⟨each, _⟩ => ?_
        rw [(each key List.mem_cons_self).1] at blank
        cases blank
      rw [if_neg blank]
      cases found : claimed.find? fun entry => entry.1 = key with
      | some entry =>
        -- A key claimed before is a clash.
        have before : key ∈ claimed.map Prod.fst :=
          List.mem_map.mpr ⟨entry, List.mem_of_find?_eq_some found, by simpa using List.find?_some found⟩
        exact iff_of_false (by simp) fun ⟨each, _⟩ => (each key List.mem_cons_self).2 before
      | none =>
        -- A fresh key joins the keys claimed before the rest.
        have fresh : key ∉ claimed.map Prod.fst := fun member => by
          obtain ⟨entry, inside, same⟩ := List.mem_map.mp member
          exact List.find?_eq_none.mp found entry inside (by simp [same])
        rw [ih, List.map_cons, List.forall_mem_cons, List.nodup_cons]
        constructor
        · rintro ⟨each, nodup⟩
          exact ⟨⟨⟨by simpa using blank, fresh⟩, fun k member =>
            ⟨(each k member).1, fun before => (each k member).2 (List.mem_cons_of_mem _ before)⟩⟩,
            fun member => (each key member).2 List.mem_cons_self, nodup⟩
        · rintro ⟨⟨-, each⟩, missing, nodup⟩
          refine ⟨fun k member => ⟨(each k member).1, fun claimed_k => ?_⟩, nodup⟩
          rcases List.mem_cons.mp claimed_k with same | before
          · have same : k = key := same
            exact missing (same ▸ member)
          · exact (each k member).2 before

/-- Every refusal the search for clashes gives is a clash. -/
theorem firstClash_isConflict (d : Dialect) {claimed : List (Text × Category)}
    {roles : List (Token × Category)} {refusal : DialectError}
    (found : d.firstClash claimed roles = some refusal) : refusal.isConflict = true := by
  induction roles generalizing claimed with
  | nil => cases found
  | cons role rest ih =>
    obtain ⟨token, category⟩ := role
    cases token with
    | none => exact ih found
    | some key =>
      simp only [firstClash] at found
      split at found
      · cases found
        rfl
      split at found
      · cases found
        rfl
      · exact ih found

/-- Dropping repeats from a list without any leaves it as it is. -/
private theorem eraseDups_of_nodup {α : Type} [BEq α] [LawfulBEq α] :
    ∀ {l : List α}, l.Nodup → l.eraseDups = l
  | [], _ => rfl
  | a :: rest, nodup => by
    have fresh := (List.nodup_cons.mp nodup).1
    rw [List.eraseDups_cons, List.filter_eq_self.mpr, eraseDups_of_nodup nodup.of_cons]
    intro b member
    simpa using fun same : b = a => fresh (same ▸ member)

/-- With the quote roles claiming different keys, the keys the check goes through are the nine
roles' keys. -/
theorem roles_keys {d : Dialect} (distinct : d.QuoteKeysDistinct) :
    d.roles.filterMap Prod.fst = d.roleKeys := by
  unfold roles roleKeys quotePrefixes
  rw [eraseDups_of_nodup distinct, List.filterMap_append, List.filterMap_map]
  -- The six roles before the quotes claim their tokens, and each quote prefix its key.
  have quotes : (Prod.fst ∘ fun key : Text => ((some key : Token), Category.quotePrefix)) = some :=
    rfl
  rw [quotes, List.filterMap_some]
  show _ = List.filterMap id ([d.listOpen, d.listClose, d.vectorOpen, d.vectorClose,
    d.stringDelimiter, d.commentStart] ++ [d.quote, d.quasiquote, d.unquote])
  rw [List.filterMap_append]
  rfl

/-- With the quote roles claiming different keys, no clash is found exactly when the dialect's roles
do not conflict. -/
theorem firstClash_roles_eq_none_iff {d : Dialect} (distinct : d.QuoteKeysDistinct) :
    d.firstClash [] d.roles = none ↔ ¬ d.Conflicting := by
  rw [firstClash_eq_none_iff, roles_keys distinct]
  unfold Conflicting
  simp only [List.map_nil, List.not_mem_nil, not_false_eq_true, and_true, not_or,
    Classical.not_not, not_exists, not_and]
  constructor
  · rintro ⟨each, nodup⟩
    refine ⟨nodup, fun key member c blank same => ?_⟩
    have := (each key member)
    rw [(isBlankKey_iff d key).mpr ⟨c, blank, same⟩] at this
    cases this
  · rintro ⟨nodup, none_blank⟩
    refine ⟨fun key member => ?_, nodup⟩
    cases blank : d.isBlankKey key with
    | false => rfl
    | true =>
      obtain ⟨c, inside, same⟩ := (isBlankKey_iff d key).mp blank
      exact absurd same (none_blank key member c inside)

/-! ### The check -/

/-- Given roles that do not clash, the char literal prefix is refused for a conflict exactly when it
is bad, and refused as missing exactly when it is turned off while char literals are read. -/
theorem check_charPrefix {d : Dialect} (blanks : d.extraBlanks ≠ none)
    (clear : d.firstClash [] d.roles = none) :
    ((∃ e, d.check = .error e ∧ e.isConflict = true) ↔ d.BadCharPrefix) ∧
      (d.check = .error .charPrefixOff ↔ d.charLiterals = true ∧ d.charPrefix = none) := by
  rw [check, if_neg (by simpa using blanks), clear]
  unfold BadCharPrefix
  -- The prefix is looked at only when char literals are read.
  cases reads : d.charLiterals with
  | false => simp
  | true =>
    cases named : d.charPrefix with
    | none => simp [DialectError.isConflict]
    | some pfx =>
      cases pfx with
      | nil => simp [DialectError.isConflict]
      | cons c rest =>
        by_cases plain : d.isConstituent c = true
        · simp [plain]
        · simp [plain, DialectError.isConflict]

/-- Given its blanks as text and quote roles with different keys, a dialect is refused for a conflict
exactly when its roles conflict or its char literal prefix is bad, and refused for a missing char
literal prefix exactly when its roles do not conflict and it reads char literals with the prefix
turned off. -/
theorem check_refusals {d : Dialect} (blanks : d.extraBlanks ≠ none)
    (distinct : d.QuoteKeysDistinct) :
    ((∃ e, d.check = .error e ∧ e.isConflict = true) ↔ d.Conflicting ∨ d.BadCharPrefix) ∧
      (d.check = .error .charPrefixOff ↔
        ¬ d.Conflicting ∧ d.charLiterals = true ∧ d.charPrefix = none) := by
  cases clash : d.firstClash [] d.roles with
  | some refusal =>
    -- A clash is refused at once, and the roles conflict.
    have conflicting : d.Conflicting := Classical.byContradiction fun clear => by
      rw [← firstClash_roles_eq_none_iff distinct, clash] at clear
      cases clear
    have refused : d.check = .error refusal := by
      rw [check, if_neg (by simpa using blanks), clash]
    rw [refused]
    refine ⟨iff_of_true ⟨refusal, rfl, d.firstClash_isConflict clash⟩ (.inl conflicting),
      iff_of_false (fun same => ?_) fun ⟨clear, _⟩ => clear conflicting⟩
    have conflict := d.firstClash_isConflict clash
    cases same
    cases conflict
  | none =>
    have clear := (firstClash_roles_eq_none_iff distinct).mp clash
    obtain ⟨conflict, off⟩ := check_charPrefix blanks clash
    exact ⟨conflict.trans ⟨.inr, fun | .inl c => absurd c clear | .inr bad => bad⟩,
      off.trans ⟨fun named => ⟨clear, named⟩, fun ⟨_, named⟩ => named⟩⟩

/-! ### What an accepted dialect reads -/

/-- Among roles whose keys are pairwise different, the first role claiming a key is the one that
claims it. -/
private theorem find?_role_key {roles : List (Token × Category)}
    (nodup : (roles.filterMap Prod.fst).Nodup) {key : Text} {category : Category}
    (member : (some key, category) ∈ roles) :
    roles.find? (fun role => role.1 = some key) = some (some key, category) := by
  induction roles with
  | nil => cases member
  | cons role rest ih =>
    obtain ⟨token, category'⟩ := role
    have tail : (rest.filterMap Prod.fst).Nodup :=
      nodup.sublist ((List.sublist_cons_self _ _).filterMap _)
    by_cases claims : token = some key
    · subst claims
      rw [List.find?_cons_of_pos (by simp)]
      -- A second role claiming the key would repeat it.
      rcases List.mem_cons.mp member with same | later
      · rw [same]
      · have again : key ∈ rest.filterMap Prod.fst := List.mem_filterMap.mpr ⟨_, later, rfl⟩
        exact absurd again (List.nodup_cons.mp nodup).1
    · rw [List.find?_cons_of_neg (by simpa using claims)]
      rcases List.mem_cons.mp member with same | later
      · exact absurd (congrArg Prod.fst same).symm claims
      · exact ih tail later

/-- In a dialect whose roles do not clash, a role whose key is one code point gives that code
point the role's category. -/
theorem categoryOf_of_role {d : Dialect} (clear : d.firstClash [] d.roles = none) {q : CodePoint}
    {category : Category} (role : (some [q], category) ∈ d.roles) : d.categoryOf q = category := by
  obtain ⟨each, nodup⟩ := (d.firstClash_eq_none_iff [] d.roles).mp clear
  have key : [q] ∈ d.roles.filterMap Prod.fst := List.mem_filterMap.mpr ⟨_, role, rfl⟩
  unfold categoryOf classify
  rw [if_neg (by simp [(each [q] key).1]), find?_role_key nodup role]

/-- An accepted dialect's roles do not clash. -/
theorem firstClash_of_check {d : Dialect} (accepted : d.check = .ok d) :
    d.firstClash [] d.roles = none := by
  unfold check at accepted
  split at accepted
  · cases accepted
  split at accepted
  · cases accepted
  · assumption

/-- A quote role whose key is one code point claims it as a quote prefix. -/
theorem quote_role_mem {d : Dialect} {k : QuoteKind}
    (three : k ∈ [QuoteKind.quote, .quasiquote, .unquote]) {q : CodePoint}
    (token : d.quoteToken k = some [q]) : (some [q], Category.quotePrefix) ∈ d.roles := by
  have claimed : some [q] ∈ [d.quote, d.quasiquote, d.unquote] := by
    simp only [List.mem_cons, List.not_mem_nil, or_false] at three
    rcases three with rfl | rfl | rfl <;> simp [← token, quoteToken]
  unfold roles quotePrefixes
  refine List.mem_append_right _ (List.mem_map.mpr ⟨[q], ?_, rfl⟩)
  rw [List.mem_eraseDups]
  exact List.mem_filterMap.mpr ⟨_, claimed, rfl⟩

/-- With the quote roles claiming different keys, a quote role's key of one code point stands for
that role's quote. -/
theorem quoteKind_of_token {d : Dialect} (distinct : d.QuoteKeysDistinct) {k : QuoteKind}
    (three : k ∈ [QuoteKind.quote, .quasiquote, .unquote]) {q : CodePoint}
    (token : d.quoteToken k = some [q]) : d.quoteKind q = k := by
  unfold QuoteKeysDistinct at distinct
  simp only [List.mem_cons, List.not_mem_nil, or_false] at three
  -- Each other role holding the key would repeat it among the quote keys.
  rcases three with rfl | rfl | rfl <;> simp only [quoteToken] at token <;>
    simp only [quoteKind] <;> rw [token] at distinct
  · rw [if_neg fun same => by cases quasi : d.quasiquote <;> simp_all,
      if_neg fun same => by cases unq : d.unquote <;> simp_all]
  · rw [if_neg fun same => by cases quo : d.quote <;> simp_all, if_pos token]
  · rw [if_pos token]

/-- Any text that stands after a form can stand after it in place of itself. -/
private theorem follows_self (d : Dialect) (u : Text) : d.Follows u u :=
  ⟨id, fun _ reaches => reaches⟩

/-- A quote prefix in front of a text that reads as one form reads as the quote of that form,
moved past the prefix, when the prefix does not splice with what follows and the quote still nests
within the limit. The quote spans the prefix through the end of the form. -/
theorem readWithin_quoted {d : Dialect} {limit : Nat} {q : CodePoint} {text : Text}
    {f : Form Span} (quotes : d.categoryOf q = .quotePrefix) (no_splice : ¬ d.SplicesAt q text)
    (operand : d.readWithin limit text = ⟨[f], none⟩) (room : f.depth < limit) :
    d.readWithin limit (q :: text) =
      ⟨[.list [Form.symbol (d.quoteKind q).name ⟨0, 1⟩, f.shift 1] ⟨0, f.ann.stop + 1⟩], none⟩ := by
  obtain ⟨a, x', rest, tail, rfl, blanks, expr, blanks', ending⟩ := readWithin_single_parts operand
  -- The form moves one code point on, past the prefix.
  obtain ⟨g, expr', moved⟩ := Expr.move (0 + 1 + a.length) expr (follows_self d _)
  have same : g = f.shift 1 := by
    rw [← moved 0 1 (by omega), Form.shift_zero]
  subst same
  have quoted := Expr.quote (p := 0) quotes (by simpa using no_splice) blanks expr'
  have stop : 0 + 1 + a.length + x'.length = f.ann.stop + 1 := by
    rw [expr.ann]
    dsimp only
    omega
  rw [stop] at quoted
  have bounded : (Form.list [Form.symbol (d.quoteKind q).name ⟨0, 0 + 1⟩, f.shift 1]
      ⟨0, f.ann.stop + 1⟩).depth ≤ limit := by
    simp only [Form.depth, Form.depthAll, Form.symbol, Form.depth_shift]
    omega
  simpa using readWithin_of_parts .nil quoted blanks' ending bounded

/-- Given its blanks as text and quote roles with different keys, a dialect is refused for a
conflict exactly when two of its nine roles claim one key, a role claims a blank, or its char
literal prefix is bad; it is refused for a missing char literal prefix exactly when its roles do
not conflict and it reads char literals with the prefix turned off. An accepted dialect reads each
quote role's key of one code point, in front of a text that reads as one form, as the list of the
role's name and that form, unless the key is the unquote and the text starts with the splice
mark. -/
theorem check_refuses_exactly_conflicts (d : Dialect) (blanks : d.extraBlanks ≠ none)
    (distinct : d.QuoteKeysDistinct) :
    (((∃ e, d.check = .error e ∧ e.isConflict = true) ↔ d.Conflicting ∨ d.BadCharPrefix) ∧
      (d.check = .error .charPrefixOff ↔
        ¬ d.Conflicting ∧ d.charLiterals = true ∧ d.charPrefix = none)) ∧
    (d.check = .ok d → ∀ k ∈ [QuoteKind.quote, .quasiquote, .unquote], ∀ q,
      d.quoteToken k = some [q] → ∀ limit text f, ¬ d.SplicesAt q text →
        d.readWithin limit text = ⟨[f], none⟩ → f.depth < limit →
          d.readWithin limit (q :: text) =
            ⟨[.list [Form.symbol k.name ⟨0, 1⟩, f.shift 1] ⟨0, f.ann.stop + 1⟩], none⟩) := by
  refine ⟨check_refusals blanks distinct, fun accepted k three q token limit text f no_splice
    operand room => ?_⟩
  have quotes : d.categoryOf q = .quotePrefix :=
    categoryOf_of_role (firstClash_of_check accepted) (quote_role_mem three token)
  rw [readWithin_quoted quotes no_splice operand room, quoteKind_of_token distinct three token]

/-- Quote roles that share a key are accepted, and the later role takes the key. An accepted
dialect whose quote and quasiquote share a key of one code point that the unquote does not hold
reads that key, in front of a text that reads as one form, as the quasiquote of the form. -/
theorem shared_quote_key_quasiquotes {d : Dialect} (accepted : d.check = .ok d) {q : CodePoint}
    (quote : d.quote = some [q]) (quasi : d.quasiquote = some [q])
    (not_unquote : d.unquote ≠ some [q]) {limit : Nat} {text : Text} {f : Form Span}
    (operand : d.readWithin limit text = ⟨[f], none⟩) (room : f.depth < limit) :
    d.readWithin limit (q :: text) =
      ⟨[.list [Form.symbol "quasiquote" ⟨0, 1⟩, f.shift 1] ⟨0, f.ann.stop + 1⟩], none⟩ := by
  have quotes : d.categoryOf q = .quotePrefix :=
    categoryOf_of_role (firstClash_of_check accepted) (quote_role_mem (k := .quote) (by simp) quote)
  have kind : d.quoteKind q = .quasiquote := by
    rw [quoteKind, if_neg not_unquote, if_pos quasi]
  rw [readWithin_quoted quotes (not_splicesAt not_unquote text) operand room, kind]
  rfl

/-- With the apostrophe as the key of both the quote and the quasiquote, the dialect is accepted
and the apostrophe before a letter reads as the quasiquote of the letter. -/
theorem apostrophe_quasiquotes_symbol :
    ({ quasiquote := some (Text.ofString "'") } : Dialect).check =
        .ok { quasiquote := some (Text.ofString "'") } ∧
      ({ quasiquote := some (Text.ofString "'") } : Dialect).readWithin nestingLimit
          (Text.ofString "'x") =
        ⟨[.list [Form.symbol "quasiquote" ⟨0, 1⟩, Form.symbol "x" ⟨1, 2⟩] ⟨0, 2⟩], none⟩ := by
  have accepted : ({ quasiquote := some (Text.ofString "'") } : Dialect).check =
      .ok { quasiquote := some (Text.ofString "'") } := rfl
  have symbol : ({ quasiquote := some (Text.ofString "'") } : Dialect).Expr 0 (Text.ofString "x") []
      (Form.symbol "x" ⟨0, 1⟩) :=
    .run (by decide) (by decide) trivial (by decide)
      (castAtom_symbol _ (by decide) (by decide) (by decide))
  have read : ({ quasiquote := some (Text.ofString "'") } : Dialect).readWithin nestingLimit
      (Text.ofString "x") = ⟨[Form.symbol "x" ⟨0, 1⟩], none⟩ :=
    readWithin_single symbol (Nat.zero_le _)
  exact ⟨accepted, shared_quote_key_quasiquotes accepted (q := CodePoint.ofChar (Char.ofNat 39))
    rfl rfl (by decide) read (by simp [Form.depth, Form.symbol, nestingLimit])⟩

/-- The standard dialect is accepted, and its quote reads a symbol as the quote of that
symbol. -/
theorem standard_quotes_symbol :
    standard.extraBlanks ≠ none ∧ standard.QuoteKeysDistinct ∧ standard.check = .ok standard ∧
      standard.readWithin nestingLimit (Text.ofString "'x") =
        ⟨[.list [Form.symbol "quote" ⟨0, 1⟩, Form.symbol "x" ⟨1, 2⟩] ⟨0, 2⟩], none⟩ := by
  have symbol : standard.Expr 0 (Text.ofString "x") [] (Form.symbol "x" ⟨0, 1⟩) :=
    .run (by decide) (by decide) trivial (by decide)
      (castAtom_symbol standard (by decide) (by decide) (by decide))
  have read : standard.readWithin nestingLimit (Text.ofString "x") =
      ⟨[Form.symbol "x" ⟨0, 1⟩], none⟩ :=
    readWithin_single symbol (Nat.zero_le _)
  have accepted : standard.check = .ok standard := rfl
  refine ⟨by decide, by decide, accepted, ?_⟩
  exact (check_refuses_exactly_conflicts standard (by decide) (by decide)).2 accepted .quote
    (by simp) (CodePoint.ofChar (Char.ofNat 39)) rfl nestingLimit (Text.ofString "x") _
    (by decide) read (by simp [Form.depth, Form.symbol, nestingLimit])

/-- A quote role's key of two code points is accepted and never read as a quote. With the quote
key number sign and apostrophe, the number sign, the apostrophe and a letter read as one
symbol. -/
theorem two_code_point_quote_reads_as_symbol :
    ({ quote := some (Text.ofString "#'") } : Dialect).check =
        .ok { quote := some (Text.ofString "#'") } ∧
      ({ quote := some (Text.ofString "#'") } : Dialect).read (Text.ofString "#'f") =
        ⟨[Form.symbol "#'f" ⟨0, 3⟩], none⟩ := by
  have symbol : ({ quote := some (Text.ofString "#'") } : Dialect).Expr 0 (Text.ofString "#'f") []
      (Form.symbol "#'f" ⟨0, 3⟩) :=
    .run (by decide) (by decide) trivial (by decide)
      (castAtom_symbol _ (by decide) (by decide) (by decide))
  exact ⟨rfl, readWithin_single symbol (Nat.zero_le _)⟩

end Dialect

end LispReader

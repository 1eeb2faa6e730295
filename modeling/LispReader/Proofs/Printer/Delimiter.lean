import LispReader.Proofs.Printer.ReadBack
import LispReader.Proofs.Dialect.Check

/-! Strings printed between another delimiter. The printer escapes the backslash, the double quote
and four controls whatever delimiter it writes, so a string printed between delimiters of one code
point reads back as itself exactly when none of its code points prints as a text starting with the
delimiter: one that does closes the string early. -/

namespace LispReader

namespace Dialect

variable {d : Dialect}

/-- A rest of a string that the printed value of the same string and more text start with meets no
delimiter early: each code point of the value prints as a text starting with something other than
the delimiter. -/
theorem StringRest.printsClear {q : CodePoint} (escape : d.escape = some [CodePoint.ofChar '\\'])
    {body value : Text} (rest : d.StringRest q body value) :
    ∀ {w : Text}, body ++ w = value.flatMap PrintStyle.escapeInString ++ [q] →
      PrintStyle.PrintsClearOf q value := by
  -- Induction on the rest, each step matching one code point of the value with its escape.
  induction rest with
  | close => exact fun _ c member => absurd member List.not_mem_nil
  | @plain c rest value differs not_escape _ ih =>
    intro w same
    rw [List.flatMap_cons, List.append_assoc] at same
    rcases PrintStyle.escapeInString_cases c with ⟨plain, -, -⟩ | ⟨e, escaped, -⟩
    · rw [plain] at same
      refine List.forall_mem_cons.mpr ⟨?_, ih (List.cons.inj same).2⟩
      rw [plain]
      simpa using differs
    · -- A code point the reader takes as itself is no escape, but the printer escaped it.
      rw [escaped] at same
      obtain rfl : c = CodePoint.ofChar '\\' := (List.cons.inj same).1
      exact absurd escape not_escape
  | @escaped c e rest value differs is_escape _ ih =>
    intro w same
    rw [List.flatMap_cons, List.append_assoc] at same
    rcases PrintStyle.escapeInString_cases (unescape e) with
      ⟨plain, -, not_backslash⟩ | ⟨e', escaped, -⟩
    · -- The reader's escape is the backslash, which the printer never writes bare.
      rw [plain] at same
      obtain rfl : c = unescape e := (List.cons.inj same).1
      rw [escape] at is_escape
      exact absurd (List.singleton_inj.mp (Option.some_inj.mp is_escape)).symm not_backslash
    · rw [escaped] at same
      obtain ⟨rfl, rfl, tail⟩ : c = CodePoint.ofChar '\\' ∧ e = e' ∧ _ := by
        simpa using same
      refine List.forall_mem_cons.mpr ⟨?_, ih tail⟩
      rw [escaped]
      simpa using differs

/-- A form that is a string was derived from its opening delimiter and a rest of its value. -/
theorem Expr.string_rest {p : Nat} {x u value : Text} {span : Span}
    (expr : d.Expr p x u (.atom (.string value) span)) :
    ∃ q body, x = q :: body ∧ d.categoryOf q = .stringDelimiter ∧ d.StringRest q body value := by
  generalize same : Form.atom (.string value) span = f at expr
  cases expr with
  | run _ _ _ _ cast =>
    -- No run casts to a string.
    cases same
    rcases castAtom_cases cast with same | ⟨_, same⟩ | ⟨_, same⟩ | same <;> cases same
  | char | quote | splice => cases same
  | @seq _ kind => cases kind <;> cases same
  | string delimits rest =>
    cases same
    exact ⟨_, _, rfl, delimits, rest⟩

/-- A printed string starts with its delimiter, which no atmosphere starts with. -/
theorem Atmosphere.eq_nil_of_delimiter {a x : Text} {q : CodePoint} (blanks : d.Atmosphere a)
    (delimits : d.categoryOf q = .stringDelimiter) (front : (a ++ x).head? = some q) : a = [] := by
  cases blanks with
  | nil => rfl
  | blank blank _ =>
    obtain rfl := Option.some.inj front
    rw [delimits] at blank
    cases blank
  | comment comment _ _ =>
    obtain rfl := Option.some.inj front
    rw [delimits] at comment
    cases comment

/-- The standard blanks are blanks in every dialect, whatever role claims them. -/
theorem categoryOf_standardBlank {c : CodePoint} (blank : c ∈ standardBlanks) :
    d.categoryOf c = .blank := by
  simp [categoryOf, classify, isBlankKey, blanks, blank]

/-- Which values print clear of a string delimiter. No blank delimits strings, so of the six code
points the printer escapes only the backslash, the double quote and NUL can: every value prints
clear of the double quote and of NUL, a value prints clear of the backslash when the printer
escapes none of its code points, and clear of any other delimiter when it does not hold it. -/
theorem printsClearOf_delimiter_iff {q : CodePoint} (role : d.categoryOf q = .stringDelimiter)
    (value : Text) :
    PrintStyle.PrintsClearOf q value ↔
      q = CodePoint.ofChar '"' ∨ q = CodePoint.ofChar '\x00' ∨
        (q = CodePoint.ofChar '\\' ∧ ∀ c ∈ value, PrintStyle.escapeInString c = [c]) ∨
        (PrintStyle.escapeInString q = [q] ∧ q ∉ value) := by
  by_cases plain : PrintStyle.escapeInString q = [q]
  · -- A delimiter printed as itself is none of the escaped code points.
    rw [PrintStyle.printsClearOf_iff_not_mem plain]
    have escaped (c : Char) (escapes : PrintStyle.escapeInString (CodePoint.ofChar c) ≠
        [CodePoint.ofChar c]) : q ≠ CodePoint.ofChar c := by
      rintro rfl
      exact escapes plain
    simp [plain, escaped '"' (by decide), escaped '\x00' (by decide),
      escaped '\\' PrintStyle.backslash_escaped]
  -- An escaped delimiter is one of the six, and not a blank.
  have six := PrintStyle.mem_escaped plain
  simp only [List.mem_cons, List.not_mem_nil, or_false] at six
  have not_blank (c : Char) (blank : CodePoint.ofChar c ∈ standardBlanks) : q ≠ CodePoint.ofChar c := by
    rintro rfl
    rw [categoryOf_standardBlank blank] at role
    cases role
  rcases six with rfl | rfl | rfl | rfl | rfl | rfl
  · rw [PrintStyle.printsClearOf_backslash_iff]
    refine ⟨fun all => .inr (.inr (.inl ⟨rfl, all⟩)), ?_⟩
    rintro (same | same | ⟨-, all⟩ | ⟨printed, -⟩)
    · exact absurd same (by decide)
    · exact absurd same (by decide)
    · exact all
    · exact absurd printed plain
  · exact iff_of_true (PrintStyle.printsClearOf_doubleQuote value) (.inl rfl)
  · exact absurd rfl (not_blank '\n' (by decide))
  · exact absurd rfl (not_blank '\t' (by decide))
  · exact absurd rfl (not_blank '\r' (by decide))
  · exact iff_of_true (PrintStyle.printsClearOf_of_escaped plain (by decide) value) (.inr (.inl rfl))

/-- A string printed between delimiters of one code point, by a printer and an accepted dialect
that both take that code point as the delimiter and the dialect the backslash as its escape, reads
back as that string alone and spans the whole text when no code point of the string prints as a text
starting with the delimiter; and only then does it read back as that string alone. That is every
string for the double quote and NUL, the strings with no code point the printer escapes for the
backslash, and the strings without the delimiter for any other delimiter. -/
theorem printed_string_reads_back (d : Dialect) (st : PrintStyle) {q : CodePoint}
    (accepted : d.check = .ok d) (escape : d.escape = some [CodePoint.ofChar '\\'])
    (delimits : d.stringDelimiter = some [q]) (prints : st.stringDelimiter = some [q])
    (value : Text) :
    ∃ text, st.printAtom (.string value) = .ok text ∧
      (PrintStyle.PrintsClearOf q value →
        d.read text = ⟨[.atom (.string value) ⟨0, text.length⟩], none⟩) ∧
      (∀ span, d.read text = ⟨[.atom (.string value) span], none⟩ →
        PrintStyle.PrintsClearOf q value) ∧
      (PrintStyle.PrintsClearOf q value ↔
        q = CodePoint.ofChar '"' ∨ q = CodePoint.ofChar '\x00' ∨
          (q = CodePoint.ofChar '\\' ∧ ∀ c ∈ value, PrintStyle.escapeInString c = [c]) ∨
          (PrintStyle.escapeInString q = [q] ∧ q ∉ value)) := by
  have role : d.categoryOf q = .stringDelimiter :=
    categoryOf_of_role (firstClash_of_check accepted) (by simp [roles, delimits])
  refine ⟨q :: (value.flatMap PrintStyle.escapeInString ++ [q]), ?_, fun clear => ?_,
    fun span reads => ?_, printsClearOf_delimiter_iff role value⟩
  · simp [PrintStyle.printAtom, enclose, joinTokens, prints, bind, Except.bind]
  · -- The printed string is the one form of the text.
    have string := Expr.string (p := 0) (u := []) role (stringRest_printed escape clear)
    rw [Nat.zero_add] at string
    exact readWithin_single string (Nat.zero_le _)
  · -- The one form read is a string opened by the first delimiter, whose rest is a prefix of what
    -- was printed after it.
    generalize printed : q :: (value.flatMap PrintStyle.escapeInString ++ [q]) = text at reads
    obtain ⟨a, x', rest, tail, rfl, blanks, expr, -, -⟩ := readWithin_single_parts reads
    have front : (a ++ (x' ++ rest ++ tail)).head? = some q := by
      rw [← List.append_assoc, ← List.append_assoc, ← printed]
      rfl
    obtain rfl := blanks.eq_nil_of_delimiter role front
    obtain ⟨q', body, rfl, -, body_rest⟩ := expr.string_rest
    obtain ⟨rfl, after⟩ : q = q' ∧ _ := by simpa using printed
    exact body_rest.printsClear escape (w := rest ++ tail) after.symm

/-- With the vertical bar as the delimiter of strings in both the dialect and the printer, a letter
printed as a string reads back. -/
theorem bar_delimited_letter_reads_back :
    ({ stringDelimiter := some (Text.ofString "|") } : Dialect).check =
        .ok { stringDelimiter := some (Text.ofString "|") } ∧
      ({ stringDelimiter := some (Text.ofString "|") } : PrintStyle).printAtom
          (.string (Text.ofString "a")) = .ok (Text.ofString "|a|") ∧
      ({ stringDelimiter := some (Text.ofString "|") } : Dialect).read (Text.ofString "|a|") =
        ⟨[.atom (.string (Text.ofString "a")) ⟨0, 3⟩], none⟩ := by
  have accepted : ({ stringDelimiter := some (Text.ofString "|") } : Dialect).check =
      .ok { stringDelimiter := some (Text.ofString "|") } := rfl
  have letter : ({ stringDelimiter := some (Text.ofString "|") } : PrintStyle).printAtom
      (.string (Text.ofString "a")) = .ok (Text.ofString "|a|") := rfl
  obtain ⟨text, printed, reads, -, -⟩ := printed_string_reads_back
    { stringDelimiter := some (Text.ofString "|") } { stringDelimiter := some (Text.ofString "|") }
    (q := CodePoint.ofChar '|') accepted (by decide) (by decide) (by decide) (Text.ofString "a")
  obtain rfl : text = Text.ofString "|a|" := Except.ok.inj (printed.symm.trans letter)
  exact ⟨accepted, letter, reads (by decide)⟩

/-- A string that holds the delimiter is printed with the delimiter bare, which closes the string
early. With the vertical bar as the delimiter, the string of two bars prints as four bars, and these
read back as two empty strings. -/
theorem bars_in_string_close_it :
    ({ stringDelimiter := some (Text.ofString "|") } : Dialect).check =
        .ok { stringDelimiter := some (Text.ofString "|") } ∧
      ({ stringDelimiter := some (Text.ofString "|") } : PrintStyle).printAtom
          (.string (Text.ofString "||")) = .ok (Text.ofString "||||") ∧
      ({ stringDelimiter := some (Text.ofString "|") } : Dialect).read (Text.ofString "||||") =
        ⟨[.atom (.string []) ⟨0, 2⟩, .atom (.string []) ⟨2, 4⟩], none⟩ := by
  -- Each pair of bars is an empty string.
  have empty : ∀ p u, ({ stringDelimiter := some (Text.ofString "|") } : Dialect).Expr p
      [CodePoint.ofChar '|', CodePoint.ofChar '|'] u (.atom (.string []) ⟨p, p + 2⟩) :=
    fun _ _ => .string (by decide) .close
  have items := Items.cons (a := []) .nil (empty 0 _) (Items.cons (a := []) .nil (empty 2 [])
    (.nil (u := []) .nil))
  exact ⟨rfl, rfl, readFrom_complete .done (by simp [Form.depth]) [] rfl (by decide) items⟩

end Dialect

end LispReader

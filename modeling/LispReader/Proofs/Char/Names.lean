import LispReader.Char.Name

/-! Every character is written with a name that reads back as it. The name is one code point,
which always stands for itself; or a listed name, which the lookup finds again; or `x` and the
hexadecimal digits of the character's number, which no listed name starts with and which the loose
reader of base sixteen reads back to the number. -/

namespace LispReader

namespace Numeral

/-- Each of the sixteen hexadecimal digits reads as its own value. -/
theorem digitValue_digitChar {k : Nat} (small : k < 16) : digitValue (Nat.digitChar k) = k := by
  revert k
  decide

/-- A hexadecimal digit is no underscore, sign, blank or base-marker letter, and is ASCII. -/
theorem digitChar_plain {k : Nat} (small : k < 16) :
    Nat.digitChar k ≠ '_' ∧ Nat.digitChar k ≠ '+' ∧ Nat.digitChar k ≠ '-' ∧
      isAsciiBlank (Nat.digitChar k) = false ∧ Nat.digitChar k ≠ 'x' ∧ Nat.digitChar k ≠ 'X' ∧
      (Nat.digitChar k).toNat < 0x7F := by
  revert k
  decide

/-- The digits of a number in base sixteen are each a digit of value below sixteen. -/
theorem mem_toDigits_hex {n : Nat} {c : Char} (member : c ∈ Nat.toDigits 16 n) :
    ∃ k < 16, c = Nat.digitChar k := by
  -- The last digit is the remainder; the ones before it are the digits of the quotient.
  induction n using Nat.strongRecOn with
  | ind n ih =>
  rw [Nat.toDigits_eq_if (by decide)] at member
  split at member
  · exact ⟨n, by omega, List.mem_singleton.mp member⟩
  · rcases List.mem_append.mp member with front | last
    · exact ih (n / 16) (by omega) front
    · exact ⟨n % 16, Nat.mod_lt _ (by decide), List.mem_singleton.mp last⟩

/-- Read from the left, the digits of a number in base sixteen give the number. -/
theorem foldl_toDigits_hex (n : Nat) :
    (Nat.toDigits 16 n).foldl (fun v c => v * 16 + digitValue c) 0 = n := by
  induction n using Nat.strongRecOn with
  | ind n ih =>
  rw [Nat.toDigits_eq_if (by decide)]
  split
  · simp [digitValue_digitChar ‹n < 16›]
  · rw [List.foldl_append, ih (n / 16) (by omega), List.foldl_cons, List.foldl_nil,
      digitValue_digitChar (Nat.mod_lt _ (by decide))]
    omega

/-- Digits with no underscore among them are read to the end, to the value they spell. -/
theorem digitsFrom_digits (base : Nat) :
    ∀ (cs : List Char) (acc : Nat), (∀ c ∈ cs, c ≠ '_' ∧ digitValue c < base) →
      digitsFrom base acc cs = some (cs.foldl (fun v c => v * base + digitValue c) acc, []) := by
  intro cs
  induction cs with
  | nil => intro acc _; rfl
  | cons c rest ih =>
    intro acc digits
    have ⟨plain, small⟩ := digits c (by simp)
    -- With no underscore in front, a digit of the base is taken and reading goes on.
    have step : digitsFrom base acc (c :: rest) =
        digitsFrom base (acc * base + digitValue c) rest := by
      rw [digitsFrom.eq_def]
      split
      · contradiction
      · rename_i same
        exact absurd (List.cons.inj same).1 plain
      · rename_i same
        exact absurd (List.cons.inj same).1 plain
      · rename_i same
        obtain ⟨rfl, rfl⟩ := List.cons.inj same
        simp [small]
    rw [step, ih _ fun x member => digits x (by simp [member])]
    rfl

/-- The hexadecimal digits of a number, read loosely in base sixteen, give the number. -/
theorem readAscii_toDigits_hex (n : Nat) : readAscii 16 (Nat.toDigits 16 n) = some n := by
  have digit : ∀ c ∈ Nat.toDigits 16 n, c ≠ '_' ∧ digitValue c < 16 := by
    intro c member
    obtain ⟨k, small, rfl⟩ := mem_toDigits_hex member
    exact ⟨(digitChar_plain small).1, by rw [digitValue_digitChar small]; exact small⟩
  obtain ⟨c, rest, split⟩ := List.exists_cons_of_ne_nil (Nat.toDigits_ne_nil (n := n) (b := 16))
  obtain ⟨k, small, rfl⟩ := mem_toDigits_hex (split ▸ List.mem_cons_self : c ∈ Nat.toDigits 16 n)
  have ⟨_, no_plus, no_minus, not_blank, no_x, no_X, _⟩ := digitChar_plain small
  -- No blank, sign or marker stands in front: the digits are read as they are.
  have unmarked : dropMarker 16 (Nat.digitChar k :: rest) = Nat.digitChar k :: rest := by
    unfold dropMarker
    split
    · rename_i x more same
      obtain ⟨zero, rfl⟩ := List.cons.inj same
      obtain ⟨m, small_m, digit_m⟩ := mem_toDigits_hex (split ▸ by simp : x ∈ Nat.toDigits 16 n)
      have ⟨_, _, _, _, not_x, not_X, _⟩ := digitChar_plain small_m
      simp [digit_m, not_x, not_X, zero]
    · rfl
  have read := digitsFrom_digits 16 rest (digitValue (Nat.digitChar k))
    (fun x member => digit x (split ▸ List.mem_cons_of_mem _ member))
  have value := foldl_toDigits_hex n
  rw [split, List.foldl_cons, Nat.zero_mul, Nat.zero_add] at value
  rw [digitValue_digitChar small] at read value
  rw [split]
  simp [readAscii, not_blank, no_plus, no_minus, unmarked, digitValue_digitChar small, read, value,
    small]

end Numeral

namespace CharName

/-- The code points a name holds after its first one: lower-case ASCII letters and digits. -/
def nameAlphabet : Text := Text.ofString "abcdefghijklmnopqrstuvwxyz0123456789"

/-- The number of a code point gives the code point back. -/
theorem ofNat?_val (c : CodePoint) : CodePoint.ofNat? c.val = some c := by
  simp [CodePoint.ofNat?, c.isLt]

/-- Each listed name has more than one code point, all after the first in the alphabet of names,
and the lookup finds for it the character it is listed with. -/
theorem table_names :
    ∀ entry ∈ table, 2 ≤ (Text.ofString entry.1).length ∧
      (∀ x ∈ (Text.ofString entry.1).tail, x ∈ nameAlphabet) ∧
      lookup (Text.ofString entry.1) = CodePoint.ofNat? entry.2 := by
  decide

/-- No listed name starts with `x`, whatever the case. -/
theorem lookup_x (rest : Text) : lookup (CodePoint.ofChar 'x' :: rest) = none := by
  have unlisted : ∀ entry ∈ table, (Text.ofString entry.1).head? ≠ some (CodePoint.ofChar 'x') := by
    decide
  have lowered : CodePoint.lowerAscii (CodePoint.ofChar 'x') = CodePoint.ofChar 'x' := by decide
  have missing : table.find? (fun entry => Text.ofString entry.1 =
      (CodePoint.ofChar 'x' :: rest).map CodePoint.lowerAscii) = none := by
    apply List.find?_eq_none.mpr
    intro entry listed same
    apply unlisted entry listed
    simp only [decide_eq_true_eq] at same
    simp [same, lowered]
  unfold lookup
  dsimp only
  rw [missing]
  rfl

/-- The hexadecimal digits of a number, unpadded, as code points. -/
theorem hex_one (n : Nat) : Text.hex 1 n = (Nat.toDigits 16 n).map CodePoint.ofChar := by
  have unpadded : 1 - (Nat.toDigits 16 n).length = 0 := by
    have := Nat.length_toDigits_pos (b := 16) (n := n)
    omega
  simp [Text.hex, Text.ofString, unpadded]

/-- Code points below 0x7F are read loosely as the characters they are. -/
theorem asciiForm_ofChar {cs : List Char} (ascii : ∀ c ∈ cs, c.toNat < 0x7F) :
    Numeral.asciiForm (cs.map CodePoint.ofChar) = cs := by
  unfold Numeral.asciiForm
  rw [List.map_map]
  calc _ = cs.map id := List.map_congr_left fun c member => by
          simp [CodePoint.ofChar, ascii c member]
    _ = cs := List.map_id cs

/-- The hexadecimal digits of a number read loosely in base sixteen give the number. -/
theorem readLoose_hex (n : Nat) : Numeral.readLoose 16 (Text.hex 1 n) = some n := by
  rw [Numeral.readLoose, hex_one, asciiForm_ofChar, Numeral.readAscii_toDigits_hex]
  intro c member
  obtain ⟨k, small, rfl⟩ := Numeral.mem_toDigits_hex member
  exact (Numeral.digitChar_plain small).2.2.2.2.2.2

/-- The hexadecimal digits of a number are in the alphabet of names. -/
theorem hex_alphabet (n : Nat) : ∀ x ∈ Text.hex 1 n, x ∈ nameAlphabet := by
  have digits : ∀ k, k < 16 → CodePoint.ofChar (Nat.digitChar k) ∈ nameAlphabet := by decide
  rw [hex_one]
  intro x member
  obtain ⟨c, digit, rfl⟩ := List.mem_map.mp member
  obtain ⟨k, small, rfl⟩ := Numeral.mem_toDigits_hex digit
  exact digits k small

/-- The name a character is written with reads back as the character: its first code point and
the rest resolve to it, and the rest is lower-case letters and digits. -/
theorem resolveFrom_nameOf (c : CodePoint) :
    ∃ first rest, nameOf c = first :: rest ∧ (∀ x ∈ rest, x ∈ nameAlphabet) ∧
      resolveFrom first rest = some c := by
  unfold nameOf
  split
  · -- A listed name: looked up, it gives the character it is listed with.
    rename_i entry found
    have listed := List.mem_of_find?_eq_some found
    have same : entry.2 = c.val := by simpa using List.find?_some found
    have ⟨long, letters, looked⟩ := table_names entry listed
    obtain ⟨first, rest, spelled⟩ := List.exists_cons_of_ne_nil
      (List.ne_nil_of_length_pos (by omega : 0 < (Text.ofString entry.1).length))
    rw [spelled] at long letters looked
    have more : rest ≠ [] := List.ne_nil_of_length_pos (by simp at long; omega)
    refine ⟨first, rest, spelled, letters, ?_⟩
    simp [resolveFrom, more, looked, same, ofNat?_val]
  · split
    · -- A printable character other than the space is its own name.
      exact ⟨c, [], rfl, by simp, by simp [resolveFrom]⟩
    · -- Any other character is `x` and its number in hexadecimal.
      refine ⟨CodePoint.ofChar 'x', Text.hex 1 c.val, rfl, hex_alphabet c.val, ?_⟩
      have digits : Text.hex 1 c.val ≠ [] := by simp [hex_one, Nat.toDigits_ne_nil]
      simp [resolveFrom, digits, lookup_x, readLoose_hex, ofNat?_val]

end CharName

end LispReader

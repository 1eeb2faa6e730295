import LispReader.Proofs.Reader.Faults
import LispReader.Proofs.Cursor
import LispReader.Text.Utf8

/-! Where a syntax error is reported. Its point lies within the source, and the position reported
with it, the counters of a cursor moved from the start of the source to the point, is that of the
text before the point: the line is one more than the line feeds there, the column within the line
counts the code points after the last of them, and the byte offset is the length of the text's
UTF-8 encoding, a surrogate taking three bytes like its neighbours. However the reader splits its
way to the point into forward moves, the cursor reports the same. -/

namespace LispReader

namespace Utf8

/-- A code point is encoded in as many bytes as its width says. -/
theorem length_encodePoint (c : CodePoint) : (encodePoint c).length = c.utf8Width := by
  unfold encodePoint CodePoint.utf8Width
  -- Both split the code points at the same bounds.
  by_cases one : c.val < 0x80
  · simp [one]
  by_cases two : c.val < 0x800
  · simp [one, two]
  by_cases three : c.val < 0x10000
  · simp [one, two, three]
  · simp [one, two, three]

/-- The UTF-8 size of a text is the length of its encoding. -/
theorem length_encode (t : Text) : (encode t).length = t.utf8Size := by
  induction t with
  | nil => rfl
  | cons c rest ih =>
    -- The bytes of the first code point come first.
    have split : encode (c :: rest) = encodePoint c ++ encode rest := List.flatMap_cons
    rw [split, List.length_append, length_encodePoint, ih]
    rfl

end Utf8

namespace Text

/-- The text before a point is what comes before the point's line, empty or ending with a line
feed, and the line up to the point, which holds none; the column within the line counts the
latter. -/
theorem positionAt_linePoint (source : Text) (point : Nat) :
    ∃ pre line, source.take point = pre ++ line ∧
      (pre = [] ∨ pre.getLast? = some CodePoint.newline) ∧ CodePoint.newline ∉ line ∧
      (positionAt source point).linePoint = line.length := by
  -- Read backwards, the line is what comes before the first line feed.
  obtain ⟨back, ahead, split, taken, dropped⟩ : ∃ back ahead,
      (source.take point).reverse = back ++ ahead ∧
        back = (source.take point).reverse.takeWhile (· ≠ CodePoint.newline) ∧
        ahead = (source.take point).reverse.dropWhile (· ≠ CodePoint.newline) :=
    ⟨_, _, List.takeWhile_append_dropWhile.symm, rfl, rfl⟩
  refine ⟨ahead.reverse, back.reverse, ?_, ?_, ?_, ?_⟩
  · rw [← List.reverse_append, ← split, List.reverse_reverse]
  · -- What comes before the line starts, read backwards, with the line feed that ended the line.
    cases ahead with
    | nil => exact .inl rfl
    | cons c more =>
      have stopped := List.head?_dropWhile_not (· ≠ CodePoint.newline) (source.take point).reverse
      rw [← dropped] at stopped
      simp only [List.head?_cons, decide_eq_false_iff_not, Decidable.not_not] at stopped
      exact .inr (by simp [stopped])
  · intro member
    have inside := List.all_eq_true.mp List.all_takeWhile _ (taken ▸ List.mem_reverse.mp member)
    simp at inside
  · simp [positionAt, taken]

end Text

/-- The message of an error ends with the line it stands on, whatever the name of the source. -/
theorem SyntaxError.message_line (e : SyntaxError) (pos : Position) (filename : Option Text) :
    Text.ofString ("line " ++ toString pos.line ++ ")") <:+ e.message pos filename := by
  -- With a name the line follows a comma, without one an opening bracket.
  have joined (front : String) :
      Text.ofString (front ++ ("line " ++ toString pos.line ++ ")")) =
        Text.ofString front ++ Text.ofString ("line " ++ toString pos.line ++ ")") := by
    simp [Text.ofString, String.toList_append]
  cases filename with
  | none =>
    have tail : " (line " ++ toString pos.line ++ ")" = " (" ++ ("line " ++ toString pos.line ++ ")") := by
      simp only [← String.append_assoc]
      rfl
    rw [SyntaxError.message, tail, joined]
    simp only [← List.append_assoc]
    exact List.suffix_append _ _
  | some name =>
    have tail : ", line " ++ toString pos.line ++ ")" = ", " ++ ("line " ++ toString pos.line ++ ")") := by
      simp only [← String.append_assoc]
      rfl
    rw [SyntaxError.message, tail, joined]
    simp only [← List.append_assoc]
    exact List.suffix_append _ _

/-- A cursor moved forward from the start of a source by amounts that add up to a point within
the source reports the position of that point, however the amounts split the way there. -/
theorem Cursor.position_advanceAll (source : Text) (filename : Option Text) (ns : List Int)
    {point : Nat} (within : point ≤ source.length) (forward : ∀ n ∈ ns, 0 ≤ n)
    (sum : ns.sum = point) :
    (ns.foldl Cursor.advance (Cursor.start source filename)).position =
      Text.positionAt source point := by
  obtain ⟨tracks, stops⟩ := (Cursor.start_tracks source filename).advanceAll forward
  rw [tracks.position, stops, sum]
  simp [Cursor.start, within]

/-- The position reported with an error within its source is the position of its point. -/
theorem SyntaxError.positionIn_eq {e : SyntaxError} {source : Text}
    (within : e.point ≤ source.length) : e.positionIn source = Text.positionAt source e.point :=
  Cursor.position_advanceAll source none [(e.point : Int)] within (by simp) (by simp)

namespace Dialect

/-- A syntax error stands within the source. -/
theorem fault_point_le (d : Dialect) {limit : Nat} {source : Text} {e : SyntaxError}
    (fault : (d.readWithin limit source).fault = some (.invalid e)) : e.point ≤ source.length := by
  obtain ⟨pre, post, frames, split, -, stuck⟩ := d.readFrom_fault limit ⟨0, source⟩ [] fault
  have within := stuck.point_le
  dsimp only at split within
  rw [split, List.length_append]
  omega

/-- A syntax error stands within the source, and the position reported with it is that of the
text before it: the line is one more than the line feeds there, the column within the line counts
the code points after the last of them, and the byte offset is the length of the text's UTF-8
encoding. Every cursor that moves forward from the start of the source to the error, in whatever
steps, reports that position; and the message, whatever the name of the source, ends with its
line. -/
theorem read_fault_position (d : Dialect) (source : Text) {e : SyntaxError}
    (fault : (d.read source).fault = some (.invalid e)) (filename : Option Text) :
    e.point ≤ source.length ∧
      (e.positionIn source).line = (source.take e.point).count CodePoint.newline + 1 ∧
      (∃ pre line, source.take e.point = pre ++ line ∧
        (pre = [] ∨ pre.getLast? = some CodePoint.newline) ∧ CodePoint.newline ∉ line ∧
        (e.positionIn source).linePoint = line.length) ∧
      (e.positionIn source).column = (Utf8.encode (source.take e.point)).length ∧
      (∀ ns : List Int, (∀ n ∈ ns, 0 ≤ n) → ns.sum = e.point →
        (ns.foldl Cursor.advance (Cursor.start source filename)).position = e.positionIn source) ∧
      Text.ofString ("line " ++ toString (e.positionIn source).line ++ ")") <:+
        e.message (e.positionIn source) filename := by
  have within := d.fault_point_le fault
  -- The cursor moved to the error reports the position of the error's point.
  rw [SyntaxError.positionIn_eq within]
  exact ⟨within, rfl, Text.positionAt_linePoint source e.point, (Utf8.length_encode _).symm,
    fun ns forward sum => Cursor.position_advanceAll source filename ns within forward sum,
    e.message_line _ filename⟩

/-- The closer that mismatches a list on the second line of a source is reported on that line,
at its start, two bytes into the source, whether the cursor got there in one move or two. -/
theorem list_vector_closer_position :
    (standard.read (Text.ofString "(\n]")).fault =
        some (.invalid ⟨.mismatchedDelimiter, 2, SeqKind.list.expected standard⟩) ∧
      2 ≤ (Text.ofString "(\n]").length ∧
      (SyntaxError.positionIn ⟨.mismatchedDelimiter, 2, SeqKind.list.expected standard⟩
          (Text.ofString "(\n]")).line =
        ((Text.ofString "(\n]").take 2).count CodePoint.newline + 1 ∧
      (∃ pre line, (Text.ofString "(\n]").take 2 = pre ++ line ∧
        (pre = [] ∨ pre.getLast? = some CodePoint.newline) ∧ CodePoint.newline ∉ line ∧
        (SyntaxError.positionIn ⟨.mismatchedDelimiter, 2, SeqKind.list.expected standard⟩
          (Text.ofString "(\n]")).linePoint = line.length) ∧
      (SyntaxError.positionIn ⟨.mismatchedDelimiter, 2, SeqKind.list.expected standard⟩
          (Text.ofString "(\n]")).column =
        (Utf8.encode ((Text.ofString "(\n]").take 2)).length ∧
      (∀ ns : List Int, (∀ n ∈ ns, 0 ≤ n) → ns.sum = (2 : Nat) →
        (ns.foldl Cursor.advance
            (Cursor.start (Text.ofString "(\n]") (some (Text.ofString "lib/core.lisp")))).position =
          SyntaxError.positionIn ⟨.mismatchedDelimiter, 2, SeqKind.list.expected standard⟩
            (Text.ofString "(\n]")) ∧
      Text.ofString ("line " ++ toString (SyntaxError.positionIn
          ⟨.mismatchedDelimiter, 2, SeqKind.list.expected standard⟩ (Text.ofString "(\n]")).line ++
          ")") <:+
        SyntaxError.message ⟨.mismatchedDelimiter, 2, SeqKind.list.expected standard⟩
          (SyntaxError.positionIn ⟨.mismatchedDelimiter, 2, SeqKind.list.expected standard⟩
            (Text.ofString "(\n]"))
          (some (Text.ofString "lib/core.lisp")) :=
  ⟨read_list_vector_closer,
    read_fault_position standard _ read_list_vector_closer (some (Text.ofString "lib/core.lisp"))⟩

end Dialect

end LispReader

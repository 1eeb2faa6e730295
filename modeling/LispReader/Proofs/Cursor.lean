import LispReader.Cursor
import LispReader.Reader.Error
import Mathlib

/-! Cursors keep their counters exact. Moved forward from the start of a source by any amounts,
a cursor stands at the sum of the amounts or at the end, whichever comes first; its line is one
more than the line feeds before the point and its column counts the code points after the last of
them, as the position of the point in the source says; and it looks at the code points of the
source. The counters are never recomputed: each move adds the line feeds it passed over, and
restarts the column after the last of them or moves it on by the code points passed over. -/

namespace LispReader

namespace Text

/-- The column at the end of a text, the code points after its last line feed. -/
def endColumn (t : Text) : Nat :=
  (t.reverse.takeWhile (· ≠ CodePoint.newline)).length

/-- The column of a point is the column at the end of the text before it. -/
theorem positionAt_linePoint_eq (source : Text) (point : Nat) :
    (positionAt source point).linePoint = endColumn (source.take point) :=
  rfl

/-- Read backwards, a text that holds no line feed has none at any place. -/
theorem ne_newline_of_not_mem {t : Text} (none_in : CodePoint.newline ∉ t) :
    ∀ c ∈ t.reverse, decide (c ≠ CodePoint.newline) = true :=
  fun _ member => decide_eq_true fun same => none_in (same ▸ List.mem_reverse.mp member)

/-- The column at the end of a text that holds no line feed is its length. -/
theorem endColumn_of_not_mem {t : Text} (none_in : CodePoint.newline ∉ t) :
    endColumn t = t.length := by
  unfold endColumn
  rw [List.takeWhile_eq_self_iff.mpr (ne_newline_of_not_mem none_in), List.length_reverse]

/-- The column at the end of a text that holds a line feed falls short of its length. -/
theorem endColumn_lt_length {t : Text} (some_in : CodePoint.newline ∈ t) :
    endColumn t < t.length := by
  unfold endColumn
  have flip : t.length = t.reverse.length := List.length_reverse.symm
  rw [flip]
  have taken := List.takeWhile_prefix (· ≠ CodePoint.newline) (l := t.reverse)
  refine Nat.lt_of_le_of_ne taken.length_le fun whole => ?_
  -- Taking the whole text would take its line feed too.
  have kept := List.takeWhile_eq_self_iff.mp (taken.eq_of_length whole)
  simpa using kept _ (List.mem_reverse.mpr some_in)

/-- The column at the end of two texts is the second's when it holds a line feed, and otherwise
runs on from the first's. -/
theorem endColumn_append (a b : Text) :
    endColumn (a ++ b) =
      if CodePoint.newline ∈ b then endColumn b else b.length + endColumn a := by
  split
  · -- The line feed in the second text stops the count before the first text is reached.
    rename_i some_in
    have short := endColumn_lt_length some_in
    unfold endColumn at short ⊢
    rw [List.reverse_append, List.takeWhile_append, if_neg (by simpa using Nat.ne_of_lt short)]
  · rename_i none_in
    unfold endColumn
    rw [List.reverse_append, List.takeWhile_append_of_pos (ne_newline_of_not_mem none_in),
      List.length_append, List.length_reverse]

/-- The first line feed of a text holding one stands after the code points before it. -/
theorem findIdx?_newline {t : Text} (some_in : CodePoint.newline ∈ t) :
    t.findIdx? (· = CodePoint.newline) = some (t.takeWhile (· ≠ CodePoint.newline)).length := by
  induction t with
  | nil => cases some_in
  | cons c rest ih =>
    rw [List.findIdx?_cons, List.takeWhile_cons]
    by_cases first : c = CodePoint.newline
    · simp [first]
    · -- The line feed is further on, one place past where it stands in the rest.
      have later : CodePoint.newline ∈ rest := by
        rcases List.mem_cons.mp some_in with same | later
        · exact absurd same.symm first
        · exact later
      simp [first, ih later]

end Text

namespace Cursor

/-- A bound within the source is itself. -/
theorem bound_within {length : Nat} {i : Int} (nonneg : 0 ≤ i) (within : i ≤ length) :
    bound length i = i.toNat := by
  unfold bound
  rw [if_neg (by omega)]
  omega

/-- The slice between two points of the source, in order. -/
theorem slice_within {source : Text} {lo hi : Int} (nonneg : 0 ≤ lo) (ordered : lo ≤ hi)
    (within : hi ≤ source.length) :
    slice source lo hi = (source.take hi.toNat).drop lo.toNat := by
  rw [slice, bound_within nonneg (by omega), bound_within (by omega) within]

/-- The slice between two points of the source, in order, is as long as they are apart. -/
theorem length_slice {source : Text} {lo hi : Int} (nonneg : 0 ≤ lo) (ordered : lo ≤ hi)
    (within : hi ≤ source.length) : ((slice source lo hi).length : Int) = hi - lo := by
  rw [slice_within nonneg ordered within, List.length_drop, List.length_take]
  omega

/-- The text before a later point is the text before an earlier one and the slice between. -/
theorem take_eq_append_slice {source : Text} {lo hi : Int} (nonneg : 0 ≤ lo) (ordered : lo ≤ hi)
    (within : hi ≤ source.length) :
    source.take hi.toNat = source.take lo.toNat ++ slice source lo hi := by
  -- The part before `lo` of the text before `hi` is the text before `lo`.
  have whole := List.take_append_drop lo.toNat (source.take hi.toNat)
  rw [List.take_take, Nat.min_eq_left (by omega)] at whole
  rw [slice_within nonneg ordered within, whole]

/-- Just past the last line feed of a slice that holds one stands the column of the slice's
end. -/
theorem lastNewline_add_one {source : Text} {lo hi : Int} (nonneg : 0 ≤ lo) (ordered : lo ≤ hi)
    (within : hi ≤ source.length) (some_in : CodePoint.newline ∈ slice source lo hi) :
    lastNewline source lo hi + 1 = hi - Text.endColumn (slice source lo hi) := by
  have length_slice := length_slice nonneg ordered within
  have short := Text.endColumn_lt_length some_in
  -- Read backwards, the last line feed is the first, after the column's code points.
  have found := Text.findIdx?_newline (List.mem_reverse.mpr some_in)
  unfold Text.endColumn at short ⊢
  simp only [lastNewline, found, bound_within nonneg (Int.le_trans ordered within)]
  omega

/-- A slice that holds no line feed has none to find. -/
theorem lastNewline_of_not_mem {source : Text} {lo hi : Int}
    (none_in : CodePoint.newline ∉ slice source lo hi) : lastNewline source lo hi = -1 := by
  have absent : (slice source lo hi).reverse.findIdx? (· = CodePoint.newline) = none :=
    List.findIdx?_eq_none_iff.mpr fun c member => by
      have : c ≠ CodePoint.newline := fun same => none_in (List.mem_reverse.mp (same ▸ member))
      simpa using this
  simp only [lastNewline, absent]

/-- The column of a point in the source, counted back to the last line feed before it. -/
theorem endColumn_take {source : Text} {point : Int} (nonneg : 0 ≤ point)
    (within : point ≤ source.length) :
    (Text.endColumn (source.take point.toNat) : Int) = point - (lastNewline source 0 point + 1) := by
  have before : source.take point.toNat = slice source 0 point := by
    simpa using take_eq_append_slice (Int.le_refl 0) nonneg within
  by_cases some_in : CodePoint.newline ∈ slice source 0 point
  · rw [lastNewline_add_one (Int.le_refl 0) nonneg within some_in, before]
    omega
  · rw [lastNewline_of_not_mem some_in, before, Text.endColumn_of_not_mem some_in,
      ← before, List.length_take]
    omega

/-- A cursor tracks a source when it reads that source, its point lies within it, and its line and
column are those of the point. -/
structure Tracks (source : Text) (c : Cursor) : Prop where
  /-- The cursor reads the source. -/
  source_eq : c.source = source
  /-- The point is not before the start. -/
  nonneg : 0 ≤ c.point
  /-- The point is not past the end. -/
  within : c.point ≤ source.length
  /-- The line is the point's. -/
  line_eq : c.line = (Text.positionAt source c.point.toNat).line
  /-- The column within the line is the point's. -/
  linePoint_eq : c.linePoint = (Text.positionAt source c.point.toNat).linePoint

/-- A cursor at the start of a source tracks it. -/
theorem start_tracks (source : Text) (filename : Option Text) :
    (start source filename).Tracks source where
  source_eq := rfl
  nonneg := Int.le_refl 0
  within := Int.natCast_nonneg _
  line_eq := by simp [start, Text.positionAt]
  linePoint_eq := by simp [start, Text.positionAt]

/-- Moving keeps the source. -/
@[simp] theorem advance_source (c : Cursor) (n : Int) : (c.advance n).source = c.source := by
  simp only [advance]
  split <;> rfl

/-- Moving puts the point where the move stops, at the end at the latest. -/
@[simp] theorem advance_point (c : Cursor) (n : Int) :
    (c.advance n).point = min (c.point + n) c.source.length := by
  simp only [advance]
  split <;> rfl

/-- A move past line feeds moves the line on by their number and restarts the column after the
last of them. -/
theorem advance_of_mem (c : Cursor) (n : Int)
    (passed : CodePoint.newline ∈ slice c.source c.point (min (c.point + n) c.source.length)) :
    c.advance n = { c with
      line := c.line + (slice c.source c.point (min (c.point + n) c.source.length)).count
        CodePoint.newline
      linePoint := min (c.point + n) c.source.length -
        (lastNewline c.source c.point (min (c.point + n) c.source.length) + 1)
      point := min (c.point + n) c.source.length } := by
  simp only [advance]
  rw [if_pos (List.count_pos_iff.mpr passed)]

/-- A move past no line feed moves the column on by the code points passed over. -/
theorem advance_of_not_mem (c : Cursor) (n : Int)
    (passed : CodePoint.newline ∉ slice c.source c.point (min (c.point + n) c.source.length)) :
    c.advance n = { c with
      linePoint := c.linePoint + (min (c.point + n) c.source.length - c.point)
      point := min (c.point + n) c.source.length } := by
  simp only [advance]
  rw [if_neg (fun counted => passed (List.count_pos_iff.mp counted))]

/-- Moving forward from a point the cursor tracks lands on a point it tracks: the line feeds passed
over move the line on, and the column restarts after the last of them or, when there is none, moves
on by the code points passed over. -/
theorem Tracks.advance {source : Text} {c : Cursor} (tracks : c.Tracks source) {n : Int}
    (forward : 0 ≤ n) : (c.advance n).Tracks source := by
  obtain ⟨same, nonneg, within, line_eq, linePoint_eq⟩ := tracks
  subst same
  have ordered : c.point ≤ min (c.point + n) c.source.length := by omega
  have stop_within : min (c.point + n) c.source.length ≤ c.source.length := Int.min_le_right _ _
  -- The text before the new point is the text before the old one and the slice passed over.
  have before := take_eq_append_slice nonneg ordered stop_within
  have length_slice := length_slice nonneg ordered stop_within
  simp only [Text.positionAt] at line_eq
  rw [Text.positionAt_linePoint_eq] at linePoint_eq
  refine ⟨advance_source c n, by simp; omega, by simp [stop_within], ?_, ?_⟩
  · -- The line moves on by the line feeds passed over, none or some.
    simp only [advance_point, Text.positionAt, before, List.count_append]
    by_cases passed : CodePoint.newline ∈ slice c.source c.point (min (c.point + n) c.source.length)
    · rw [advance_of_mem c n passed, line_eq]
      dsimp only
      omega
    · rw [advance_of_not_mem c n passed, List.count_eq_zero.mpr passed, line_eq]
  · -- The column restarts after the last line feed passed over, or runs on.
    simp only [advance_point, Text.positionAt_linePoint_eq, before, Text.endColumn_append]
    by_cases passed : CodePoint.newline ∈ slice c.source c.point (min (c.point + n) c.source.length)
    · rw [advance_of_mem c n passed, if_pos passed]
      dsimp only
      rw [lastNewline_add_one nonneg ordered stop_within passed]
      omega
    · rw [advance_of_not_mem c n passed, if_neg passed, linePoint_eq]
      dsimp only
      omega

/-- Moving forward by each amount in turn keeps the cursor tracking its source, and puts the point
at the old point and the sum of the amounts, or at the end. -/
theorem Tracks.advanceAll {source : Text} {c : Cursor} (tracks : c.Tracks source) {ns : List Int}
    (forward : ∀ n ∈ ns, 0 ≤ n) :
    (ns.foldl Cursor.advance c).Tracks source ∧
      (ns.foldl Cursor.advance c).point = min (c.point + ns.sum) source.length := by
  -- Induction on the amounts, from any cursor that tracks the source.
  induction ns generalizing c with
  | nil => simpa using ⟨tracks, tracks.within⟩
  | cons n rest ih =>
    have ahead : ∀ m ∈ rest, 0 ≤ m := fun m member => forward m (List.mem_cons_of_mem _ member)
    obtain ⟨after, point⟩ := ih (tracks.advance (forward n List.mem_cons_self)) ahead
    refine ⟨after, ?_⟩
    -- The later amounts only move further on, so one clamp at the end is as good as two.
    have later := List.sum_nonneg ahead
    rw [List.foldl_cons, point, advance_point, tracks.source_eq, List.sum_cons]
    omega

/-- A cursor that tracks its source is at the end exactly when its point is the source's length. -/
theorem Tracks.atEnd_iff {source : Text} {c : Cursor} (tracks : c.Tracks source) :
    c.atEnd = true ↔ c.point = source.length := by
  have within := tracks.within
  simp only [atEnd, tracks.source_eq, decide_eq_true_iff]
  omega

/-- A cursor that tracks its source looks ahead at the source's code points, and past its end at
nothing. -/
theorem Tracks.peek {source : Text} {c : Cursor} (tracks : c.Tracks source) {o : Int}
    (ahead : 0 ≤ o) : c.peek o = .ok source[(c.point + o).toNat]? := by
  have nonneg := tracks.nonneg
  simp only [Cursor.peek, tracks.source_eq]
  rw [if_neg (by omega)]
  split
  · -- A place ahead of the point is never counted from the end.
    rw [if_neg (by omega), if_neg (by omega)]
  · rw [List.getElem?_eq_none (by omega)]

/-- The column of a cursor that tracks its source is the point less the place just past the last
line feed before it. -/
theorem Tracks.linePoint_eq_lastNewline {source : Text} {c : Cursor} (tracks : c.Tracks source) :
    c.linePoint = c.point - (lastNewline source 0 c.point + 1) := by
  rw [tracks.linePoint_eq, Text.positionAt_linePoint_eq, endColumn_take tracks.nonneg tracks.within]

/-- A cursor that tracks its source reports the position of its point there. -/
theorem Tracks.position {source : Text} {c : Cursor} (tracks : c.Tracks source) :
    c.position = Text.positionAt source c.point.toNat := by
  have bytes : c.byteOffset = (Text.positionAt source c.point.toNat).column := by
    rw [byteOffset, tracks.source_eq, bound_within tracks.nonneg tracks.within]
    rfl
  simp only [Cursor.position, tracks.line_eq, tracks.linePoint_eq, bytes, Int.toNat_natCast]

/-- A cursor moved forward by any amounts from the start of a source stands at their sum or at the
end, whichever comes first; its line is one more than the line feeds before the point, its column
the point less the place just past the last of them; it is at the end exactly when its point is,
and it looks ahead at the source's code points. -/
theorem advance_keeps_counters (source : Text) (filename : Option Text) (ns : List Int)
    (forward : ∀ n ∈ ns, 0 ≤ n) :
    let c := ns.foldl Cursor.advance (start source filename)
    c.point = min ns.sum source.length ∧
      c.line = (source.take c.point.toNat).count CodePoint.newline + 1 ∧
      c.linePoint = c.point - (lastNewline source 0 c.point + 1) ∧
      (c.atEnd = true ↔ c.point = source.length) ∧
      ∀ o, 0 ≤ o → c.peek o = .ok source[(c.point + o).toNat]? := by
  obtain ⟨tracks, point⟩ := (start_tracks source filename).advanceAll forward
  dsimp only
  refine ⟨by simpa [start] using point, ?_, tracks.linePoint_eq_lastNewline, tracks.atEnd_iff,
    fun o ahead => tracks.peek ahead⟩
  rw [tracks.line_eq]
  simp [Text.positionAt]

/-- The walk of the cursor over two lines, a blank line and a last line with a two-byte code point:
two code points, one, four, one and then far past the end. -/
theorem cursor_walk_counters :
    (∀ n ∈ ([2, 1, 4, 1, 100] : List Int), 0 ≤ n) ∧
      let c := ([2, 1, 4, 1, 100] : List Int).foldl Cursor.advance
        (start (Text.ofString "ab\ncd\n\nλx") (some (Text.ofString "cursor.scm")))
      c.point = min ([2, 1, 4, 1, 100] : List Int).sum (Text.ofString "ab\ncd\n\nλx").length ∧
        c.line = ((Text.ofString "ab\ncd\n\nλx").take c.point.toNat).count CodePoint.newline + 1 ∧
        c.linePoint = c.point - (lastNewline (Text.ofString "ab\ncd\n\nλx") 0 c.point + 1) ∧
        (c.atEnd = true ↔ c.point = (Text.ofString "ab\ncd\n\nλx").length) ∧
        ∀ o, 0 ≤ o → c.peek o = .ok (Text.ofString "ab\ncd\n\nλx")[(c.point + o).toNat]? :=
  ⟨by decide, advance_keeps_counters _ _ _ (by decide)⟩

end Cursor

end LispReader

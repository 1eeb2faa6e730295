import LispReader.Form.Basic
import LispReader.Reader.Error

/-! The reader's state while it reads a source: the position reached and the code points left.
Each reading step takes at least one code point, which is what makes reading end. -/

namespace LispReader

/-- The position reached in a source, and the code points left after it. -/
structure Scan where
  /-- Code points read so far. -/
  point : Nat
  /-- Code points not yet read. -/
  rest : Text

namespace Scan

/-- The scan after `n` more code points, or at the end when fewer are left. -/
def advance (s : Scan) (n : Nat) : Scan :=
  ⟨s.point + min n s.rest.length, s.rest.drop n⟩

/-- The position where the source ends. -/
def stop (s : Scan) : Nat :=
  s.point + s.rest.length

/-- Advancing drops code points from what is left. -/
@[simp] theorem advance_rest_length (s : Scan) (n : Nat) :
    (s.advance n).rest.length = s.rest.length - n := by
  simp [advance]

/-- Advancing past at least one code point of a scan with some left shortens what is left. -/
theorem advance_shorter (s : Scan) {n : Nat} (taken : 0 < n) (some_left : s.rest ≠ []) :
    (s.advance n).rest.length < s.rest.length := by
  have : 0 < s.rest.length := List.length_pos_iff.mpr some_left
  simp only [advance_rest_length]
  omega

end Scan

/-- A form read from the front of a scan, with the scan after it, which has fewer code points
left. -/
structure Step (s : Scan) where
  /-- The form read. -/
  form : Form Span
  /-- The scan after the form. -/
  next : Scan
  /-- Reading the form took at least one code point. -/
  shorter : next.rest.length < s.rest.length

/-- A step from a later scan is a step from an earlier one with at least as much left. -/
def Step.widen {s t : Scan} (step : Step t) (le : t.rest.length ≤ s.rest.length) : Step s :=
  ⟨step.form, step.next, Nat.lt_of_lt_of_le step.shorter le⟩

/-- Why reading stops before the end of a source. -/
inductive Fault where
  /-- A syntax error: the source is no valid text of the dialect. -/
  | invalid (e : SyntaxError)
  /-- Forms nested past the nesting limit. -/
  | tooDeep

end LispReader

import LispReader.Form.Basic

/-! Counting distinct forms. Atoms can be gathered into a set under sameness; lists and vectors
cannot, since their parts may change, so gathering one of them is refused. -/

namespace LispReader

namespace Form

/-- A form that cannot be gathered into a set: a list or a vector. -/
inductive Unhashable where
  /-- A list. -/
  | list
  /-- A vector. -/
  | vector

/-- The words for a refused form. -/
def Unhashable.message : Unhashable → String
  | .list => "unhashable type: 'List'"
  | .vector => "unhashable type: 'Vector'"

/-- Adds forms to representatives of distinct classes, refusing the first list or vector. -/
def gather (kept : List (Form α)) : List (Form α) → Except Unhashable (List (Form α))
  | [] => .ok kept
  | .list _ _ :: _ => .error .list
  | .vector _ _ :: _ => .error .vector
  | f :: rest => gather (if kept.any (·.sameAs f) then kept else f :: kept) rest

/-- How many forms are not the same as any earlier one, or the first list or vector. -/
def distinctCount (forms : List (Form α)) : Except Unhashable Nat :=
  (gather [] forms).map List.length

end Form

end LispReader

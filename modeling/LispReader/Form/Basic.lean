import LispReader.Numeral.Lexeme

/-! Forms: what the reader builds. An atom is a symbol, a number, a string, a boolean, nil or a
character; a list and a vector hold forms. Each form carries an annotation, the span it was read
from for read forms. Two forms are the same when they have the same shape and the same atoms,
whatever their annotations and whatever digits a number was written with. -/

namespace LispReader

/-- A number: its value, and the text it was read from when it was read. -/
structure Number where
  /-- The value. -/
  value : Numeral
  /-- The text the number was read from, none for a number that was not read. -/
  lexeme : Option Text

/-- An atom of a form. -/
inductive Atom where
  /-- A symbol, named by its text. -/
  | symbol (name : Text)
  /-- A number. -/
  | number (value : Number)
  /-- A string. -/
  | string (value : Text)
  /-- A boolean. -/
  | bool (value : Bool)
  /-- The empty value. -/
  | nil
  /-- A character, as the text it stands for: one code point when it is read, any text when a
  form is built otherwise. -/
  | char (value : Text)

/-- A form, each part of it annotated with an `α`. -/
inductive Form (α : Type) where
  /-- An atom. -/
  | atom (value : Atom) (ann : α)
  /-- A list of forms. -/
  | list (items : List (Form α)) (ann : α)
  /-- A vector of forms. -/
  | vector (items : List (Form α)) (ann : α)

/-- Where a form was read: the positions of its first code point and just past its last. -/
structure Span where
  /-- Position of the first code point. -/
  start : Nat
  /-- Position just past the last code point. -/
  stop : Nat

namespace Numeral

/-- Two numbers are the same when both are integers or both floats, of equal value; the floats
compare as binary64 values do, so the two zeros are the same. -/
def sameAs : Numeral → Numeral → Bool
  | .int a, .int b => a == b
  | .float a, .float b => a == b
  | _, _ => false

end Numeral

namespace Atom

/-- Two atoms are the same when they are of one kind and of equal value. -/
def sameAs : Atom → Atom → Bool
  | .symbol a, .symbol b => a == b
  | .number a, .number b => a.value.sameAs b.value
  | .string a, .string b => a == b
  | .bool a, .bool b => a == b
  | .nil, .nil => true
  | .char a, .char b => a == b
  | _, _ => false

end Atom

namespace Form

/-- The annotation of a form. -/
def ann : Form α → α
  | .atom _ a | .list _ a | .vector _ a => a

mutual
/-- Two forms are the same when they have the same shape and the same atoms. -/
def sameAs : Form α → Form β → Bool
  | .atom a _, .atom b _ => a.sameAs b
  | .list xs _, .list ys _ => allSame xs ys
  | .vector xs _, .vector ys _ => allSame xs ys
  | _, _ => false

/-- Two lists of forms are the same when they have the same length and the same forms. -/
def allSame : List (Form α) → List (Form β) → Bool
  | [], [] => true
  | x :: xs, y :: ys => sameAs x y && allSame xs ys
  | _, _ => false
end

/-- The symbol of the given name, unannotated. -/
def symbol (name : String) (ann : α) : Form α :=
  .atom (.symbol (Text.ofString name)) ann

end Form

end LispReader

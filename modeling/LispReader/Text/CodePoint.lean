/-! Code points, and texts as lists of them. A source handed to the reader may hold a lone
surrogate, which no `Char` can, so texts are lists of code points rather than strings. -/

namespace LispReader

/-- A code point: any number below 0x110000, surrogates included. -/
structure CodePoint where
  /-- The number of the code point. -/
  val : Nat
  /-- Code points stop below 0x110000. -/
  isLt : val < 0x110000
  deriving DecidableEq

/-- A text is the list of its code points. -/
abbrev Text := List CodePoint

/-- Every character is a code point below 0x110000. -/
theorem Char.toNat_lt_limit (c : Char) : c.toNat < 0x110000 := by
  -- A scalar value lies below the surrogates or above them and below the limit.
  have valid := c.valid
  unfold Char.toNat
  rcases valid with below | ⟨_, below⟩
  · have : c.val.toNat < 0xd800 := below
    omega
  · have : c.val.toNat < 0x110000 := below
    omega

namespace CodePoint

/-- The code point with the given number, or none past the last one. -/
def ofNat? (n : Nat) : Option CodePoint :=
  if h : n < 0x110000 then some ⟨n, h⟩ else none

/-- The code point of a character. -/
def ofChar (c : Char) : CodePoint :=
  ⟨c.toNat, Char.toNat_lt_limit c⟩

/-- The line feed, which ends lines and comments. -/
def newline : CodePoint := ofChar '\n'

/-- Whether the code point is a surrogate, half of a pair in sixteen-bit units. -/
def isSurrogate (c : CodePoint) : Bool :=
  0xD800 ≤ c.val && c.val ≤ 0xDFFF

/-- Whether the code point is one of the 128 ASCII characters. -/
def isAscii (c : CodePoint) : Bool :=
  c.val < 0x80

/-- Bytes the code point takes in UTF-8; a surrogate takes three, like its neighbours. -/
def utf8Width (c : CodePoint) : Nat :=
  if c.val < 0x80 then 1 else if c.val < 0x800 then 2 else if c.val < 0x10000 then 3 else 4

/-- The ASCII letters A to Z and the Kelvin sign lowered to a to z and k; every other code point,
whose lower case is never an ASCII letter, kept as it is. Two names agree after this exactly when
their lower cases agree on ASCII. -/
def lowerAscii (c : CodePoint) : CodePoint :=
  if upper : 0x41 ≤ c.val ∧ c.val ≤ 0x5A then ⟨c.val + 32, by omega⟩
  else if c.val = 0x212A then ofChar 'k'
  else c

end CodePoint

namespace Text

/-- The code points of a string, in order. -/
def ofString (s : String) : Text :=
  s.toList.map CodePoint.ofChar

/-- Bytes the text takes in UTF-8, surrogates three each. -/
def utf8Size : Text → Nat
  | [] => 0
  | c :: rest => c.utf8Width + utf8Size rest

/-- Size of a joined text is the sum of the sizes. -/
@[simp] theorem utf8Size_append (a b : Text) : utf8Size (a ++ b) = utf8Size a + utf8Size b := by
  -- Each code point of the first text adds its width on both sides.
  induction a with
  | nil => simp [utf8Size]
  | cons c rest ih => simp [utf8Size, ih, Nat.add_assoc]

/-- The decimal digits of a natural number. -/
def ofNat (n : Nat) : Text :=
  ofString (toString n)

/-- The decimal digits of an integer, behind a minus sign when it is negative. -/
def ofInt (n : Int) : Text :=
  ofString (toString n)

/-- The lower-case hexadecimal digits of a number, padded with zeros to at least `width`. -/
def hex (width n : Nat) : Text :=
  let digits := Nat.toDigits 16 n
  ofString (String.ofList (List.replicate (width - digits.length) '0' ++ digits))

/-- The texts joined with a separator between each two. -/
def joinWith (sep : Text) : List Text → Text
  | [] => []
  | [t] => t
  | t :: rest => t ++ sep ++ joinWith sep rest

/-- The part after the last slash, or the whole text when it has none. -/
def afterLastSlash (t : Text) : Text :=
  (t.reverse.takeWhile (· ≠ CodePoint.ofChar '/')).reverse

end Text

end LispReader

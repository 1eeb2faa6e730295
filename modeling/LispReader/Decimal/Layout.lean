import LispReader.Decimal.Shortest
import LispReader.Text.CodePoint

/-! Writing a binary64 value from its shortest decimal. A layout fixes where positional notation
gives way to an exponent, whether an integral value keeps a point and a zero, how the exponent is
marked, signed and padded, and how NaN and infinity are spelled. -/

namespace LispReader

namespace Decimal

/-- How a float's shortest digits are laid out. -/
structure Layout where
  /-- Least decimal exponent of the leading digit that is written positionally. -/
  positionalFrom : Int
  /-- Greatest decimal exponent of the leading digit that is written positionally. -/
  positionalTo : Int
  /-- Whether an integral value written positionally ends in a point and a zero. -/
  pointZero : Bool
  /-- The mark between digits and exponent. -/
  mark : String
  /-- Whether a non-negative exponent carries a plus sign. -/
  plusSign : Bool
  /-- Least number of exponent digits, zeros padding on the left. -/
  exponentDigits : Nat
  /-- The spelling of a NaN. -/
  nan : String
  /-- The spelling of infinity, behind a minus sign when negative. -/
  infinity : String

/-- `count` zeros. -/
private def zeros (count : Nat) : Text :=
  List.replicate count (CodePoint.ofChar '0')

/-- The digits of a decimal as text, laid out positionally or with an exponent. -/
def Layout.digitsText (l : Layout) (d : Dec) : Text :=
  let digits := Text.ofNat d.digits
  let n := digits.length
  -- The point stands after `point` digits; the leading digit has exponent `point - 1`.
  let point : Int := n + d.exp
  let lead := point - 1
  if l.positionalFrom ≤ lead ∧ lead ≤ l.positionalTo then
    if point ≤ 0 then
      Text.ofString "0." ++ zeros (-point).toNat ++ digits
    else if n ≤ point.toNat then
      digits ++ zeros (point.toNat - n) ++ (if l.pointZero then Text.ofString ".0" else [])
    else
      digits.take point.toNat ++ [CodePoint.ofChar '.'] ++ digits.drop point.toNat
  else
    let mantissa := match digits with
      | first :: [] => [first]
      | first :: more => first :: CodePoint.ofChar '.' :: more
      | [] => []
    let sign : Text :=
      if lead < 0 then Text.ofString "-" else if l.plusSign then Text.ofString "+" else []
    let magnitude := Text.ofNat lead.natAbs
    mantissa ++ Text.ofString l.mark ++ sign ++ zeros (l.exponentDigits - magnitude.length) ++
      magnitude

/-- A binary64 value in the layout: its sign, then its shortest digits. -/
def Layout.render (l : Layout) (x : Float) : Text :=
  let bits := x.toBits
  let negative := bits >>> 63 == 1
  let sign : Text := if negative then Text.ofString "-" else []
  if x.isNaN then Text.ofString l.nan
  else if x.isInf then sign ++ Text.ofString l.infinity
  else
    let magnitude := Binary.ofBits bits
    if magnitude.m = 0 then sign ++ l.digitsText ⟨0, 0⟩
    else sign ++ l.digitsText magnitude.shortest

end Decimal

end LispReader

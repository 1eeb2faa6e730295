import Mathlib
import LispReader.Reader.Atom

/-! The numbers the reader reads are never NaN. A float is written with digits, and rounding
digits gives a zero, a finite value or an infinity, never NaN; packing such a value into bits and
unpacking it again keeps it clear of NaN, since only an all-ones exponent field unpacks to NaN.
So every number read is the same as itself. -/

namespace LispReader

namespace Binary64

open Float.Model (UnpackedFloat Format)
open Float.Model.UnpackedFloat

/-- Only bits whose exponent field is all ones unpack to NaN. -/
theorem exponent_of_unpack_nan {b : BitVec Format.binary64.numBits}
    (nan : unpack Format.binary64 b = .notANumber) : unpackExponent b = -1#_ := by
  unfold unpack at nan
  simp only at nan
  split at nan
  · assumption
  · -- Past the all-ones test, unpacking gives a zero or a finite value.
    split at nan
    · split at nan <;> cases nan
    · cases nan

/-- An infinity packs to bits that unpack to an infinity. -/
theorem unpack_packedInfinity_ne_nan (s : Sign) :
    unpack Format.binary64 (packedInfinity Format.binary64 s) ≠ .notANumber := by
  simp [packedInfinity, unpack]

/-- Packing a value other than NaN and unpacking it gives no NaN. -/
theorem unpack_pack_ne_nan {u : UnpackedFloat} (u_ne : u ≠ .notANumber) :
    unpack Format.binary64 (pack Format.binary64 u) ≠ .notANumber := by
  intro nan
  cases u with
  | notANumber => exact u_ne rfl
  | infinity s => exact unpack_packedInfinity_ne_nan s nan
  | zero s =>
    have all_ones := exponent_of_unpack_nan nan
    simp only [pack, packedZero, unpackExponent_packComponents] at all_ones
    exact absurd all_ones (by decide)
  | finite s m e positive =>
    unfold pack at nan
    simp only at nan
    split at nan
    · -- Too large: packed as an infinity.
      exact unpack_packedInfinity_ne_nan s nan
    · rename_i fits
      split at nan
      · -- A normal value's exponent field is below all ones.
        have all_ones := exponent_of_unpack_nan nan
        rw [unpackExponent_packComponents, BitVec.neg_one_eq_allOnes, ← BitVec.toNat_inj,
          BitVec.toNat_ofNat, BitVec.toNat_allOnes] at all_ones
        simp only [show 2 ^ Format.binary64.exponentBits = 2048 from rfl] at fits all_ones
        omega
      · -- A subnormal value's exponent field is zero.
        have all_ones := exponent_of_unpack_nan nan
        simp only [unpackExponent_packComponents] at all_ones
        exact absurd all_ones (by decide)

/-- Rounding a finite value gives a zero or a finite value. -/
theorem roundWithAccuracy_ne_nan (spec : Format) (s : Sign) (m : Nat) (e : Int)
    (accuracy : Accuracy) : roundWithAccuracy spec s m e accuracy ≠ .notANumber := by
  unfold roundWithAccuracy
  simp only
  split <;> simp

/-- Rounding a finite value, its exponent set first, gives a zero or a finite value. -/
theorem round_ne_nan (spec : Format) (s : Sign) (m : Nat) (e : Int) :
    UnpackedFloat.round spec s m e ≠ .notANumber :=
  roundWithAccuracy_ne_nan _ _ _ _ _

/-- A whole number converts to a zero or a finite value. -/
theorem ofNat_ne_nan (spec : Format) (n : Nat) : UnpackedFloat.ofNat spec n ≠ .notANumber := by
  simp only [UnpackedFloat.ofNat, UnpackedFloat.ofInt, UnpackedFloat.normalize]
  split
  · exact round_ne_nan _ _ _ _
  · simp
  · exact round_ne_nan _ _ _ _

/-- Whether an unpacked value is finite and not zero. -/
def isNonzeroFinite : UnpackedFloat → Bool
  | .finite .. => true
  | _ => false

/-- A product by a finite nonzero value is NaN only when the other factor is. -/
theorem mul_ne_nan (spec : Format) {x y : UnpackedFloat} (x_ne : x ≠ .notANumber)
    (y_finite : isNonzeroFinite y) : mul spec x y ≠ .notANumber := by
  cases y <;> simp only [isNonzeroFinite, Bool.false_eq_true] at y_finite
  cases x with
  | notANumber => exact absurd rfl x_ne
  | finite => exact roundWithAccuracy_ne_nan _ _ _ _ _
  | _ => simp [mul]

/-- A quotient by a finite nonzero value is NaN only when the dividend is. -/
theorem div_ne_nan (spec : Format) {x y : UnpackedFloat} (x_ne : x ≠ .notANumber)
    (y_finite : isNonzeroFinite y) : div spec x y ≠ .notANumber := by
  cases y <;> simp only [isNonzeroFinite, Bool.false_eq_true] at y_finite
  cases x with
  | notANumber => exact absurd rfl x_ne
  | finite => exact roundWithAccuracy_ne_nan _ _ _ _ _
  | _ => simp [div]

/-- A number written with digits and a power of ten converts to no NaN. -/
theorem ofScientific_ne_nan (spec : Format) (m : Nat) (e : Int) :
    UnpackedFloat.ofScientific spec m e ≠ .notANumber := by
  unfold UnpackedFloat.ofScientific
  -- Zero and the two shortcuts past the range give a zero or an infinity; the rest one rounding.
  split
  · simp
  split
  · simp
  split
  · simp
  split
  · exact mul_ne_nan spec (by simp) rfl
  · exact div_ne_nan spec (by simp) rfl

/-- Packing into the model keeps a value clear of NaN. -/
theorem model_unpack_pack_ne_nan {u : UnpackedFloat} (u_ne : u ≠ .notANumber) :
    (Float.Model.pack u).unpack ≠ .notANumber := by
  simpa [Float.Model.unpack, Float.Model.pack] using unpack_pack_ne_nan u_ne

/-- The powers of ten a float is scaled by in one step are finite and not zero. -/
theorem powersOfTen_nonzeroFinite :
    Float.exactlyRepresentablePowersOfTen.toList.all (fun x => isNonzeroFinite x.toModel.unpack) := by
  decide +kernel

/-- Each power of ten a float is scaled by in one step is finite and not zero. -/
theorem powerOfTen_nonzeroFinite (e : Nat) (h : e < Float.exactlyRepresentablePowersOfTen.size) :
    isNonzeroFinite Float.exactlyRepresentablePowersOfTen[e].toModel.unpack := by
  have all := powersOfTen_nonzeroFinite
  rw [List.all_eq_true] at all
  exact all _ (Array.getElem_mem_toList h)

/-- A whole number converts to a float that is not NaN. -/
theorem toFloat_ne_nan (n : UInt64) : n.toFloat.toModel.unpack ≠ .notANumber :=
  model_unpack_pack_ne_nan (ofNat_ne_nan _ _)

/-- Digits scaled by a power of ten convert to a float that is not NaN. -/
theorem float_ofScientific_ne_nan (m : Nat) (s : Bool) (e : Nat) :
    (Float.ofScientific m s e).toModel.unpack ≠ .notANumber := by
  unfold Float.ofScientific
  split
  · -- Digits and power both exact: one division or multiplication by the power.
    rename_i exact
    have scale := powerOfTen_nonzeroFinite e (by simp [Float.exactlyRepresentablePowersOfTen]; omega)
    have digits := toFloat_ne_nan m.toUInt64
    split
    · exact model_unpack_pack_ne_nan (div_ne_nan _ digits scale)
    · exact model_unpack_pack_ne_nan (mul_ne_nan _ digits scale)
  · exact model_unpack_pack_ne_nan (ofScientific_ne_nan _ _ _)

/-- Negating a float that is not NaN gives no NaN. -/
theorem neg_ne_nan {x : Float} (x_ne : x.toModel.unpack ≠ .notANumber) :
    (-x).toModel.unpack ≠ .notANumber := by
  apply model_unpack_pack_ne_nan
  cases h : x.toModel.unpack <;> simp_all [UnpackedFloat.neg]

/-- A value other than NaN compares equal to itself: same sign, exponent and mantissa. -/
theorem unpacked_beq_self {u : UnpackedFloat} (u_ne : u ≠ .notANumber) : u.beq u = true := by
  cases u with
  | notANumber => exact absurd rfl u_ne
  | infinity s => cases s <;> rfl
  | zero s => cases s <;> rfl
  | finite s m e _ => cases s <;> simp [UnpackedFloat.beq, UnpackedFloat.compare]

/-- A float that is not NaN compares equal to itself. -/
theorem beq_self_of_ne_nan {x : Float} (x_ne : x.toModel.unpack ≠ .notANumber) :
    (x == x) = true :=
  unpacked_beq_self x_ne

end Binary64

namespace Numeral

/-- A number as written converts to a float that is not NaN. -/
theorem Lexeme.toFloat_ne_nan (lex : Lexeme) : lex.toFloat.toModel.unpack ≠ .notANumber := by
  unfold Lexeme.toFloat
  -- The digits give the magnitude; a minus sign only negates it.
  dsimp only
  split
  · exact Binary64.neg_ne_nan (Binary64.float_ofScientific_ne_nan _ _ _)
  · exact Binary64.float_ofScientific_ne_nan _ _ _

/-- The value of a number as written is the same as itself. -/
theorem Lexeme.value_sameAs_self {lex : Lexeme} {value : Numeral} (read : lex.value? = some value) :
    value.sameAs value = true := by
  unfold Lexeme.value? at read
  split at read
  · split at read
    · cases read
    · cases read
      simp [Numeral.sameAs]
  · cases read
    exact Binary64.beq_self_of_ne_nan lex.toFloat_ne_nan

end Numeral

/-- Every atom a run reads as is the same as itself. -/
theorem castAtom_sameAs_self {d : Dialect} {run : Text} {a : Atom} (cast : castAtom d run = some a) :
    a.sameAs a = true := by
  unfold castAtom at cast
  split at cast
  · cases cast
    rfl
  split at cast
  · cases cast
    rfl
  split at cast
  · cases cast
    rfl
  split at cast
  · -- A number: the same as itself since its value is never NaN.
    obtain ⟨value, read, rfl⟩ := Option.map_eq_some_iff.mp cast
    exact Numeral.Lexeme.value_sameAs_self read
  · split at cast
    · cases cast
    · cases cast
      simp [Atom.sameAs]

end LispReader

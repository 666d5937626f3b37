import Mathlib.Tactic.Ring
import Mathlib.Tactic.Linarith
import PromptTuning.Binary.Basic

/-!
# Numbers nearest to integers

The number of a binary format nearest to an integer is a whole number: up to the
precision of the format it is the integer itself, and beyond it every number is
whole. The double nearest to an integer lies below two to the power of 63 if the
integer lies more than half a step below it.
-/

namespace PromptTuning

/-- A quotient without a remainder is not rounded. -/
theorem roundQuotient_mul (quotient : Nat) {denominator : Nat}
    (positive : 0 < denominator) :
    roundQuotient (quotient * denominator) denominator = quotient := by
  simp [roundQuotient, Nat.mul_div_cancel _ positive, positive]

/-- A quotient is not rounded below its whole part. -/
theorem div_le_roundQuotient (numerator denominator : Nat) :
    numerator / denominator ≤ roundQuotient numerator denominator := by
  unfold roundQuotient
  dsimp only
  split
  · exact Nat.le_refl _
  · split
    · exact Nat.le_succ _
    · split
      · exact Nat.le_refl _
      · exact Nat.le_succ _

/-- A quotient is rounded to the next whole number at most. -/
theorem roundQuotient_le_succ (numerator denominator : Nat) :
    roundQuotient numerator denominator ≤ numerator / denominator + 1 := by
  unfold roundQuotient
  dsimp only
  split
  · exact Nat.le_succ _
  · split
    · exact Nat.le_refl _
    · split
      · exact Nat.le_succ _
      · exact Nat.le_refl _

/-- A ratio less than a half above a bound is rounded to the bound at most. -/
theorem roundQuotient_le
    {numerator denominator bound : Nat}
    (below : 2 * numerator < (2 * bound + 1) * denominator) :
    roundQuotient numerator denominator ≤ bound := by
  have split := Nat.div_add_mod numerator denominator
  by_cases small : numerator / denominator < bound
  · exact (roundQuotient_le_succ numerator denominator).trans small
  · -- The quotient reaches the bound, so the remainder is less than a half.
    have reached :
        denominator * bound ≤ denominator * (numerator / denominator) :=
      Nat.mul_le_mul_left _ (Nat.le_of_not_lt small)
    have remainder : 2 * (numerator % denominator) < denominator := by nlinarith
    have quotient :
        roundQuotient numerator denominator = numerator / denominator := by
      simp [roundQuotient, remainder]
    have within : numerator < denominator * (bound + 1) := by nlinarith
    rw [quotient]
    exact Nat.le_of_lt_succ (Nat.div_lt_of_lt_mul within)

/-- A quotient is rounded alike when it is expanded by a factor. -/
theorem roundQuotient_mul_right
    (numerator denominator : Nat)
    {factor : Nat}
    (positive : 0 < factor) :
    roundQuotient (numerator * factor) (denominator * factor) =
      roundQuotient numerator denominator := by
  have double (value : Nat) : 2 * (value * factor) = 2 * value * factor := by
    ring
  simp only [roundQuotient, Nat.mul_div_mul_right _ _ positive,
    Nat.mul_mod_mul_right, double, Nat.mul_lt_mul_right positive]

namespace BinaryFormat

/-- The units of a rank are its fraction, with the leading bit unless it is
subnormal, shifted by its exponent. -/
theorem unitsOfRank_eq (format : BinaryFormat) (rank : Nat) :
    format.unitsOfRank rank =
      if rank / 2 ^ format.fractionBits = 0 then rank
      else
        (2 ^ format.fractionBits + rank % 2 ^ format.fractionBits) *
          2 ^ (rank / 2 ^ format.fractionBits - 1) :=
  rfl

/-- Whole units are rounded at the place that their length determines. -/
theorem rankOfUnits_one (format : BinaryFormat) (units : Nat) :
    format.rankOfUnits units 1 =
      (units.log2 - format.fractionBits) * 2 ^ format.fractionBits +
        roundQuotient units (2 ^ (units.log2 - format.fractionBits)) := by
  rw [rankOfUnits, Nat.div_one, Nat.one_mul]
  rfl

/-- A format resolves fractions as fine as its significand at least. -/
theorem fractionBits_le_unitExponent (format : BinaryFormat) :
    format.fractionBits ≤ format.unitExponent := by
  cases format <;> decide

/-- A rank is the number of doublings below a value and its significand; the
significand just past the last one is the first after another doubling. -/
theorem unitsOfRank_add
    (format : BinaryFormat)
    {shift significand : Nat}
    (normal : 2 ^ format.fractionBits ≤ significand)
    (bounded : significand ≤ 2 ^ (format.fractionBits + 1)) :
    format.unitsOfRank (shift * 2 ^ format.fractionBits + significand) =
      significand * 2 ^ shift := by
  have positive : 0 < 2 ^ format.fractionBits := Nat.two_pow_pos _
  rw [Nat.pow_succ] at bounded
  rw [unitsOfRank_eq]
  generalize 2 ^ format.fractionBits = unit at *
  obtain below | rfl := bounded.lt_or_eq
  · obtain ⟨fraction, rfl⟩ := Nat.exists_eq_add_of_le normal
    have regroup :
        shift * unit + (unit + fraction) = unit * (shift + 1) + fraction := by
      ring
    have small : fraction < unit := by omega
    have field : (unit * (shift + 1) + fraction) / unit = shift + 1 := by
      rw [Nat.mul_add_div positive, Nat.div_eq_of_lt small]
    have rest : (unit * (shift + 1) + fraction) % unit = fraction := by
      rw [Nat.mul_add_mod, Nat.mod_eq_of_lt small]
    simp [regroup, field, rest]
  · have regroup : shift * unit + unit * 2 = unit * (shift + 2) := by ring
    have field : unit * (shift + 2) / unit = shift + 2 :=
      Nat.mul_div_cancel_left _ positive
    simp only [regroup, field, Nat.mul_mod_right]
    simp only [Nat.add_eq_zero_iff, OfNat.ofNat_ne_zero, and_false, if_false,
      Nat.add_zero, Nat.add_one_sub_one, Nat.pow_succ]
    ring

/-- The magnitude of the number of a format nearest to a natural number. -/
def nearestWhole (format : BinaryFormat) (value : Nat) : Nat :=
  if value.log2 ≤ format.fractionBits then value
  else
    roundQuotient value (2 ^ (value.log2 - format.fractionBits)) *
      2 ^ (value.log2 - format.fractionBits)

/-- A positive natural number has a significand of full length once it
is scaled up. -/
theorem significand_bounds
    (format : BinaryFormat)
    {value shift : Nat}
    (positive : value ≠ 0)
    (scaled : value.log2 = shift + format.fractionBits) :
    2 ^ format.fractionBits ≤ roundQuotient value (2 ^ shift) ∧
      roundQuotient value (2 ^ shift) ≤ 2 ^ (format.fractionBits + 1) := by
  have lower := Nat.log2_self_le positive
  have upper := Nat.lt_log2_self (n := value)
  rw [scaled] at lower upper
  constructor
  · refine le_trans ?_ (div_le_roundQuotient value (2 ^ shift))
    rw [Nat.le_div_iff_mul_le (Nat.two_pow_pos _), ← Nat.pow_add, Nat.add_comm]
    exact lower
  · apply roundQuotient_le
    have regroup : 2 ^ (shift + format.fractionBits + 1) =
        2 ^ (format.fractionBits + 1) * 2 ^ shift := by ring
    rw [regroup] at upper
    nlinarith [Nat.two_pow_pos shift]

/-- The number nearest to a natural number is a whole number. -/
theorem unitsOfRank_rankOfUnits_whole (format : BinaryFormat) (value : Nat) :
    format.unitsOfRank
      (format.rankOfUnits (value * 2 ^ format.unitExponent) 1) =
      format.nearestWhole value * 2 ^ format.unitExponent := by
  have room := format.fractionBits_le_unitExponent
  by_cases positive : value = 0
  · simp [positive, rankOfUnits, unitsOfRank, nearestWhole, roundQuotient]
  have scaledPositive : value * 2 ^ format.unitExponent ≠ 0 :=
    Nat.mul_ne_zero positive (Nat.two_pow_pos _).ne'
  have length :
      (value * 2 ^ format.unitExponent).log2 =
        value.log2 + format.unitExponent := by
    rw [Nat.log2_eq_iff scaledPositive]
    have lower := Nat.log2_self_le positive
    have upper := Nat.lt_log2_self (n := value)
    rw [Nat.pow_add, Nat.add_right_comm, Nat.pow_add]
    exact ⟨Nat.mul_le_mul_right _ lower,
      Nat.mul_lt_mul_of_pos_right upper (Nat.two_pow_pos _)⟩
  obtain ⟨shift, scaled⟩ := Nat.exists_eq_add_of_le'
    (room.trans (Nat.le_add_left format.unitExponent value.log2))
  rw [scaled] at length
  obtain ⟨lower, upper⟩ := format.significand_bounds scaledPositive length
  have rank : format.rankOfUnits (value * 2 ^ format.unitExponent) 1 =
      shift * 2 ^ format.fractionBits +
        roundQuotient (value * 2 ^ format.unitExponent) (2 ^ shift) := by
    rw [rankOfUnits_one, length, Nat.add_sub_cancel]
  rw [rank, format.unitsOfRank_add lower upper, nearestWhole]
  split
  case isTrue short =>
    -- All digits fit, and the scaled quotient is exact.
    obtain ⟨spare, exponent⟩ : ∃ spare, format.unitExponent = spare + shift :=
      Nat.exists_eq_add_of_le' (by omega)
    rw [exponent, Nat.pow_add, ← Nat.mul_assoc,
      roundQuotient_mul _ (Nat.two_pow_pos _)]
  case isFalse long =>
    have extra :
        shift = value.log2 - format.fractionBits + format.unitExponent := by
      omega
    rw [extra, Nat.pow_add, roundQuotient_mul_right _ _ (Nat.two_pow_pos _),
      Nat.mul_assoc]

/-- A number well below the largest signed word is rounded below it too. -/
theorem nearestWhole_lt {value : Nat} (small : value < 2 ^ 63 - 2 ^ 9) :
    nearestWhole .double value < 2 ^ 63 := by
  have bits : fractionBits .double = 52 := rfl
  rw [nearestWhole, bits]
  split
  case isTrue => omega
  case isFalse long =>
    have positive : value ≠ 0 := by
      rintro rfl
      exact long (Nat.zero_le _)
    have length : value.log2 < 63 := (Nat.log2_lt positive).mpr (by omega)
    have upper := Nat.lt_log2_self (n := value)
    obtain ⟨extra, exact⟩ : ∃ extra, value.log2 = extra + 52 :=
      Nat.exists_eq_add_of_le' (by omega)
    rw [exact, Nat.add_sub_cancel]
    rw [exact] at upper length
    by_cases last : extra = 10
    · subst last
      have rounded : roundQuotient value (2 ^ 10) ≤ 2 ^ 53 - 1 :=
        roundQuotient_le (by omega)
      omega
    · have power : 2 ^ extra ≤ 2 ^ 9 :=
        Nat.pow_le_pow_right (by decide) (by omega)
      have rounded : roundQuotient value (2 ^ extra) ≤ 2 ^ 53 := by
        have step := Nat.two_pow_pos extra
        apply roundQuotient_le
        rw [Nat.add_assoc, Nat.pow_add] at upper
        omega
      calc
        roundQuotient value (2 ^ extra) * 2 ^ extra ≤ 2 ^ 53 * 2 ^ 9 :=
          Nat.mul_le_mul rounded power
        _ < 2 ^ 63 := by decide

end BinaryFormat

namespace Finite

variable {format : BinaryFormat}

/-- A finite number is as far from zero as its rank says. -/
theorem natAbs_place (value : Finite format) :
    value.place.natAbs = value.rank := by
  unfold place
  split
  · rw [Int.natAbs_neg, Int.natAbs_natCast]
  · exact Int.natAbs_natCast _

end Finite

/-- A finite number at the place of an integer is the whole number nearest to
the integer, up to its sign. -/
theorem Binary.toInt?_of_place?_eq
    {format : BinaryFormat}
    {value : Int}
    {number : Finite format}
    (place : (Binary.ofInt value : Binary format).place? = some number.place) :
    ∃ whole, number.toInt? = some whole ∧
      whole.natAbs = format.nearestWhole value.natAbs := by
  rw [ofInt, ofRatio, ofUnits, Nat.pow_eq] at place
  split at place
  case isFalse unbounded =>
    -- An infinite number has a place past those of all finite ones.
    have rank := number.natAbs_place
    have bound := number.rank_lt
    have far : number.place.natAbs = format.magnitudes := by
      rw [← Option.some.inj place]
      split
      · rw [Int.natAbs_neg, Int.natAbs_natCast]
      · exact Int.natAbs_natCast _
    omega
  case isTrue bounded =>
    have rank :
        format.rankOfUnits (value.natAbs * 2 ^ format.unitExponent) 1 =
          number.rank := by
      rw [← number.natAbs_place, ← Option.some.inj place, Finite.natAbs_place]
    have units : number.units =
        format.nearestWhole value.natAbs * 2 ^ format.unitExponent := by
      rw [Finite.units, ← rank, format.unitsOfRank_rankOfUnits_whole]
    have positive : 0 < 2 ^ format.unitExponent := Nat.two_pow_pos _
    rw [Finite.toInt?, units, Nat.pow_eq, Nat.mul_mod_left, if_pos rfl,
      Nat.mul_div_cancel _ positive]
    refine ⟨_, rfl, ?_⟩
    split
    · rw [Int.natAbs_neg, Int.natAbs_natCast]
    · exact Int.natAbs_natCast _

end PromptTuning

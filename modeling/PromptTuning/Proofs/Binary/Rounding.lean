import PromptTuning.Proofs.Binary.Widening

/-!
# Rounding keeps order

Rounding a ratio to the nearest number of a format is monotone, so a ratio that
does not exceed a number of the format is not rounded past it. Ranks and
magnitudes are in the same order, and hence sums, quotients and whole numbers
can be compared before they are rounded.
-/

namespace PromptTuning

/-- A larger numerator is not rounded to a smaller quotient. -/
theorem roundQuotient_mono
    {first second : Nat}
    (within : first ≤ second)
    (denominator : Nat) :
    roundQuotient first denominator ≤ roundQuotient second denominator := by
  obtain apart | same :=
    (Nat.div_le_div_right within : first / denominator ≤ _).lt_or_eq
  · exact (roundQuotient_le_succ first denominator).trans
      (Nat.le_trans apart (div_le_roundQuotient second denominator))
  · -- The remainders are in the order of the numerators, and both are rounded
    -- alike.
    have remainders : first % denominator ≤ second % denominator := by
      have split := Nat.div_add_mod first denominator
      have splitSecond := Nat.div_add_mod second denominator
      rw [same] at split
      omega
    unfold roundQuotient
    rw [same]
    dsimp only
    split_ifs <;> omega

namespace BinaryFormat

variable (format : BinaryFormat) {first second denominator : Nat}

/-- The number of times the significand of a ratio is doubled. -/
def shift (numerator denominator : Nat) : Nat :=
  (numerator / denominator).log2 - format.fractionBits

/-- Units are rounded at the place that their length determines. -/
theorem rankOfUnits_eq (numerator denominator : Nat) :
    format.rankOfUnits numerator denominator =
      format.shift numerator denominator * 2 ^ format.fractionBits +
        roundQuotient numerator
          (denominator * 2 ^ format.shift numerator denominator) :=
  rfl

/-- A larger number is not shorter. -/
theorem log2_le_log2 (within : first ≤ second) : first.log2 ≤ second.log2 := by
  by_cases positive : first = 0
  · rw [positive]
    exact Nat.zero_le _
  · have reached := (Nat.log2_self_le positive).trans within
    exact (Nat.le_log2 (by omega)).mpr reached

/-- A larger number is not rounded at a lower place. -/
theorem shift_mono (within : first ≤ second) :
    format.shift first denominator ≤ format.shift second denominator :=
  Nat.sub_le_sub_right (log2_le_log2 (Nat.div_le_div_right within)) _

/-- A significand is not longer than the format allows, but for
one more step. -/
theorem roundQuotient_shift_le (positive : 0 < denominator) (numerator : Nat) :
    roundQuotient numerator
      (denominator * 2 ^ format.shift numerator denominator) ≤
      2 ^ (format.fractionBits + 1) := by
  have upper := Nat.lt_log2_self (n := numerator / denominator)
  have length : (numerator / denominator).log2 ≤
      format.fractionBits + format.shift numerator denominator := by
    unfold shift
    omega
  have short :
      numerator < denominator * 2 ^ format.shift numerator denominator *
        2 ^ (format.fractionBits + 1) := by
    rw [Nat.mul_assoc, ← Nat.pow_add, Nat.mul_comm]
    refine (Nat.div_lt_iff_lt_mul positive).mp (upper.trans_le ?_)
    exact Nat.pow_le_pow_right (by decide) (by omega)
  apply roundQuotient_le
  rw [Nat.add_mul, Nat.one_mul, Nat.mul_assoc,
    Nat.mul_comm (2 ^ (format.fractionBits + 1))]
  omega

/-- Once it is doubled, a significand has full length. -/
theorem le_roundQuotient_shift
    {numerator : Nat}
    (doubled : 0 < format.shift numerator denominator) :
    2 ^ format.fractionBits ≤
      roundQuotient numerator
        (denominator * 2 ^ format.shift numerator denominator) := by
  have length : (numerator / denominator).log2 =
      format.fractionBits + format.shift numerator denominator := by
    unfold shift at doubled ⊢
    omega
  have nonzero : numerator / denominator ≠ 0 := by
    intro zero
    rw [zero, Nat.log2_zero] at length
    omega
  have lower := Nat.log2_self_le nonzero
  rw [length, Nat.pow_add] at lower
  refine le_trans ?_ (div_le_roundQuotient _ _)
  rw [← Nat.div_div_eq_div_mul]
  exact (Nat.le_div_iff_mul_le (Nat.two_pow_pos _)).mpr lower

/-- The nearest number does not decrease when the ratio increases. -/
theorem rankOfUnits_mono (positive : 0 < denominator)
    (within : first ≤ second) :
    format.rankOfUnits first denominator ≤
      format.rankOfUnits second denominator := by
  rw [rankOfUnits_eq, rankOfUnits_eq]
  obtain fewer | same :=
    (format.shift_mono within : _ ≤ format.shift second denominator).lt_or_eq
  · -- Another doubling outweighs every significand.
    have upper := format.roundQuotient_shift_le positive first
    have lower := format.le_roundQuotient_shift (Nat.zero_lt_of_lt fewer)
    have steps := Nat.mul_le_mul_right (2 ^ format.fractionBits) fewer
    rw [Nat.succ_mul] at steps
    rw [Nat.pow_succ] at upper
    omega
  · rw [same]
    exact Nat.add_le_add_left (roundQuotient_mono within _) _

/-- A ratio that does not exceed a number is not rounded past it. -/
theorem rankOfUnits_le
    {numerator rank : Nat}
    (positive : 0 < denominator)
    (within : numerator ≤ format.unitsOfRank rank * denominator) :
    format.rankOfUnits numerator denominator ≤ rank := by
  calc
    format.rankOfUnits numerator denominator
        ≤ format.rankOfUnits (format.unitsOfRank rank * denominator)
          denominator :=
      format.rankOfUnits_mono positive within
    _ = rank := by
      rw [format.rankOfUnits_mul _ positive, format.rankOfUnits_unitsOfRank]

/-- Ranks are in the order of their units. -/
theorem unitsOfRank_le_iff :
    format.unitsOfRank first ≤ format.unitsOfRank second ↔ first ≤ second := by
  have order {low high : Nat}
      (within : format.unitsOfRank low ≤ format.unitsOfRank high) :
          low ≤ high := by
        have rounded := format.rankOfUnits_mono Nat.one_pos within
        rwa [rankOfUnits_unitsOfRank, rankOfUnits_unitsOfRank] at rounded
  constructor
  · exact order
  · intro within
    by_contra above
    obtain rfl := Nat.le_antisymm within (order (Nat.le_of_not_le above))
    exact above (Nat.le_refl _)

/-- Only the rank zero has no units. -/
theorem unitsOfRank_eq_zero_iff {rank : Nat} :
    format.unitsOfRank rank = 0 ↔ rank = 0 := by
  have zero : format.unitsOfRank 0 = 0 :=
    format.unitsOfRank_of_small (Nat.two_pow_pos _)
  have order : format.unitsOfRank rank ≤ format.unitsOfRank 0 ↔ rank ≤ 0 :=
    format.unitsOfRank_le_iff
  rwa [zero, Nat.le_zero, Nat.le_zero] at order

/-- A larger whole number is not rounded to a smaller one. -/
theorem nearestWhole_mono (within : first ≤ second) :
    format.nearestWhole first ≤ format.nearestWhole second := by
  have ranks := format.rankOfUnits_mono Nat.one_pos
    (Nat.mul_le_mul_right (2 ^ format.unitExponent) within)
  have rounded := format.unitsOfRank_le_iff.mpr ranks
  rw [unitsOfRank_rankOfUnits_whole, unitsOfRank_rankOfUnits_whole] at rounded
  exact Nat.le_of_mul_le_mul_right rounded (Nat.two_pow_pos _)

end BinaryFormat
end PromptTuning

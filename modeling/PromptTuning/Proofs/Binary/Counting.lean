import PromptTuning.Proofs.Binary.Rounding

/-!
# Counting and averaging

Every natural number up to a certain one is a number of a format, and counting
past it with rounding stays there. So a sum of numbers up to one never gets
ahead of its count, and the quotient of the two is a number up to one again.
-/

namespace PromptTuning

namespace BinaryFormat

variable (format : BinaryFormat)

/-- Up to this number all natural numbers are numbers of a format. -/
def wholeUpTo : Nat :=
  2 ^ (format.fractionBits + 1)

/-- The last of the exact whole numbers is exact. -/
theorem nearestWhole_wholeUpTo :
    format.nearestWhole format.wholeUpTo = format.wholeUpTo := by
  cases format <;> decide +kernel

/-- The first natural number that is not a number of the format is
rounded down. -/
theorem nearestWhole_succ_wholeUpTo :
    format.nearestWhole (format.wholeUpTo + 1) = format.wholeUpTo := by
  cases format <;> decide +kernel

/-- Whole numbers are exact as long as the significand holds them. -/
theorem nearestWhole_eq_self {value : Nat} (small : value ≤ format.wholeUpTo) :
    format.nearestWhole value = value := by
  obtain below | rfl := small.lt_or_eq
  · have short : value.log2 ≤ format.fractionBits := by
      by_cases zero : value = 0
      · simp [zero]
      · exact Nat.le_of_lt_succ ((Nat.log2_lt zero).mpr below)
    rw [nearestWhole, if_pos short]
  · exact format.nearestWhole_wholeUpTo

/-- Counting on from a number that is not rounded ends at the last
such number. -/
theorem nearestWhole_succ_min (count : Nat) :
    format.nearestWhole (min count format.wholeUpTo + 1) =
      min (count + 1) format.wholeUpTo := by
  obtain below | reached := Nat.lt_or_ge count format.wholeUpTo
  · rw [Nat.min_eq_left below.le, Nat.min_eq_left below,
      format.nearestWhole_eq_self below]
  · rw [Nat.min_eq_right reached,
      Nat.min_eq_right (reached.trans (Nat.le_succ _)),
      format.nearestWhole_succ_wholeUpTo]

/-- A count is not rounded below itself while it is exact. -/
theorem min_wholeUpTo_le_nearestWhole (count : Nat) :
    min count format.wholeUpTo ≤ format.nearestWhole count := by
  calc
    min count format.wholeUpTo =
      format.nearestWhole (min count format.wholeUpTo) :=
      (format.nearestWhole_eq_self (Nat.min_le_right _ _)).symm
    _ ≤ format.nearestWhole count :=
      format.nearestWhole_mono (Nat.min_le_left _ _)

/-- The numbers up to the last one that is not rounded are finite, and so is
what they are rounded to. -/
theorem rankOfUnits_lt_magnitudes {value : Nat}
    (small : value ≤ format.wholeUpTo + 1) :
    format.rankOfUnits (value * 2 ^ format.unitExponent) 1 <
      format.magnitudes := by
  rw [rank_lt_magnitudes_iff, unitsOfRank_rankOfUnits_whole]
  calc
    format.nearestWhole value * 2 ^ format.unitExponent
        ≤ format.wholeUpTo * 2 ^ format.unitExponent := by
      rw [← format.nearestWhole_succ_wholeUpTo]
      exact Nat.mul_le_mul_right _ (format.nearestWhole_mono small)
    _ < 2 ^ (format.fractionBits + (format.exponentFields - 1)) := by
      cases format <;> decide +kernel

end BinaryFormat

namespace Binary

variable {format : BinaryFormat}

/-- A whole number is the double of as many units as it stands for. -/
theorem ofInt_natCast (value : Nat) :
    (ofInt value : Binary format) =
      ofUnits false (value * 2 ^ format.unitExponent) 1 := by
  have plus : ¬ (value : Int) < 0 := by omega
  rw [ofInt, ofRatio, Int.natAbs_natCast, decide_eq_false plus]
  rfl

/-- A natural number is rounded to infinity or to a number without a sign. -/
theorem ofInt_natCast_cases (format : BinaryFormat) (value : Nat) :
    (ofInt value : Binary format) = .infinite false ∨
      ∃ nearest : Finite format, ofInt value = .finite nearest ∧
        nearest.negative = false ∧
        nearest.units =
          format.nearestWhole value * 2 ^ format.unitExponent := by
  rw [ofInt_natCast, ofUnits]
  split
  · exact .inr ⟨_, rfl, rfl, format.unitsOfRank_rankOfUnits_whole value⟩
  · exact .inl rfl

/-- One is a finite number. -/
theorem exists_one_eq (format : BinaryFormat) :
    ∃ unit : Finite format, one format = .finite unit ∧ unit.negative = false ∧
      unit.units = 2 ^ format.unitExponent := by
  have small : 1 ≤ format.wholeUpTo := Nat.two_pow_pos _
  have finite := format.rankOfUnits_lt_magnitudes (small.trans (Nat.le_succ _))
  refine ⟨⟨false, _, finite⟩, (ofInt_natCast 1).trans (dif_pos finite), rfl, ?_⟩
  calc
    format.unitsOfRank (format.rankOfUnits (1 * 2 ^ format.unitExponent) 1)
        = format.nearestWhole 1 * 2 ^ format.unitExponent :=
      format.unitsOfRank_rankOfUnits_whole 1
    _ = 2 ^ format.unitExponent := by
      rw [format.nearestWhole_eq_self small, Nat.one_mul]

end Binary

namespace Finite

variable {format : BinaryFormat} {left right value unit : Finite format}
  {count : Nat}

/-- A number from zero to a natural number; it has a sign only if it is zero. -/
structure UpTo (count : Nat) (value : Finite format) : Prop where
  units : value.units ≤ count * 2 ^ format.unitExponent
  sign : value.negative = true -> value.units = 0

/-- The sum of a number without a sign and a number up to one is at most the
next whole number, once that is rounded. -/
theorem UpTo.exists_add
    (leftUpTo : left.UpTo count)
    (positive : left.negative = false)
    (rightUpTo : right.UpTo 1)
    (room : count ≤ format.wholeUpTo) :
    ∃ sum : Finite format, left.add right = .finite sum ∧ sum.negative = false ∧
      sum.UpTo (format.nearestWhole (count + 1)) := by
  have signed :
      (if right.negative then -(right.units : Int) else right.units) =
        right.units := by
    split
    · rw [rightUpTo.sign ‹_›]
      rfl
    · rfl
  have within :
      left.units + right.units ≤ (count + 1) * 2 ^ format.unitExponent := by
    rw [Nat.add_mul]
    exact Nat.add_le_add leftUpTo.units rightUpTo.units
  have rank := format.rankOfUnits_mono Nat.one_pos within
  have bounded :=
    rank.trans_lt (format.rankOfUnits_lt_magnitudes (Nat.succ_le_succ room))
  unfold add
  simp only [positive, signed, Bool.false_eq_true, if_false, ← Int.natCast_add]
  split
  · refine ⟨_, rfl, rfl, ?_, fun sign => absurd sign Bool.false_ne_true⟩
    change format.unitsOfRank 0 ≤ _
    rw [format.unitsOfRank_of_small (Nat.two_pow_pos _)]
    exact Nat.zero_le _
  · refine ⟨⟨false, _, bounded⟩, ?_, rfl, ?_,
      fun sign => absurd sign Bool.false_ne_true⟩
    · have plus : ¬ ((left.units + right.units : Nat) : Int) < 0 := by omega
      simp only [Binary.ofUnits, Int.natAbs_natCast, dif_pos bounded,
        decide_eq_false plus]
    · calc
        format.unitsOfRank (format.rankOfUnits (left.units + right.units) 1)
            ≤ format.unitsOfRank
                (format.rankOfUnits ((count + 1) * 2 ^ format.unitExponent)
                  1) :=
          format.unitsOfRank_le_iff.mpr rank
        _ = format.nearestWhole (count + 1) * 2 ^ format.unitExponent :=
          format.unitsOfRank_rankOfUnits_whole (count + 1)

/-- A number without a sign is placed at its rank. -/
theorem place_of_positive (positive : value.negative = false) :
    value.place = value.rank := by
  rw [place, positive]
  rfl

/-- The numbers up to one are those from zero to the place of one. -/
theorem upTo_one_iff
    (one : Binary.one format = .finite unit) :
    value.UpTo 1 ↔ 0 ≤ value.place ∧ value.place ≤ unit.place := by
  obtain ⟨same, found, positive, units⟩ := Binary.exists_one_eq format
  obtain rfl := Binary.finite.inj (found.symm.trans one)
  have order :
      value.units ≤ 1 * 2 ^ format.unitExponent ↔ value.rank ≤ same.rank := by
    rw [Nat.one_mul, ← units]
    exact format.unitsOfRank_le_iff
  rw [place_of_positive positive]
  constructor
  · intro upTo
    have within := order.mp upTo.units
    cases sign : value.negative with
    | false =>
        rw [place_of_positive sign]
        omega
    | true =>
        have zero : value.rank = 0 :=
          format.unitsOfRank_eq_zero_iff.mp (upTo.sign sign)
        rw [place, sign, if_pos rfl]
        omega
  · intro between
    have natAbs := value.natAbs_place
    refine ⟨order.mpr (by omega), fun sign => ?_⟩
    rw [place, sign, if_pos rfl] at between
    exact format.unitsOfRank_eq_zero_iff.mpr (by omega)

/-- A number without a sign over one that is not smaller is a
number up to one. -/
theorem exists_div
    (leftPositive : left.negative = false)
    (rightPositive : right.negative = false)
    (divisor : 0 < right.units)
    (within : left.units ≤ right.units) :
    ∃ quotient : Finite format,
      left.div right = .finite quotient ∧ quotient.UpTo 1 := by
  obtain ⟨unit, _, _, units⟩ := Binary.exists_one_eq format
  have rank :
      format.rankOfUnits (left.units * 2 ^ format.unitExponent) right.units ≤
        unit.rank := by
    refine format.rankOfUnits_le divisor ?_
    rw [← Finite.units, units, Nat.mul_comm]
    exact Nat.mul_le_mul_left _ within
  have bounded := rank.trans_lt unit.rank_lt
  refine ⟨⟨false, _, bounded⟩, ?_, ?_,
    fun sign => absurd sign Bool.false_ne_true⟩
  · simp only [div, Binary.ofUnits, leftPositive, rightPositive,
      bne_self_eq_false, Nat.pow_eq, dif_pos bounded]
  · calc
      format.unitsOfRank
        (format.rankOfUnits (left.units * 2 ^ format.unitExponent) right.units)
          ≤ unit.units := format.unitsOfRank_le_iff.mpr rank
      _ = 1 * 2 ^ format.unitExponent := by rw [units, Nat.one_mul]

end Finite
end PromptTuning

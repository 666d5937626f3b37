import PromptTuning.Proofs.Binary.Whole

/-!
# Widening a number

The values of a format are the multiples of its unit by a significand of bounded
length and a power of two. So a rank is found again from its magnitude, a
magnitude of that form is not rounded, and a number that is taken to a wider
format and back is the same number.
-/

namespace PromptTuning
namespace BinaryFormat

/-- A magnitude is a significand, not longer than the format allows, that is
doubled a number of times. -/
def Represents (format : BinaryFormat) (magnitude : Nat) : Prop :=
  ∃ significand shift,
    magnitude = significand * 2 ^ shift ∧
    significand < 2 ^ (format.fractionBits + 1)

/-- A format represents the units of its ranks. -/
theorem represents_unitsOfRank (format : BinaryFormat) (rank : Nat) :
    format.Represents (format.unitsOfRank rank) := by
  have positive : 0 < 2 ^ format.fractionBits := Nat.two_pow_pos _
  have rest := Nat.mod_lt rank positive
  rw [unitsOfRank_eq]
  split
  case isTrue small =>
    have below := (Nat.div_eq_zero_iff_lt positive).mp small
    exact ⟨rank, 0, by simp, by rw [Nat.pow_succ]; omega⟩
  case isFalse =>
    exact ⟨_, _, rfl, by rw [Nat.pow_succ]; omega⟩

/-- A format that represents a number represents it times a power of two. -/
theorem Represents.mul_two_pow {format : BinaryFormat} {magnitude : Nat}
    (represented : format.Represents magnitude) (power : Nat) :
    format.Represents (magnitude * 2 ^ power) := by
  obtain ⟨significand, shift, rfl, short⟩ := represented
  exact ⟨significand, shift + power, by ring, short⟩

/-- A format with a longer significand represents at least as much. -/
theorem Represents.mono {narrow wide : BinaryFormat} {magnitude : Nat}
    (represented : narrow.Represents magnitude)
    (longer : narrow.fractionBits ≤ wide.fractionBits) :
    wide.Represents magnitude := by
  obtain ⟨significand, shift, equal, short⟩ := represented
  exact ⟨significand, shift, equal,
    short.trans_le (Nat.pow_le_pow_right (by decide) (Nat.succ_le_succ longer))⟩

/-- A magnitude over one denominator has the rank of the magnitude. -/
theorem rankOfUnits_mul (format : BinaryFormat) (magnitude : Nat)
    {denominator : Nat} (positive : 0 < denominator) :
    format.rankOfUnits (magnitude * denominator) denominator =
      format.rankOfUnits magnitude 1 := by
  rw [rankOfUnits_one, rankOfUnits, Nat.mul_div_cancel _ positive, Nat.pow_eq,
    Nat.pow_eq, Nat.mul_comm denominator, roundQuotient_mul_right _ _ positive]

/-- A magnitude whose leading bit is that of its significand is ranked by how
often the significand was doubled. -/
theorem rankOfUnits_significand
    (format : BinaryFormat)
    {significand : Nat}
    (shift : Nat)
    (normal : 2 ^ format.fractionBits ≤ significand)
    (short : significand < 2 ^ (format.fractionBits + 1)) :
    format.rankOfUnits (significand * 2 ^ shift) 1 =
      shift * 2 ^ format.fractionBits + significand := by
  have positive : significand * 2 ^ shift ≠ 0 :=
    Nat.mul_ne_zero ((Nat.two_pow_pos _).trans_le normal).ne'
      (Nat.two_pow_pos _).ne'
  have length :
      (significand * 2 ^ shift).log2 = format.fractionBits + shift := by
    rw [Nat.log2_eq_iff positive, Nat.pow_add, Nat.add_right_comm, Nat.pow_add]
    exact ⟨Nat.mul_le_mul_right _ normal,
      Nat.mul_lt_mul_of_pos_right short (Nat.two_pow_pos _)⟩
  rw [rankOfUnits_one, length, Nat.add_sub_cancel_left,
    roundQuotient_mul _ (Nat.two_pow_pos _)]

/-- A magnitude below the first leading bit is its own rank. -/
theorem rankOfUnits_small (format : BinaryFormat) {magnitude : Nat}
    (small : magnitude < 2 ^ format.fractionBits) :
    format.rankOfUnits magnitude 1 = magnitude := by
  have length : magnitude.log2 - format.fractionBits = 0 := by
    by_cases zero : magnitude = 0
    · simp [zero]
    · have := (Nat.log2_lt zero).mpr small
      omega
  simp [rankOfUnits_one, length, roundQuotient, Nat.mod_one]

/-- The units of a rank are rounded to that rank. -/
theorem rankOfUnits_unitsOfRank (format : BinaryFormat) (rank : Nat) :
    format.rankOfUnits (format.unitsOfRank rank) 1 = rank := by
  have positive : 0 < 2 ^ format.fractionBits := Nat.two_pow_pos _
  rw [unitsOfRank_eq]
  split
  case isTrue small =>
    exact format.rankOfUnits_small ((Nat.div_eq_zero_iff_lt positive).mp small)
  case isFalse large =>
    obtain ⟨shift, field⟩ := Nat.exists_eq_succ_of_ne_zero large
    have rest := Nat.mod_lt rank positive
    have parts := Nat.div_add_mod rank (2 ^ format.fractionBits)
    have short : 2 ^ format.fractionBits + rank % 2 ^ format.fractionBits <
        2 ^ (format.fractionBits + 1) := by
      rw [Nat.pow_succ]
      omega
    rw [field] at parts ⊢
    rw [Nat.succ_sub_one,
      format.rankOfUnits_significand shift (Nat.le_add_right _ _) short]
    linarith [Nat.mul_succ (2 ^ format.fractionBits) shift]

/-- A subnormal rank is the number of its units. -/
theorem unitsOfRank_of_small (format : BinaryFormat) {rank : Nat}
    (small : rank < 2 ^ format.fractionBits) :
    format.unitsOfRank rank = rank := by
  rw [unitsOfRank_eq, if_pos (Nat.div_eq_of_lt small)]

/-- Every magnitude of the right form has a rank: a short significand is doubled
until it has full length or no doubling is left. -/
theorem Represents.exists_rank {format : BinaryFormat} {magnitude : Nat}
    (represented : format.Represents magnitude) :
    ∃ rank, format.unitsOfRank rank = magnitude := by
  obtain ⟨significand, shift, rfl, short⟩ := represented
  induction shift generalizing significand with
  | zero =>
      by_cases small : significand < 2 ^ format.fractionBits
      · exact ⟨significand,
          by rw [format.unitsOfRank_of_small small, pow_zero, Nat.mul_one]⟩
      · exact ⟨_, format.unitsOfRank_add (Nat.le_of_not_lt small) short.le⟩
  | succ shift inductionHypothesis =>
      by_cases small : significand < 2 ^ format.fractionBits
      · have doubled : significand * 2 < 2 ^ (format.fractionBits + 1) := by
          rw [Nat.pow_succ]
          omega
        obtain ⟨rank, found⟩ := inductionHypothesis (significand * 2) doubled
        exact ⟨rank, by rw [found]; ring⟩
      · exact ⟨_, format.unitsOfRank_add (Nat.le_of_not_lt small) short.le⟩

/-- The finite magnitudes are those below the first power of two that needs
another exponent. -/
theorem rank_lt_magnitudes_iff (format : BinaryFormat) (rank : Nat) :
    rank < format.magnitudes ↔
      format.unitsOfRank rank <
        2 ^ (format.fractionBits + (format.exponentFields - 1)) := by
  have positive : 0 < 2 ^ format.fractionBits := Nat.two_pow_pos _
  have rest := Nat.mod_lt rank positive
  obtain ⟨last, fields⟩ : ∃ last, format.exponentFields = last + 1 := by
    cases format <;> exact ⟨_, rfl⟩
  have bound :
      rank < format.magnitudes ↔ rank / 2 ^ format.fractionBits < last + 1 := by
    rw [magnitudes, fields, Nat.pow_eq, Nat.div_lt_iff_lt_mul positive]
  rw [bound, fields, Nat.add_sub_cancel, unitsOfRank_eq]
  split
  case isTrue small =>
    have below := (Nat.div_eq_zero_iff_lt positive).mp small
    refine iff_of_true (by omega) (below.trans_le ?_)
    exact Nat.pow_le_pow_right (by decide) (Nat.le_add_right _ _)
  case isFalse large =>
    obtain ⟨shift, field⟩ := Nat.exists_eq_succ_of_ne_zero large
    rw [field, Nat.succ_sub_one, Nat.pow_add]
    constructor
    · intro finite
      obtain ⟨more, rfl⟩ :=
        Nat.exists_eq_add_of_lt (Nat.succ_lt_succ_iff.mp finite)
      have power := Nat.two_pow_pos shift
      calc
        (2 ^ format.fractionBits + rank % 2 ^ format.fractionBits) * 2 ^ shift
            < (2 ^ format.fractionBits * 2) * 2 ^ shift :=
          Nat.mul_lt_mul_of_pos_right (by omega) power
        _ ≤ 2 ^ format.fractionBits * 2 ^ (shift + more + 1) := by
          rw [Nat.mul_assoc, ← Nat.pow_succ']
          exact Nat.mul_le_mul_left _
            (Nat.pow_le_pow_right (by decide) (by omega))
    · intro below
      by_contra unbounded
      have power : 2 ^ last ≤ 2 ^ shift :=
        Nat.pow_le_pow_right (by decide) (by omega)
      have := Nat.mul_le_mul (Nat.le_add_right (2 ^ format.fractionBits)
        (rank % 2 ^ format.fractionBits)) power
      omega

/-- Every finite value of the first format is a finite value of the second. -/
structure Within (narrow wide : BinaryFormat) : Prop where
  fraction : narrow.fractionBits ≤ wide.fractionBits
  unit : narrow.unitExponent ≤ wide.unitExponent
  range : narrow.fractionBits + (narrow.exponentFields - 1) +
      (wide.unitExponent - narrow.unitExponent) ≤
    wide.fractionBits + (wide.exponentFields - 1)

/-- Every single is a double. -/
theorem within_double : Within .single .double :=
  ⟨by decide, by decide, by decide⟩

end BinaryFormat

namespace Binary

open BinaryFormat

variable {narrow wide : BinaryFormat}

/-- Units that are rounded to the rank of a number make that number. -/
theorem ofUnits_eq_finite
    (value : Finite narrow)
    {numerator denominator : Nat}
    (rank : narrow.rankOfUnits numerator denominator = value.rank) :
    ofUnits value.negative numerator denominator = .finite value := by
  obtain ⟨negative, position, bounded⟩ := value
  subst rank
  exact dif_pos bounded

/-- A finite value of a wider format with the same sign has the same magnitude,
in the units of that format. -/
theorem exists_convert_eq
    (within : Within narrow wide)
    (value : Finite narrow) :
    ∃ widened : Finite wide,
      (Binary.finite value).convert wide = .finite widened ∧
        widened.negative = value.negative ∧
        widened.units * 2 ^ narrow.unitExponent =
          value.units * 2 ^ wide.unitExponent := by
  obtain ⟨extra, unit⟩ := Nat.exists_eq_add_of_le' within.unit
  have scaled : value.units * 2 ^ wide.unitExponent =
      value.units * 2 ^ extra * 2 ^ narrow.unitExponent := by
    rw [unit, Nat.pow_add, Nat.mul_assoc]
  have represented : wide.Represents (value.units * 2 ^ extra) :=
    ((narrow.represents_unitsOfRank value.rank).mono
      within.fraction).mul_two_pow extra
  obtain ⟨rank, found⟩ := represented.exists_rank
  have bounded : rank < wide.magnitudes := by
    rw [rank_lt_magnitudes_iff, found]
    have below := (narrow.rank_lt_magnitudes_iff value.rank).mp value.rank_lt
    have range := within.range
    rw [unit, Nat.add_sub_cancel] at range
    calc
      value.units * 2 ^ extra
          < 2 ^ (narrow.fractionBits + (narrow.exponentFields - 1)) *
            2 ^ extra :=
        Nat.mul_lt_mul_of_pos_right below (Nat.two_pow_pos _)
      _ ≤ _ := by
        rw [← Nat.pow_add]
        exact Nat.pow_le_pow_right (by decide) range
  refine ⟨⟨value.negative, rank, bounded⟩, ?_, rfl, ?_⟩
  · refine ofUnits_eq_finite ⟨value.negative, rank, bounded⟩ ?_
    rw [Nat.pow_eq, Nat.pow_eq, scaled, rankOfUnits_mul _ _ (Nat.two_pow_pos _),
      ← found, rankOfUnits_unitsOfRank]
  · rw [scaled]
    exact congrArg (· * 2 ^ narrow.unitExponent) found

/-- A number taken to a wider format and back is the same number. -/
theorem convert_convert (within : Within narrow wide) (value : Binary narrow) :
    (value.convert wide).convert narrow = value := by
  cases value with
  | nan => rfl
  | infinite negative => rfl
  | finite value =>
      obtain ⟨widened, converted, sign, units⟩ := exists_convert_eq within value
      rw [converted, convert, sign]
      refine ofUnits_eq_finite value ?_
      rw [Nat.pow_eq, Nat.pow_eq, units,
        rankOfUnits_mul _ _ (Nat.two_pow_pos _), Finite.units,
        rankOfUnits_unitsOfRank]

/-- A number is finite in a wider format if it is so in the narrow one. -/
theorem isFinite_convert (within : Within narrow wide) (value : Binary narrow) :
    (value.convert wide).isFinite = value.isFinite := by
  cases value with
  | nan => rfl
  | infinite negative => rfl
  | finite value =>
      obtain ⟨widened, converted, _⟩ := exists_convert_eq within value
      rw [converted]
      rfl

end Binary
end PromptTuning

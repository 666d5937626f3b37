import PromptTuning.Proofs.Binary.Widening

/-!
# Rounding an integer to a narrower format

An integer that is taken to one format and from there to another is rounded
twice. If the first format has all its digits, the first rounding is exact and
the number is the nearest one of the second format.
-/

namespace PromptTuning
namespace BinaryFormat

/-- An integer is a number of a format: nothing of it is rounded away. -/
def Holds (format : BinaryFormat) (value : Int) : Prop :=
  format.nearestWhole value.natAbs = value.natAbs

end BinaryFormat

namespace Binary

open BinaryFormat

/-- An integer of 64 bits that a double holds is rounded once on its way to
another format. -/
theorem convert_ofInt
    {value : Int}
    (held : BinaryFormat.double.Holds value)
    (bounded : value.natAbs ≤ 2 ^ 64)
    (target : BinaryFormat) :
    (ofInt value : Double).convert target = ofInt value := by
  have units := BinaryFormat.double.unitsOfRank_rankOfUnits_whole value.natAbs
  rw [held] at units
  have finite : BinaryFormat.double.rankOfUnits
      (value.natAbs * 2 ^ BinaryFormat.double.unitExponent) 1 <
    BinaryFormat.double.magnitudes := by
    rw [rank_lt_magnitudes_iff, units]
    refine (Nat.mul_le_mul_right _ bounded).trans_lt ?_
    rw [← Nat.pow_add]
    exact Nat.pow_lt_pow_right (by decide) (by decide)
  have rounded :
      (ofInt value : Double) = .finite ⟨decide (value < 0), _, finite⟩ := by
    rw [ofInt, ofRatio, ofUnits, Nat.pow_eq, dif_pos finite]
  have rank : target.rankOfUnits
      (value.natAbs * 2 ^ BinaryFormat.double.unitExponent *
        2 ^ target.unitExponent)
        (2 ^ BinaryFormat.double.unitExponent) =
      target.rankOfUnits (value.natAbs * 2 ^ target.unitExponent) 1 := by
    rw [Nat.mul_right_comm, rankOfUnits_mul _ _ (Nat.two_pow_pos _)]
  rw [rounded, convert, Finite.units, units, ofInt, ofRatio]
  simp only [ofUnits, Nat.pow_eq, rank]

end Binary
end PromptTuning

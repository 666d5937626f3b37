import PromptTuning.Variable.Basic

/-!
# Ranking by reward

Items are ranked by reward, the highest first and unscored items last, and items
that do not outrank one another keep their order. Ranking inserts the items one
by one into the list of those before them.

A reward that is not a number neither outranks a number nor is outranked by one,
so with such rewards the comparison may fail to order the items. Where it does,
nothing is said about their order: a ranking is any rearrangement that is the
stable one wherever the comparison orders the items.
-/

namespace PromptTuning

/-- Whether a reward places an item strictly before another. -/
def outranks : Option Double -> Option Double -> Bool
  | some left, some right => right.lt left
  | some _, none => true
  | none, _ => false

section

variable {α : Type}

/-- Insert an item into a ranked list kept last first, past the items
it outranks. -/
def insertRanked (reward : α -> Option Double) (item : α) : List α -> List α
  | [] => [item]
  | last :: earlier =>
      if outranks (reward item) (reward last) then
        last :: insertRanked reward item earlier
      else item :: last :: earlier

/-- The items ranked by reward. -/
def rankByReward (reward : α -> Option Double) (items : List α) : List α :=
  (items.foldl (fun ranked item => insertRanked reward item ranked) []).reverse

/-- The best items by reward, as many as asked for. -/
def topRanked (reward : α -> Option Double) (count : Nat) (items : List α) :
    List α :=
  (rankByReward reward items).take count

/-- The comparison by reward orders the items: an item that a second one
does not outrank, which a third one does not outrank, is not outranked
by the third. -/
def Ordered (reward : α -> Option Double) (items : List α) : Prop :=
  ∀ first ∈ items, ∀ second ∈ items, ∀ third ∈ items,
    outranks (reward second) (reward first) = false ->
    outranks (reward third) (reward second) = false ->
    outranks (reward third) (reward first) = false

/-- An item is inserted beside the items that are there. -/
theorem insertRanked_perm
    {reward : α -> Option Double}
    (item : α)
    (ranked : List α) :
    (insertRanked reward item ranked).Perm (item :: ranked) := by
  induction ranked with
  | nil => exact .refl _
  | cons last earlier inductionHypothesis =>
      unfold insertRanked
      split
      · exact (inductionHypothesis.cons last).trans (.swap item last earlier)
      · exact .refl _

/-- The items inserted into a ranked list one by one are all there
in the end. -/
theorem foldl_insertRanked_perm
    (reward : α -> Option Double)
    (items ranked : List α) :
    (items.foldl (fun ranked item => insertRanked reward item ranked)
      ranked).Perm
      (items ++ ranked) := by
  induction items generalizing ranked with
  | nil => exact .refl _
  | cons item items inductionHypothesis =>
      calc
        List.Perm _ (items ++ insertRanked reward item ranked) :=
          inductionHypothesis _
        List.Perm _ (items ++ item :: ranked) :=
          (insertRanked_perm item ranked).append_left items
        List.Perm _ (item :: items ++ ranked) := List.perm_middle

/-- Ranking neither loses nor doubles an item. -/
theorem rankByReward_perm {reward : α -> Option Double} (items : List α) :
    (rankByReward reward items).Perm items := by
  have inserted := foldl_insertRanked_perm reward items []
  rw [List.append_nil] at inserted
  exact (List.reverse_perm _).trans inserted

/-- A way to rank items by reward: no item is lost or doubled, and items that
the comparison orders are ranked in their stable order. -/
structure Ranking (reward : α -> Option Double) where
  rank : List α -> List α
  perm : ∀ items, (rank items).Perm items
  stable :
    ∀ items, Ordered reward items -> rank items = rankByReward reward items

namespace Ranking

variable {reward : α -> Option Double}

/-- The ranking that inserts the items one by one, whatever their rewards. -/
def insertion : Ranking reward where
  rank := rankByReward reward
  perm := rankByReward_perm
  stable _ _ := rfl

/-- The best items of a ranking, as many as asked for. -/
def top (ranking : Ranking reward) (count : Nat) (items : List α) : List α :=
  (ranking.rank items).take count

end Ranking

end

end PromptTuning

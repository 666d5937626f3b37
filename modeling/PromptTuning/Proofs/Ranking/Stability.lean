import Mathlib.Data.List.Induction
import PromptTuning.Ranking

/-!
# The ranking of a list

Items carry their positions along while they are ranked. Where every reward is a
number, the reward and, among tied rewards, the position tell any two items
apart, so there is only one arrangement in which rewards never increase,
unscored items come last and ties keep their order, and ranking finds it. The
best items are the first of this arrangement, whichever ranking chooses them.
-/

namespace PromptTuning

variable {α β : Type}

/-- Where a reward stands on the number line; an absent one has no
place there. -/
def standing (reward : Option Double) : Option Int :=
  reward.bind Binary.place?

/-- One standing is below another. What has no place is below all places. -/
def Below : Option Int -> Option Int -> Prop
  | some first, some second => first < second
  | none, some _ => True
  | _, none => False

/-- Items together with their positions in a list, arranged by reward: they are
the items of the list, rewards never increase, unscored items come after scored
ones, and ties keep their order. -/
structure Arranged
    (reward : α -> Option Double)
    (items : List α)
    (arranged : List (α × Nat)) : Prop where
  rearranged : arranged.Perm items.zipIdx
  descending : arranged.Pairwise fun earlier later =>
    ∀ first second, reward earlier.1 = some first ->
      reward later.1 = some second ->
      second.le first = true
  scoredFirst : arranged.Pairwise fun earlier later =>
    reward earlier.1 = none -> reward later.1 = none
  stable : arranged.Pairwise fun earlier later =>
    sameReward (reward earlier.1) (reward later.1) = true -> earlier.2 < later.2

/-- The first reward is no lower than the second, which may be absent. -/
def NoLower (first second : Option Double) : Prop :=
  ∀ value, second = some value ->
    ∃ better, first = some better ∧ value.le better = true

/-- An item stands higher than another, or as high and at an
earlier position. -/
def Precedes (reward : α -> Option Double) (earlier later : α × Nat) : Prop :=
  Below (standing (reward later.1)) (standing (reward earlier.1)) ∨
    standing (reward later.1) = standing (reward earlier.1) ∧
    earlier.2 < later.2

namespace Below

variable {first second third : Option Int}

theorem trans (left : Below first second) (right : Below second third) :
    Below first third := by
  cases first <;> cases second <;> cases third <;> simp only [Below] at *
  omega

/-- No place is below itself. -/
theorem irrefl (place : Option Int) : ¬Below place place := by
  cases place <;> simp [Below]

/-- No two places are below each other. -/
theorem asymm (left : Below first second) : ¬Below second first :=
  fun right => irrefl _ (left.trans right)

/-- Of two standings the one that is not below the other is above it, or they
are the same. -/
theorem of_not_below (level : ¬Below first second) :
    Below second first ∨ second = first := by
  cases first <;> cases second <;> simp only [Below] at * <;> grind

/-- What is not below something that is not below a third thing is not
below the third. -/
theorem not_trans (left : ¬Below first second) (right : ¬Below second third) :
    ¬Below first third := by
  intro lower
  obtain above | rfl := of_not_below right
  · exact left (lower.trans above)
  · exact left lower

end Below

/-- A reward that is a number has a place. -/
theorem exists_place? {number : Double} (proper : some number ≠ some .nan) :
    ∃ place, number.place? = some place := by
  cases number with
  | nan => contradiction
  | infinite negative => exact ⟨_, rfl⟩
  | finite value => exact ⟨_, rfl⟩

/-- Among rewards that are numbers, one outranks the other if it
stands higher. -/
theorem outranks_iff
    {first second : Option Double}
    (firstNumber : first ≠ some .nan)
    (secondNumber : second ≠ some .nan) :
    outranks first second = true ↔
    Below (standing second) (standing first) := by
  cases first with
  | none => simp [outranks, standing, Below]
  | some left =>
      obtain ⟨leftPlace, leftFound⟩ := exists_place? firstNumber
      cases second with
      | none => simp [outranks, standing, Below, leftFound]
      | some right =>
          obtain ⟨rightPlace, rightFound⟩ := exists_place? secondNumber
          simp [outranks, standing, Below, leftFound, rightFound, Binary.lt]

/-- What is no lower is not outranked. -/
theorem NoLower.outranks_eq_false {first second : Option Double}
    (high : NoLower first second) :
    outranks second first = false := by
  cases second with
  | none => cases first <;> rfl
  | some value =>
      obtain ⟨better, rfl, above⟩ := high value rfl
      unfold Binary.le at above
      unfold outranks Binary.lt
      split at above <;> simp_all

namespace Precedes

variable {reward : α -> Option Double} {first second third : α × Nat}

/-- What precedes an item precedes all that the item precedes. -/
theorem trans (left : Precedes reward first second)
    (right : Precedes reward second third) :
    Precedes reward first third := by
  obtain higher | ⟨level, before⟩ := left
  · obtain secondHigher | ⟨secondLevel, _⟩ := right
    · exact .inl (secondHigher.trans higher)
    · exact .inl (secondLevel ▸ higher)
  · obtain secondHigher | ⟨secondLevel, secondBefore⟩ := right
    · exact .inl (level ▸ secondHigher)
    · exact .inr ⟨secondLevel.trans level, Nat.lt_trans before secondBefore⟩

/-- No two items precede each other. -/
theorem asymm (left : Precedes reward first second) :
    ¬Precedes reward second first := by
  rintro (higher | ⟨level, before⟩)
  · obtain secondHigher | ⟨secondLevel, _⟩ := left
    · exact higher.asymm secondHigher
    · exact Below.irrefl _ (secondLevel ▸ higher)
  · obtain secondHigher | ⟨_, secondBefore⟩ := left
    · exact Below.irrefl _ (level ▸ secondHigher)
    · exact Nat.lt_asymm before secondBefore

/-- What it means for rewards that are numbers that one item
precedes another. -/
theorem iff_arranged
    (firstNumber : reward first.1 ≠ some .nan)
    (secondNumber : reward second.1 ≠ some .nan) :
    Precedes reward first second ↔
      (∀ left right, reward first.1 = some left ->
        reward second.1 = some right ->
        right.le left = true) ∧
      (reward first.1 = none -> reward second.1 = none) ∧
      (sameReward (reward first.1) (reward second.1) = true ->
        first.2 < second.2) := by
  unfold Precedes
  generalize reward first.1 = left at *
  generalize reward second.1 = right at *
  cases left with
  | none =>
      cases right with
      | none => simp [standing, Below, sameReward]
      | some right =>
          obtain ⟨rightPlace, rightFound⟩ := exists_place? secondNumber
          simp [standing, Below, rightFound]
  | some left =>
      obtain ⟨leftPlace, leftFound⟩ := exists_place? firstNumber
      cases right with
      | none => simp [standing, Below, sameReward, leftFound]
      | some right =>
          obtain ⟨rightPlace, rightFound⟩ := exists_place? secondNumber
          simp [standing, Below, sameReward, leftFound, rightFound, Binary.le]
          omega

end Precedes

section Ranking

variable {reward : α -> Option Double}

/-- Ranking by an observed reward is ranking what is observed. -/
theorem insertRanked_map (observe : β -> α) (item : β) (ranked : List β) :
    (insertRanked (fun other => reward (observe other)) item ranked).map
      observe =
      insertRanked reward (observe item) (ranked.map observe) := by
  induction ranked with
  | nil => rfl
  | cons last earlier inductionHypothesis =>
      rw [insertRanked, List.map_cons, insertRanked]
      split
      · rw [List.map_cons, inductionHypothesis]
      · rfl

/-- An item that outranks none of those before it is put after them. -/
theorem insertRanked_of_not_outranks
    {item : α}
    {ranked : List α}
    (level : ∀ other ∈ ranked, outranks (reward item) (reward other) = false) :
    insertRanked reward item ranked = item :: ranked := by
  cases ranked with
  | nil => rfl
  | cons last earlier =>
      rw [insertRanked, level last List.mem_cons_self,
        if_neg Bool.false_ne_true]

/-- The last of several items is inserted into the ranking of the others. -/
theorem rankByReward_concat (items : List α) (item : α) :
    rankByReward reward (items ++ [item]) =
      (insertRanked reward item
        (rankByReward reward items).reverse).reverse := by
  simp [rankByReward, List.foldl_append]

/-- Whatever items carry along plays no part in their ranking. -/
theorem rankByReward_map (observe : β -> α) (items : List β) :
    (rankByReward (fun other => reward (observe other)) items).map observe =
      rankByReward reward (items.map observe) := by
  induction items using List.reverseRecOn with
  | nil => rfl
  | append_singleton items item inductionHypothesis =>
      rw [List.map_append, List.map_singleton, rankByReward_concat,
        rankByReward_concat, List.map_reverse, insertRanked_map,
        List.map_reverse, inductionHypothesis]

/-- A list in which no item outranks an earlier one is left as it is. -/
theorem rankByReward_of_ordered
    {items : List α}
    (ordered : items.Pairwise fun earlier later =>
      outranks (reward later) (reward earlier) = false) :
    rankByReward reward items = items := by
  induction items using List.reverseRecOn with
  | nil => rfl
  | append_singleton items item inductionHypothesis =>
      obtain ⟨before, _, level⟩ := List.pairwise_append.mp ordered
      rw [rankByReward_concat, inductionHypothesis before,
        insertRanked_of_not_outranks, List.reverse_cons, List.reverse_reverse]
      intro other member
      exact level other (List.mem_reverse.mp member) item
        (List.mem_singleton.mpr rfl)

/-- Inserting an item from a later position than those before it keeps the
order; the ranked items are kept last first. -/
theorem pairwise_insertRanked
    {item : α × Nat}
    {ranked : List (α × Nat)}
    (number : reward item.1 ≠ some .nan)
    (numbers : ∀ other ∈ ranked, reward other.1 ≠ some .nan)
    (positions : ∀ other ∈ ranked, other.2 < item.2)
    (ordered :
      ranked.Pairwise fun later earlier => Precedes reward earlier later) :
    (insertRanked (fun other => reward other.1) item ranked).Pairwise
      fun later earlier => Precedes reward earlier later := by
  induction ranked with
  | nil => exact List.pairwise_singleton _ _
  | cons last earlier inductionHypothesis =>
      obtain ⟨lastNumber, earlierNumbers⟩ := List.forall_mem_cons.mp numbers
      obtain ⟨lastPosition, earlierPositions⟩ :=
        List.forall_mem_cons.mp positions
      obtain ⟨afterEarlier, earlierOrdered⟩ := List.pairwise_cons.mp ordered
      have compared := outranks_iff number lastNumber
      rw [insertRanked]
      split
      case isTrue outranked =>
        refine List.pairwise_cons.mpr
          ⟨?_, inductionHypothesis earlierNumbers earlierPositions
            earlierOrdered⟩
        intro other member
        obtain rfl | member :=
          List.mem_cons.mp ((insertRanked_perm item earlier).mem_iff.mp member)
        · exact .inl (compared.mp outranked)
        · exact afterEarlier other member
      case isFalse level =>
        have afterLast : Precedes reward last item := by
          obtain lower | same := Below.of_not_below (compared.not.mp level)
          · exact .inl lower
          · exact .inr ⟨same, lastPosition⟩
        refine List.pairwise_cons.mpr ⟨?_, ordered⟩
        intro other member
        obtain rfl | member := List.mem_cons.mp member
        · exact afterLast
        · exact (afterEarlier other member).trans afterLast

/-- Items that come in the order of their positions are ranked by reward
and position. -/
theorem pairwise_rankByReward
    {tagged : List (α × Nat)}
    (numbers : ∀ item ∈ tagged, reward item.1 ≠ some .nan)
    (positions : tagged.Pairwise fun earlier later => earlier.2 < later.2) :
    (rankByReward (fun other => reward other.1) tagged).Pairwise
      (Precedes reward) := by
  induction tagged using List.reverseRecOn with
  | nil => exact .nil
  | append_singleton tagged item inductionHypothesis =>
      obtain ⟨numbersBefore, numberLast⟩ := List.forall_mem_append.mp numbers
      obtain ⟨positionsBefore, _, increasing⟩ :=
        List.pairwise_append.mp positions
      have member {other : α × Nat}
          (ranked : other ∈
            (rankByReward (fun other => reward other.1) tagged).reverse) :
          other ∈ tagged :=
        (rankByReward_perm tagged).mem_iff.mp (List.mem_reverse.mp ranked)
      rw [rankByReward_concat, List.pairwise_reverse]
      apply pairwise_insertRanked (numberLast item (List.mem_singleton.mpr rfl))
      · exact fun other ranked => numbersBefore other (member ranked)
      · exact fun other ranked =>
          increasing other (member ranked) item (List.mem_singleton.mpr rfl)
      · exact List.pairwise_reverse.mpr
          (inductionHypothesis numbersBefore positionsBefore)

/-- The comparison orders items whose rewards are numbers. -/
theorem ordered_of_numbers
    {items : List α}
    (numbers : ∀ item ∈ items, reward item ≠ some .nan) :
    Ordered reward items := by
  intro first firstMember second secondMember third thirdMember left right
  have firstNumber := numbers first firstMember
  have secondNumber := numbers second secondMember
  have thirdNumber := numbers third thirdMember
  rw [Bool.eq_false_iff, ne_eq, outranks_iff secondNumber firstNumber] at left
  rw [Bool.eq_false_iff, ne_eq, outranks_iff thirdNumber secondNumber] at right
  rw [Bool.eq_false_iff, ne_eq, outranks_iff thirdNumber firstNumber]
  exact Below.not_trans left right

/-- Where every reward is a number, all rankings choose the same best items. -/
theorem Ranking.top_eq_topRanked
    (ranking : Ranking reward)
    {items : List α}
    (numbers : ∀ item ∈ items, reward item ≠ some .nan)
    (count : Nat) :
    ranking.top count items = topRanked reward count items := by
  rw [Ranking.top, ranking.stable items (ordered_of_numbers numbers), topRanked]

/-- Among numbers, the arrangements of a list are those in which each item
precedes the later ones. -/
theorem arranged_iff
    {items : List α}
    {arranged : List (α × Nat)}
    (numbers : ∀ item ∈ items, reward item ≠ some .nan) :
    Arranged reward items arranged ↔
      arranged.Perm items.zipIdx ∧ arranged.Pairwise (Precedes reward) := by
  have compare (rearranged : arranged.Perm items.zipIdx)
      {first second : α × Nat}
      (firstMember : first ∈ arranged) (secondMember : second ∈ arranged) :=
    Precedes.iff_arranged
      (numbers first.1
        (List.fst_mem_of_mem_zipIdx (rearranged.mem_iff.mp firstMember)))
      (numbers second.1
        (List.fst_mem_of_mem_zipIdx (rearranged.mem_iff.mp secondMember)))
  constructor
  · rintro ⟨rearranged, descending, scoredFirst, stable⟩
    refine ⟨rearranged, ?_⟩
    refine (descending.and (scoredFirst.and stable)).imp_of_mem ?_
    intro first second firstMember secondMember parts
    exact (compare rearranged firstMember secondMember).mpr parts
  · rintro ⟨rearranged, ordered⟩
    have parts := ordered.imp_of_mem fun firstMember secondMember precedes =>
      (compare rearranged firstMember secondMember).mp precedes
    exact ⟨rearranged, parts.imp (·.1), parts.imp (·.2.1), parts.imp (·.2.2)⟩

/-- There is only one arrangement of a list. -/
theorem Arranged.unique
    {items : List α}
    {arranged other : List (α × Nat)}
    (numbers : ∀ item ∈ items, reward item ≠ some .nan)
    (first : Arranged reward items arranged)
    (second : Arranged reward items other) :
    arranged = other := by
  obtain ⟨rearranged, ordered⟩ := (arranged_iff numbers).mp first
  obtain ⟨otherRearranged, otherOrdered⟩ := (arranged_iff numbers).mp second
  exact (rearranged.trans otherRearranged.symm).eq_of_pairwise
    (fun _ _ _ _ precedes follows => absurd follows precedes.asymm)
    ordered otherOrdered

/-- The ranking of a list is its arrangement, without the positions. -/
theorem exists_arranged
    {items : List α}
    (numbers : ∀ item ∈ items, reward item ≠ some .nan) :
    ∃ arranged, Arranged reward items arranged ∧
      arranged.map Prod.fst = rankByReward reward items := by
  refine ⟨rankByReward (fun item => reward item.1) items.zipIdx, ?_, ?_⟩
  · refine (arranged_iff numbers).mpr
      ⟨rankByReward_perm _, pairwise_rankByReward ?_ ?_⟩
    · exact fun item member =>
        numbers item.1 (List.fst_mem_of_mem_zipIdx member)
    · rw [← List.pairwise_map, List.zipIdx_map_snd]
      exact List.pairwise_lt_range'
  · rw [rankByReward_map, List.zipIdx_map_fst]

/-- In an arrangement no item is lower than a later one. -/
theorem Arranged.pairwise_noLower
    {items : List α}
    {arranged : List (α × Nat)}
    (arranges : Arranged reward items arranged) :
    (arranged.map Prod.fst).Pairwise fun earlier later =>
      NoLower (reward earlier) (reward later) := by
  rw [List.pairwise_map]
  refine (arranges.descending.and arranges.scoredFirst).imp ?_
  rintro earlier later ⟨descends, scored⟩ value present
  cases found : reward earlier.1 with
  | none => simp [scored found] at present
  | some better => exact ⟨better, rfl, descends better value found present⟩

/-- Where every reward is a number, a list is ranked in the one order in which
rewards never increase, unscored items come last and ties keep their order.
Ranking again changes nothing, and the best items are the first ones, as many as
asked for and there are. -/
theorem rankByReward_only_stable_order
    {items : List α}
    (numbers : ∀ item ∈ items, reward item ≠ some .nan) :
    (rankByReward reward items).Perm items ∧
      (∃ arranged, Arranged reward items arranged ∧
        arranged.map Prod.fst = rankByReward reward items ∧
        ∀ other, Arranged reward items other -> other = arranged) ∧
      rankByReward reward (rankByReward reward items) =
        rankByReward reward items ∧
      ∀ count, ∃ left,
        rankByReward reward items = topRanked reward count items ++ left ∧
        (topRanked reward count items).length = min count items.length ∧
        ∀ chosen ∈ topRanked reward count items, ∀ other ∈ left,
          NoLower (reward chosen) (reward other) := by
  have rearranged : (rankByReward reward items).Perm items :=
    rankByReward_perm items
  obtain ⟨arranged, arranges, ranking⟩ := exists_arranged numbers
  have ordered := arranges.pairwise_noLower
  rw [ranking] at ordered
  refine ⟨rearranged, ⟨arranged, arranges, ranking, ?_⟩, ?_, ?_⟩
  · exact fun other otherArranges =>
      Arranged.unique numbers otherArranges arranges
  · exact rankByReward_of_ordered (ordered.imp NoLower.outranks_eq_false)
  · intro count
    have parts := (List.take_append_drop count (rankByReward reward items)).symm
    refine ⟨_, parts, ?_, ?_⟩
    · rw [topRanked, List.length_take, rearranged.length_eq]
    · rw [parts] at ordered
      exact (List.pairwise_append.mp ordered).2.2

end Ranking

/-- Two ties, two unscored items and a reward of minus infinity, of which the
best three are asked for. -/
theorem rankByReward_only_stable_order_of_ties :
    let high : Double := .ofDecimal false 8 (-1)
    let items : List Instructions :=
      [⟨"a", [], some high⟩, ⟨"b", [], none⟩, ⟨"c", [], some (.infinite true)⟩,
        ⟨"d", [], some high⟩, ⟨"e", [], none⟩]
    (∀ item ∈ items, item.reward ≠ some .nan) ∧
      (∃ arranged, Arranged Instructions.reward items arranged ∧
        arranged.map (·.1.label) = ["a", "d", "c", "b", "e"] ∧
        ∀ other, Arranged Instructions.reward items other -> other = arranged) ∧
      (topRanked Instructions.reward 3 items).map (·.label) = ["a", "d", "c"] ∧
      (topRanked Instructions.reward 3 items).length = min 3 items.length := by
  intro high items
  have numbers : ∀ item ∈ items, item.reward ≠ some .nan := by decide +kernel
  have labels : (rankByReward Instructions.reward items).map (·.label) =
      ["a", "d", "c", "b", "e"] := by
    decide +kernel
  obtain ⟨_, ⟨arranged, arranges, ranking, only⟩, _, best⟩ :=
    rankByReward_only_stable_order numbers
  obtain ⟨_, _, count, _⟩ := best 3
  refine ⟨numbers, ⟨arranged, arranges, ?_, only⟩, by decide +kernel, count⟩
  rw [← ranking, List.map_map] at labels
  exact labels

end PromptTuning

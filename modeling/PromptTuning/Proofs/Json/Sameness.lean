import Mathlib.Data.List.Perm.Subperm
import PromptTuning.Json.Basic

/-!
# Sameness of JSON values

A value is the same as itself provided that no object within it repeats a key:
the counterpart of a member is looked up by its key, so a second member of one
key would be compared with the first.
-/

namespace PromptTuning

namespace Members

/-- Nothing is found under a name that is no key. -/
theorem lookup_eq_none_iff {members : Members} {name : String} :
    members.lookup name = none ↔ name ∉ members.keys := by
  simp only [List.lookup_eq_none_iff, keys, List.mem_map, bne_iff_ne, ne_eq,
    not_exists, not_and]
  constructor
  · intro other member present same
    exact other member present same.symm
  · intro other member present same
    exact other member present same.symm

/-- Without repeated keys every member is the one that its key leads to. -/
theorem lookup_eq_some_iff_mem {members : Members} (distinct : members.Distinct)
    {name : String} {value : Json} :
    members.lookup name = some value ↔ (name, value) ∈ members := by
  induction members with
  | nil => simp
  | cons member rest inductionHypothesis =>
      obtain ⟨key, first⟩ := member
      obtain ⟨fresh, restDistinct⟩ := List.nodup_cons.mp distinct
      by_cases same : name = key
      · subst same
        have absent : (name, value) ∉ rest := fun present =>
          fresh (List.mem_map.mpr ⟨_, present, rfl⟩)
        rw [List.lookup_cons_self, List.mem_cons]
        constructor
        · intro found
          exact .inl (by rw [Option.some.inj found])
        · intro found
          obtain found | found := found
          · rw [(Prod.mk.inj found).2]
          · exact absurd found absent
      · have different : (name == key) = false := by simpa using same
        rw [List.lookup_cons, different, inductionHypothesis restDistinct,
          List.mem_cons]
        simp [same]

/-- What is found under a name is a member of that name. -/
theorem mem_of_lookup {members : Members} {name : String} {value : Json}
    (found : members.lookup name = some value) : (name, value) ∈ members := by
  induction members with
  | nil => simp at found
  | cons member rest inductionHypothesis =>
      obtain ⟨key, first⟩ := member
      by_cases same : name = key
      · subst same
        rw [List.lookup_cons_self] at found
        rw [Option.some.inj found]
        exact List.mem_cons_self
      · have different : (name == key) = false := by simpa using same
        rw [List.lookup_cons, different] at found
        exact List.mem_cons_of_mem _ (inductionHypothesis found)

end Members

namespace Number

@[simp] theorem same_self (number : Number) : number.same number = true := by
  cases number <;> simp [same]

/-- Sameness of numbers has no direction. -/
theorem same_symm {left right : Number} (agree : left.same right = true) :
    right.same left = true := by
  cases left <;> cases right <;> simp_all [same]

/-- Numbers that are the same as a third one are the same as each other. -/
theorem same_trans
    {first second third : Number}
    (left : first.same second = true)
    (right : second.same third = true) :
    first.same third = true := by
  cases first <;> cases second <;> cases third <;> simp_all [same]

end Number

namespace Json

/-- Members are found among others if each has the same value there
under its key. -/
theorem membersWithin_eq_true_iff {part whole : Members} :
    membersWithin part whole = true ↔
      ∀ key value, (key, value) ∈ part ->
        ∃ other, whole.lookup key = some other ∧ value.same other = true := by
  induction part with
  | nil => simp [membersWithin]
  | cons member rest inductionHypothesis =>
      obtain ⟨key, value⟩ := member
      rw [membersWithin, Bool.and_eq_true, inductionHypothesis]
      constructor
      · rintro ⟨matched, others⟩ name within found
        obtain found | found := List.mem_cons.mp found
        · obtain ⟨rfl, rfl⟩ := Prod.mk.inj found
          cases found : whole.lookup name with
          | none => simp [found] at matched
          | some other => exact ⟨other, rfl, by simpa [found] using matched⟩
        · exact others name within found
      · intro all
        refine ⟨?_,
          fun name within found =>
            all name within (List.mem_cons_of_mem _ found)⟩
        obtain ⟨other, found, matched⟩ := all key value List.mem_cons_self
        simp [found, matched]

/-- The values of members that repeat no key repeat none either. -/
theorem distinct_of_mem {members : Members} (distinct : DistinctMembers members)
    {key : String} {value : Json} (present : (key, value) ∈ members) :
    value.Distinct := by
  induction members with
  | nil => simp at present
  | cons member rest inductionHypothesis =>
      rw [DistinctMembers] at distinct
      obtain rfl | present := List.mem_cons.mp present
      · exact distinct.1
      · exact inductionHypothesis distinct.2 present

mutual

/-- A value without repeated keys is the same as itself. -/
theorem same_self (value : Json) (distinct : value.Distinct) :
    value.same value = true := by
  cases value with
  | null => simp [same]
  | boolean value => simp [same]
  | number value => simp [same]
  | string value => simp [same]
  | array items =>
      rw [same]
      exact sameItems_self items (by rwa [Distinct] at distinct)
  | object members =>
      rw [Distinct] at distinct
      obtain ⟨distinctKeys, distinctValues⟩ := distinct
      rw [same, beq_self_eq_true, Bool.true_and, membersWithin_eq_true_iff]
      intro key value present
      exact ⟨value, (Members.lookup_eq_some_iff_mem distinctKeys).mpr present,
        same_self_of_mem members distinctValues (key, value) present⟩

/-- Items without repeated keys are the same as themselves. -/
theorem sameItems_self (items : List Json) (distinct : DistinctItems items) :
    sameItems items items = true := by
  cases items with
  | nil => simp [sameItems]
  | cons item rest =>
      rw [DistinctItems] at distinct
      rw [sameItems, same_self item distinct.1, sameItems_self rest distinct.2,
        Bool.and_self]

/-- Values of members without repeated keys are the same as themselves. -/
theorem same_self_of_mem (members : Members)
    (distinct : DistinctMembers members) :
    ∀ member ∈ members, member.2.same member.2 = true := by
  cases members with
  | nil => simp
  | cons member rest =>
      obtain ⟨key, value⟩ := member
      rw [DistinctMembers] at distinct
      have first := same_self value distinct.1
      have others := same_self_of_mem rest distinct.2
      simpa [first] using others

end

/-- Objects of one length without repeated keys have the same keys once those of
the first are keys of the second. -/
theorem keys_subset_of_length_eq
    {left right : Members}
    (distinct : left.Distinct)
    (lengths : left.length = right.length)
    (within : ∀ key ∈ left.keys, key ∈ right.keys) :
    ∀ key ∈ right.keys, key ∈ left.keys := by
  have sizes : right.keys.length ≤ left.keys.length := by
    rw [Members.keys, Members.keys, List.length_map, List.length_map]
    exact Nat.le_of_eq lengths.symm
  have permuted := (List.Nodup.subperm distinct within).perm_of_length_le sizes
  exact fun key present => permuted.mem_iff.mpr present

/-- Members that are found among others have keys that are found there. -/
theorem mem_keys_of_membersWithin
    {left right : Members}
    (within : membersWithin left right = true) :
    ∀ key ∈ left.keys, key ∈ right.keys := by
  intro key present
  obtain ⟨⟨_, value⟩, stored, rfl⟩ := List.mem_map.mp present
  obtain ⟨other, found, _⟩ := membersWithin_eq_true_iff.mp within _ _ stored
  by_contra absent
  rw [Members.lookup_eq_none_iff.mpr absent] at found
  contradiction

mutual

/-- Sameness of values without repeated keys is symmetric. -/
theorem same_symm
    (left right : Json)
    (leftDistinct : left.Distinct)
    (rightDistinct : right.Distinct)
    (same : left.same right = true) :
    right.same left = true := by
  cases left with
  | array items =>
      cases right <;> simp only [Json.same, Bool.false_eq_true] at same ⊢
      rename_i others
      rw [Distinct] at leftDistinct rightDistinct
      exact sameItems_symm items others leftDistinct rightDistinct same
  | object members =>
      cases right <;> simp only [Json.same, Bool.false_eq_true] at same ⊢
      rename_i others
      rw [Distinct] at leftDistinct rightDistinct
      rw [Bool.and_eq_true, beq_iff_eq] at same ⊢
      obtain ⟨lengths, within⟩ := same
      refine ⟨lengths.symm, membersWithin_eq_true_iff.mpr ?_⟩
      intro key other present
      have shared := keys_subset_of_length_eq leftDistinct.1 lengths
        (mem_keys_of_membersWithin within) key
        (List.mem_map.mpr ⟨_, present, rfl⟩)
      obtain ⟨⟨_, value⟩, stored, rfl⟩ := List.mem_map.mp shared
      refine ⟨value, (Members.lookup_eq_some_iff_mem leftDistinct.1).mpr stored,
        ?_⟩
      obtain ⟨counterpart, found, agree⟩ :=
        membersWithin_eq_true_iff.mp within _ _ stored
      have unique :=
        (Members.lookup_eq_some_iff_mem rightDistinct.1).mpr present
      rw [found] at unique
      obtain rfl := Option.some.inj unique
      exact same_symm_of_mem members leftDistinct.2 _ stored counterpart
        (distinct_of_mem rightDistinct.2 present) agree
  | null => cases right <;> simp_all [Json.same]
  | boolean value => cases right <;> simp_all [Json.same]
  | number value =>
      cases right <;> simp only [Json.same, Bool.false_eq_true] at same ⊢
      exact Number.same_symm same
  | string value => cases right <;> simp_all [Json.same]

/-- Sameness of items without repeated keys has no direction. -/
theorem sameItems_symm
    (left right : List Json)
    (leftDistinct : DistinctItems left)
    (rightDistinct : DistinctItems right)
    (same : sameItems left right = true) :
    sameItems right left = true := by
  cases left with
  | nil => cases right <;> simp_all [sameItems]
  | cons item rest =>
      cases right with
      | nil => simp [sameItems] at same
      | cons other others =>
          rw [DistinctItems] at leftDistinct rightDistinct
          rw [sameItems, Bool.and_eq_true] at same ⊢
          exact ⟨same_symm item other leftDistinct.1 rightDistinct.1 same.1,
            sameItems_symm rest others leftDistinct.2 rightDistinct.2 same.2⟩

/-- Sameness with values of members without repeated keys has no direction. -/
theorem same_symm_of_mem (members : Members)
    (distinct : DistinctMembers members) :
    ∀ member ∈ members, ∀ other : Json, other.Distinct ->
      member.2.same other = true -> other.same member.2 = true := by
  cases members with
  | nil => simp
  | cons member rest =>
      obtain ⟨key, value⟩ := member
      rw [DistinctMembers] at distinct
      have first := fun other => same_symm value other distinct.1
      have others := same_symm_of_mem rest distinct.2
      simpa using ⟨first, fun name part => others (name, part)⟩

end

mutual

/-- Sameness of values is transitive. -/
theorem same_trans
    (first second third : Json)
    (left : first.same second = true)
    (right : second.same third = true) :
    first.same third = true := by
  cases first with
  | array items =>
      cases second <;> simp only [Json.same, Bool.false_eq_true] at left
      cases third <;> simp only [Json.same, Bool.false_eq_true] at right ⊢
      exact sameItems_trans items _ _ left right
  | object members =>
      cases second <;> simp only [Json.same, Bool.false_eq_true] at left
      cases third <;> simp only [Json.same, Bool.false_eq_true] at right ⊢
      rw [Bool.and_eq_true, beq_iff_eq] at left right ⊢
      refine ⟨left.1.trans right.1, membersWithin_eq_true_iff.mpr ?_⟩
      intro key value present
      obtain ⟨middle, found, agree⟩ :=
        membersWithin_eq_true_iff.mp left.2 key value present
      obtain ⟨last, foundLast, agreeLast⟩ :=
        membersWithin_eq_true_iff.mp right.2 key middle
          (Members.mem_of_lookup found)
      exact ⟨last, foundLast,
        same_trans_of_mem members (key, value) present middle last
          agree agreeLast⟩
  | null =>
      cases second with
      | null => exact right
      | _ => simp [Json.same] at left
  | boolean value =>
      cases second with
      | boolean other =>
          rw [Json.same, beq_iff_eq] at left
          exact left ▸ right
      | _ => simp [Json.same] at left
  | number value =>
      cases second <;> simp only [Json.same, Bool.false_eq_true] at left
      cases third <;> simp only [Json.same, Bool.false_eq_true] at right ⊢
      exact Number.same_trans left right
  | string value =>
      cases second with
      | string other =>
          rw [Json.same, beq_iff_eq] at left
          exact left ▸ right
      | _ => simp [Json.same] at left

/-- Items that are the same as those in the middle are the same as
those beyond. -/
theorem sameItems_trans
    (first second third : List Json)
    (left : sameItems first second = true)
    (right : sameItems second third = true) :
    sameItems first third = true := by
  cases first with
  | nil => cases second <;> simp_all [sameItems]
  | cons item rest =>
      cases second with
      | nil => simp [sameItems] at left
      | cons middle others =>
          cases third with
          | nil => simp [sameItems] at right
          | cons last remaining =>
              rw [sameItems, Bool.and_eq_true] at left right ⊢
              exact ⟨same_trans item middle last left.1 right.1,
                sameItems_trans rest others remaining left.2 right.2⟩

/-- Values of members that are the same as one in the middle are the same as
one beyond. -/
theorem same_trans_of_mem (members : Members) :
    ∀ member ∈ members, ∀ second third : Json, member.2.same second = true ->
      second.same third = true -> member.2.same third = true := by
  cases members with
  | nil => simp
  | cons member rest =>
      obtain ⟨key, value⟩ := member
      have first := fun second third => same_trans value second third
      have others := same_trans_of_mem rest
      simpa using ⟨first, fun name part => others (name, part)⟩

end

end Json

end PromptTuning

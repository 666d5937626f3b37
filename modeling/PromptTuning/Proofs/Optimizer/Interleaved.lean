import PromptTuning.Proofs.Optimizer.Attempt

/-!
# Passes in any order

Passes over different variables may take turns in any order. Each comes to what
it would come to alone, and no more turns are needed than the passes have steps.
-/

namespace PromptTuning.Batch

variable {σ β : Type} {batch : Batch σ}

/-- Where the members of a crew stand that work on some passes, with the turns
that each of them still needs at most. -/
structure AllStand (batch : Batch σ) (jobs : List (batch.Job β))
    (left : Nat -> Nat)
    (crew : Crew σ β) : Prop where
  ready : batch.Ready crew.world
  keys : (crew.world.stores batch.store).keys = jobs.map (·.entry.key)
  size : crew.members.length = jobs.length
  stands : ∀ index job, jobs[index]? = some job -> ∃ count steps rest,
    crew.members[index]? = some (job.owner, .active rest) ∧
      job.Stands crew.world count steps rest ∧ count + steps ≤ left index

namespace AllStand

variable {jobs : List (batch.Job β)} {left : Nat -> Nat} {crew : Crew σ β}

theorem apart_of_ne
    (apart : jobs.Pairwise Job.Apart)
    {index other : Nat}
    {job stranger : batch.Job β}
    (listed : jobs[index]? = some job)
    (listedStranger : jobs[other]? = some stranger)
    (different : index ≠ other) :
    job.Apart stranger := by
  obtain ⟨bound, rfl⟩ := List.getElem?_eq_some_iff.mp listed
  obtain ⟨otherBound, rfl⟩ := List.getElem?_eq_some_iff.mp listedStranger
  rw [List.pairwise_iff_getElem] at apart
  obtain before | after := Nat.lt_or_gt_of_ne different
  · exact apart index other bound otherBound before
  · have := apart other index otherBound bound after
    exact ⟨this.1.symm, this.2.symm⟩

/-- A turn of a member that is through changes nothing, and any other brings it
closer to its end and leaves the others where they stand. -/
theorem take_member
    (stand : batch.AllStand jobs left crew)
    (apart : jobs.Pairwise Job.Apart)
    (turn : Nat) :
    batch.AllStand jobs
      (fun index => left index - if index = turn then 1 else 0)
      (crew.take batch.host (.member turn)) := by
  cases listed : jobs[turn]? with
  | none =>
      have missing : crew.members[turn]? = none := by
        rw [List.getElem?_eq_none_iff, stand.size]
        exact List.getElem?_eq_none_iff.mp listed
      simp only [Crew.take, missing]
      refine { stand with stands := fun index job found => ?_ }
      have other : index ≠ turn := by
        rintro rfl
        rw [listed] at found
        contradiction
      simpa [other] using stand.stands index job found
  | some job =>
      obtain ⟨count, steps, rest, present, stands, fits⟩ :=
        stand.stands turn job listed
      have bound := (List.getElem?_eq_some_iff.mp present).1
      simp only [Crew.take, present]
      by_cases pending : steps = 0
      case pos =>
        -- Nothing is left to do.
        subst pending
        cases stands.shape with
        | acting pending => contradiction
        | through free leaves =>
            have same :
                crew.members.set turn (job.owner, .active (.done job.outcome)) =
                  crew.members := by
              obtain ⟨_, own⟩ := List.getElem?_eq_some_iff.mp present
              rw [← own, List.set_getElem_self]
            simp only [Progress.step, same]
            refine { stand with stands := fun index other found => ?_ }
            by_cases own : index = turn
            · subst own
              obtain rfl := Option.some.inj (listed.symm.trans found)
              exact ⟨0, 0, _, present, stands, Nat.zero_le _⟩
            · simpa [own] using stand.stands index other found
      case neg =>
        obtain ⟨fewer, later, next, after, _, less, stepped, beside, stands⟩ :=
          stands.step stand.ready pending
        simp only [stepped]
        refine ⟨beside.ready stand.ready, beside.store.keys.trans stand.keys,
          by rw [List.length_set]; exact stand.size,
          fun index other found => ?_⟩
        by_cases own : index = turn
        · subst own
          obtain rfl := Option.some.inj (listed.symm.trans found)
          refine ⟨fewer, later, next, List.getElem?_set_self bound, stands, ?_⟩
          rw [if_pos rfl]
          omega
        · obtain ⟨count, steps, rest, present, stands, fits⟩ :=
            stand.stands index other found
          have aside := apart_of_ne apart found listed own
          refine ⟨count, steps, rest, ?_, stands.aside beside aside.1 aside.2,
            ?_⟩
          · rw [List.getElem?_set_ne (Ne.symm own)]
            exact present
          · rw [if_neg own]
            exact fits

/-- The date means nothing to a pass. -/
theorem take_date
    (stand : batch.AllStand jobs left crew)
    (now : Timestamp) :
    batch.AllStand jobs left (crew.take batch.host (.date now)) where
  ready := stand.ready.of_programs_eq rfl
  keys := stand.keys
  size := stand.size
  stands index job found := by
    obtain ⟨count, steps, rest, present, stands, fits⟩ :=
      stand.stands index job found
    exact ⟨count, steps, rest, present, stands.of_stores_eq rfl, fits⟩

theorem mono {more : Nat -> Nat} (stand : batch.AllStand jobs left crew)
    (fits : ∀ index, left index ≤ more index) :
    batch.AllStand jobs more crew where
  ready := stand.ready
  keys := stand.keys
  size := stand.size
  stands index job found := by
    obtain ⟨count, steps, rest, present, stands, enough⟩ :=
      stand.stands index job found
    exact ⟨count, steps, rest, present, stands,
      Nat.le_trans enough (fits index)⟩

/-- Each turn of a member brings it closer to its end, whatever else happens. -/
theorem run
    (stand : batch.AllStand jobs left crew)
    (apart : jobs.Pairwise Job.Apart)
    (turns : List Crew.Turn) :
    batch.AllStand jobs (fun index => left index - turns.count (.member index))
      (crew.run batch.host turns) := by
  induction turns generalizing left crew with
  | nil => exact stand
  | cons turn turns inductionHypothesis =>
      cases turn with
      | member turn =>
          refine (inductionHypothesis
            (stand.take_member apart turn)).mono fun index => ?_
          rw [List.count_cons]
          by_cases own : index = turn
          · subst own
            simp
            omega
          · have other : turn ≠ index := Ne.symm own
            simp [own, other]
      | date now =>
          refine (inductionHypothesis (stand.take_date now)).mono fun index =>
            ?_
          simp

/-- All members begin. -/
theorem begin
    {world : World σ}
    (waits : batch.AllWait (jobs.map (·.toPlan)) world) :
    batch.AllStand jobs (fun _ => Optimizer.questionsOf batch.program + 6)
      ⟨world, jobs.map fun job => (job.owner, .active job.body)⟩ where
  ready := waits.ready
  keys := by
    rw [waits.keys, List.map_map]
    rfl
  size := List.length_map _
  stands index job found := by
    have listed : job.toPlan ∈ jobs.map (·.toPlan) :=
      List.mem_map_of_mem (List.mem_of_getElem? found)
    refine ⟨job.count, 6, job.body, ?_, .begun (waits.waits _ listed), ?_⟩
    · simp [found]
    · have := job.fits
      omega

/-- A member that is done has the outcome of its pass. -/
theorem of_outcome?
    (stand : batch.AllStand jobs left crew)
    {index : Nat}
    {job : batch.Job β}
    {member : Owner × Progress β}
    {outcome : β}
    (listed : jobs[index]? = some job)
    (present : crew.members[index]? = some member)
    (done : member.2.outcome? = some outcome) :
    outcome = job.outcome ∧
      (crew.world.stores batch.store).IsFree job.entry.key ∧
      job.Leaves crew.world := by
  obtain ⟨count, steps, rest, own, stands, _⟩ := stand.stands index job listed
  obtain rfl := Option.some.inj (own.symm.trans present)
  cases stands.shape with
  | through free leaves => exact ⟨(Option.some.inj done).symm, free, leaves⟩
  | acting pending acts => cases rest <;> contradiction
  | asking => contradiction

/-- When all members are done, each has the outcome of its pass and left what
the pass leaves. -/
theorem of_outcomes?
    {outcomes : List β}
    (stand : batch.AllStand jobs left crew)
    (done : crew.outcomes? = some outcomes) :
    outcomes = jobs.map (·.outcome) ∧
    batch.Settled (jobs.map (·.toPlan)) crew.world := by
  obtain ⟨size, each⟩ :=
    List.forall₂_iff_get.mp (Crew.outcomes?_eq_some.mp done)
  have settled (index : Nat) (job : batch.Job β)
      (listed : jobs[index]? = some job) :
          outcomes[index]? = some job.outcome ∧
            (crew.world.stores batch.store).IsFree job.entry.key ∧
            job.Leaves crew.world := by
        have bound : index < crew.members.length :=
          stand.size ▸ (List.getElem?_eq_some_iff.mp listed).1
        have outcomeBound : index < outcomes.length := size ▸ bound
        obtain ⟨same, free, leaves⟩ :=
          stand.of_outcome? listed (List.getElem?_eq_getElem bound)
            (each index bound outcomeBound)
        exact ⟨(List.getElem?_eq_getElem outcomeBound).trans
          (congrArg some same), free, leaves⟩
  refine ⟨List.ext_getElem? fun index => ?_, stand.ready, ?_, ?_, ?_⟩
  · rw [List.getElem?_map]
    cases listed : jobs[index]? with
    | some job => exact (settled index job listed).1
    | none =>
        rw [List.getElem?_eq_none_iff] at listed
        rw [Option.map_none, List.getElem?_eq_none_iff, ← size, stand.size]
        exact listed
  · rw [stand.keys, List.map_map]
    rfl
  all_goals
    intro plan planned
    obtain ⟨job, listed, rfl⟩ := List.mem_map.mp planned
    obtain ⟨index, found⟩ := List.mem_iff_getElem?.mp listed
    obtain ⟨_, free, leaves⟩ := settled index job found
    assumption

/-- Members that need no more turns are done. -/
theorem outcomes?_eq_some
    (stand : batch.AllStand jobs left crew)
    (spent : ∀ index < jobs.length, left index = 0) :
    crew.outcomes? = some (jobs.map (·.outcome)) := by
  rw [Crew.outcomes?_eq_some, List.forall₂_iff_get]
  refine ⟨by rw [List.length_map, stand.size], fun index bound _ => ?_⟩
  have within : index < jobs.length := stand.size ▸ bound
  obtain ⟨count, steps, rest, present, stands, fits⟩ :=
    stand.stands index jobs[index] (List.getElem?_eq_getElem within)
  rw [spent index within] at fits
  obtain ⟨_, own⟩ := List.getElem?_eq_some_iff.mp present
  obtain ⟨rfl, rfl⟩ : count = 0 ∧ steps = 0 := by omega
  cases stands.shape with
  | acting pending => contradiction
  | through => simp [List.get_eq_getElem, own, Progress.outcome?]

end AllStand
end PromptTuning.Batch

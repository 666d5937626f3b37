import PromptTuning.Proofs.Trainer.Completing

/-!
# What observers hear of an epoch

Every observer hears that an epoch begins, then in some order of each variable
that was optimized, skipped or failed, and then that the epoch ends. An observer
that fails at an event still hears of the next one, and neither the others nor
the report nor the stored variables know of its failure.
-/

namespace PromptTuning

variable {σ : Type}

/-- The kind of event that tells observers of an outcome. -/
def Outcome.eventKind? : Outcome -> Option EventKind
  | .optimized _ => some .optimized
  | .noop => none
  | .skipped _ | .failed _ => some .skipped

theorem Outcome.map_kind_event? (number : Nat) (key : String)
    (outcome : Outcome) :
    (outcome.event? number key).map (·.kind) = outcome.eventKind? := by
  cases outcome <;> rfl

theorem Outcome.subject_of_event?
    {number : Nat}
    {key : String}
    {outcome : Outcome}
    {event : Event}
    (told : outcome.event? number key = some event) :
    event.subject = some key := by
  cases outcome with
  | noop => contradiction
  | _ =>
      obtain rfl := Option.some.inj told
      rfl

namespace EpochReport

/-- The events about the variables of a report, in storage order. -/
def events (report : EpochReport) : List Event :=
  report.outcomes.filterMap fun (key, outcome) =>
    outcome.event? report.epoch key

/-- What observers hear of the variables of a report: the events about them in
some order, and of each variable what its outcome calls for. -/
structure Heard (report : EpochReport) (told : List Event) : Prop where
  events : told.Perm report.events
  kinds : ∀ key outcome, (key, outcome) ∈ report.outcomes ->
    (told.filter (·.subject == some key)).map (·.kind) =
      outcome.eventKind?.toList

theorem events_cons
    (number : Nat)
    (reward : Double)
    (key : String)
    (outcome : Outcome)
    (outcomes : List (String × Outcome)) :
    events ⟨number, reward, (key, outcome) :: outcomes⟩ =
      (outcome.event? number key).toList ++
      events ⟨number, reward, outcomes⟩ := by
  simp only [events, List.filterMap_eq_flatMap_toList, List.flatMap_cons]

/-- Nothing is told about a key that is not reported. -/
theorem filter_events_of_not_mem
    {number : Nat}
    {reward : Double}
    {key : String}
    {outcomes : List (String × Outcome)}
    (absent : key ∉ outcomes.map (·.1)) :
    (events ⟨number, reward, outcomes⟩).filter (·.subject == some key) =
      [] := by
  rw [List.filter_eq_nil_iff]
  intro event told
  obtain ⟨⟨other, outcome⟩, listed, about⟩ := List.mem_filterMap.mp told
  rw [outcome.subject_of_event? about, beq_iff_eq, Option.some.injEq]
  rintro rfl
  exact absent (List.mem_map_of_mem listed)

/-- A variable that is reported once is told of as its outcome calls for. -/
theorem filter_events
    {number : Nat}
    {reward : Double}
    {key : String}
    {outcome : Outcome}
    {outcomes : List (String × Outcome)}
    (distinct : (outcomes.map (·.1)).Nodup)
    (listed : (key, outcome) ∈ outcomes) :
    (events ⟨number, reward, outcomes⟩).filter (·.subject == some key) =
      (outcome.event? number key).toList := by
  induction outcomes with
  | nil => contradiction
  | cons first outcomes inductionHypothesis =>
      obtain ⟨other, became⟩ := first
      obtain ⟨fresh, distinct⟩ := List.nodup_cons.mp distinct
      rw [events_cons, List.filter_append]
      obtain same | later := List.mem_cons.mp listed
      · obtain ⟨rfl, rfl⟩ := Prod.mk.inj same
        rw [filter_events_of_not_mem fresh, List.append_nil,
          List.filter_eq_self]
        intro event told
        rw [beq_iff_eq]
        exact outcome.subject_of_event? (Option.mem_toList.mp told)
      · have different : other ≠ key := by
          rintro rfl
          exact fresh (List.mem_map.mpr ⟨_, later, rfl⟩)
        have elsewhere :
            (became.event? number other).toList.filter (·.subject == some key) =
              [] := by
          rw [List.filter_eq_nil_iff]
          intro event told
          rw [became.subject_of_event? (Option.mem_toList.mp told), beq_iff_eq,
            Option.some.injEq]
          exact different
        rw [elsewhere, List.nil_append]
        exact inductionHypothesis distinct later

/-- Who hears the events about distinct variables in some order hears of each
what is to be told. -/
theorem Heard.of_perm
    {report : EpochReport}
    {told : List Event}
    (distinct : (report.outcomes.map (·.1)).Nodup)
    (events : told.Perm report.events) :
    report.Heard told where
  events := events
  kinds key outcome listed := by
    have about := (events.filter (·.subject == some key)).map (·.kind)
    rw [@filter_events report.epoch report.reward key outcome report.outcomes
      distinct listed,
      ← Option.toList_map, outcome.map_kind_event?] at about
    cases kind : outcome.eventKind? with
    | none =>
        rw [kind] at about
        exact List.perm_nil.mp about
    | some kind' =>
        rw [kind] at about
        exact List.perm_singleton.mp about

/-- The events about variables name keys of the report, in its order. -/
theorem subjects_events_sublist (report : EpochReport) :
    (report.events.map (·.subject)).Sublist
      ((report.outcomes.map (·.1)).map some) := by
  obtain ⟨number, reward, outcomes⟩ := report
  induction outcomes with
  | nil => exact .slnil
  | cons first outcomes inductionHypothesis =>
      obtain ⟨key, outcome⟩ := first
      rw [events_cons]
      cases about : outcome.event? number key with
      | none => exact .cons _ inductionHypothesis
      | some event =>
          have same : event.subject = some key :=
            outcome.subject_of_event? about
          simp only [List.map_cons, ← same]
          exact .cons_cons _ inductionHypothesis

/-- Nothing is told twice in an epoch, so who answers to events may fail at any
of them alone. -/
theorem Heard.nodup
    {report : EpochReport}
    {told : List Event}
    (heard : report.Heard told)
    (distinct : (report.outcomes.map (·.1)).Nodup) :
    (beginEvent report.epoch report.reward :: told ++
      [report.endEvent]).Nodup := by
  have subjects := heard.events.map (·.subject)
  have distinctSubjects : (told.map (·.subject)).Nodup :=
    subjects.nodup_iff.mpr (report.subjects_events_sublist.nodup
      (distinct.map fun _ _ => Option.some.inj))
  have named : none ∉ told.map (·.subject) := by
    intro listed
    obtain ⟨item, _, same⟩ := List.mem_map.mp
      (report.subjects_events_sublist.subset (subjects.mem_iff.mp listed))
    contradiction
  have apart (event : Event) (nobody : event.subject = none) :
      event ∉ told := by
    intro listed
    exact named (nobody ▸ List.mem_map_of_mem listed)
  have different :
      beginEvent report.epoch report.reward ≠ report.endEvent :=
    fun same => absurd (congrArg (·.kind) same)
      (by decide : EventKind.epochBegin ≠ .epochEnd)
  rw [List.cons_append]
  refine List.nodup_cons.mpr
    ⟨?_, List.nodup_append.mpr ⟨.of_map _ distinctSubjects,
      List.nodup_singleton _, ?_⟩⟩
  · rw [List.mem_append, List.mem_singleton]
    rintro (listed | same)
    · exact apart _ rfl listed
    · exact different same
  · rintro event listed _ last rfl
    exact apart _ (List.mem_singleton.mp last ▸ rfl) listed

end EpochReport

namespace Trainer

theorem silent_finalizeAll (trainer : Trainer) (keys : List String) :
    (trainer.finalizeAll keys).Silent := by
  induction keys with
  | nil => exact .done
  | cons key keys inductionHypothesis =>
      have silent : (Optimizer.finalizeStored trainer.store key).Silent := by
        refine .withLock (.act rfl fun found => ?_)
        cases found with
        | none => exact .done
        | some entry => exact .act rfl fun _ => .done
      exact silent.bind fun _ => inductionHypothesis

/-- An epoch comes to the same whatever its observers answer. -/
theorem blind_runEpoch
    (trainer : Trainer)
    (host : ModelHost σ)
    (limit number : Nat)
    (reward : Double) :
    World.Blind (trainer.runEpoch host limit number reward).run.run := by
  unfold runEpoch
  split
  · exact Run.blind_pure _
  refine Run.blind_bind (Run.blind_activity host limit _) fun _ => ?_
  refine Run.blind_bind (Run.blind_activity host limit _) fun keys => ?_
  refine Run.blind_get_bind (fun _ _ => rfl) fun world => ?_
  refine Run.blind_bind (Run.blind_sideBySide host limit _ _) fun outcomes => ?_
  split
  · refine Run.blind_bind (Run.blind_activity host limit _) fun _ => ?_
    exact Run.blind_bind (Run.blind_activity host limit _) fun _ =>
      Run.blind_pure _
  · exact Run.blind_bind (Run.blind_activity host limit _) fun _ =>
      Run.blind_pure _

variable {trainer : Trainer} {host : ModelHost σ} {limit number : Nat}
  {reward : Double} {world after : World σ}

/-- What ends an epoch tells observers nothing. -/
theorem silent_close (trainer : Trainer) (keys : List String) :
    (trainer.close keys).Silent := by
  unfold close
  split
  · exact trainer.silent_finalizeAll keys
  · exact .done

/-- The passes of an epoch have an outcome each, and observers are told of these
in some order. -/
theorem hear_passes
    {keys : List String}
    {clock waits : Nat}
    {outcomes : List Outcome}
    (ran : (Run.sideBySide host limit waits (keys.zipIdx.map fun item =>
      trainer.passTask clock number reward item.1 item.2)).run.run world =
        (some outcomes, after)) :
    outcomes.length = keys.length ∧
      ∃ told, after.observers = world.observers.hear told ∧
        told.Perm (EpochReport.events ⟨number, reward, keys.zip outcomes⟩) := by
  let event? (key : String) (outcome : Outcome) : Option Event :=
    outcome.event? number key
  have announce : List.Forall₂ (fun event? task => Task.Announces task event?)
      (keys.zipIdx.map fun item => event? item.1)
      (keys.zipIdx.map fun item =>
        trainer.passTask clock number reward item.1 item.2) := by
    rw [List.forall₂_map_left_iff, List.forall₂_map_right_iff,
      List.forall₂_same]
    exact fun item _ =>
      trainer.announces_passTask clock number reward item.1 item.2
  have keyed : (keys.zipIdx.map fun item => event? item.1) = keys.map event? :=
    calc (keys.zipIdx.map fun item => event? item.1)
        = (keys.zipIdx.map (·.1)).map event? := by
          rw [List.map_map]
          rfl
      _ = keys.map event? :=
        congrArg (List.map event?) (List.zipIdx_map_fst 0 keys)
  obtain ⟨counted, told, heard, same⟩ := Task.announced_runAll announce ran
  rw [keyed] at counted same
  refine ⟨counted.trans (List.length_map _), told, heard, ?_⟩
  rw [Task.announced, List.zip_map_left, List.filterMap_map] at same
  exact same

/-- An epoch that ends with a report has told observers that it begins, of its
variables in some order, and that it ends. -/
theorem hear_runEpoch
    {result : Except TrainerError EpochReport}
    (valid : isValidReward reward = true)
    (ran : (trainer.runEpoch host limit number reward).run.run world =
      (some result, after)) :
    ∃ report told, result = .ok report ∧ report.epoch = number ∧
      report.reward = reward ∧
      report.outcomes.map (·.1) = (world.stores trainer.store).keys ∧
      told.Perm report.events ∧
      after.observers = world.observers.hear
        (EpochReport.beginEvent number reward :: told ++
          [report.endEvent]) := by
  obtain ⟨outcomes, passed, closed, passes, closes, rfl, rfl⟩ :=
    (runEpoch_eq_some_iff valid).mp ran
  obtain ⟨counted, told, heard, same⟩ := hear_passes passes
  have quiet :=
    (trainer.silent_close (world.stores trainer.store).keys).run host
      Run.foreground limit passed
  rw [closes] at quiet
  refine ⟨_, told, rfl, rfl, rfl, List.map_fst_zip (Nat.le_of_eq counted.symm),
    same, ?_⟩
  change closed.observers.notify _ = _
  rw [quiet, heard, Observers.hear_append]
  rfl

/-- An epoch over variables whose locks are free ends with a report. Of every
epoch that ends, each observer has heard that it begins, then in some order of
each variable that was optimized, skipped or failed, and then that it ends, and
nothing twice. Whichever observers fail at whichever events, all of them receive
the same, the report is the same, and so are the stored variables. -/
theorem runEpoch_tells_observers
    (trainer : Trainer)
    (host : ModelHost σ)
    (limit number : Nat)
    (reward : Double)
    (world : World σ)
    (valid : isValidReward reward = true)
    (distinct : (world.stores trainer.store).keys.Nodup) :
    let epoch := (trainer.runEpoch host limit number reward).run.run
    ((world.stores trainer.store).Unlocked ->
      world.clock + trainer.timeout ≤ limit ->
      ∃ report after, epoch world = (some (.ok report), after)) ∧
    (∀ result after, epoch world = (some result, after) ->
      ∃ report told, result = .ok report ∧
        report.outcomes.map (·.1) = (world.stores trainer.store).keys ∧
        report.Heard told ∧
        (EpochReport.beginEvent number reward :: told ++
          [report.endEvent]).Nodup ∧
        ∀ index < world.observers.observers.length,
          after.observers.receivedBy index = world.observers.receivedBy index ++
            (EpochReport.beginEvent number reward :: told ++
              [report.endEvent])) ∧
    ∀ answers : Nat -> Observer,
      epoch (world.watchedBy answers) =
        ((epoch world).1, (epoch world).2.watchedBy answers) := by
  intro epoch
  refine ⟨trainer.exists_run_runEpoch host limit number reward valid distinct,
    fun result after ran => ?_,
    trainer.blind_runEpoch host limit number reward world⟩
  obtain ⟨report, told, ended, numbered, rewarded, keys, same, heard⟩ :=
    hear_runEpoch valid ran
  have distinct : (report.outcomes.map (·.1)).Nodup := keys.symm ▸ distinct
  have all : report.Heard told := .of_perm distinct same
  have once := all.nodup distinct
  rw [numbered, rewarded] at once
  refine ⟨report, told, ended, keys, all, once, fun index listed => ?_⟩
  rw [heard, Observers.receivedBy_hear listed]

/-- Five variables: one has nothing to score, one is not built, one is asked
about for too long, one gets new instructions and one an error. One of the two
observers fails at every event. -/
theorem runEpoch_tells_observers_of_each_outcome :
    let trainer : Trainer :=
      ⟨.standard 0 (some (.scripted "writer")), 0, 60000, true⟩
    let shown (request : GenerationRequest) : Nat :=
      (((request.input.field? "predictions").bind Json.asArray?).getD []).length
    let answer : Value :=
      ⟨Optimizer.answerSchema, [("instructions", .ofStrings ["be brief"])]⟩
    let host : ModelHost Unit :=
      { delay := fun _ _ => 70000
        pace :=
          ⟨fun _ _ request => if shown request = 2 then 70000 else 10,
            fun _ _ _ => by split <;> decide⟩
        handle := fun _ request state =>
          (if shown request = 1 then .ok answer else .error (.response "busy"),
            state) }
    let unscored (key : String) (count : Nat) : Variable :=
      { Variable.create key default with
        phase := .idle
        predictions := List.replicate count (.unscored [] [])
        instructions := some (.ofLines ["be helpful"]) }
    let entries := [unscored "scored" 0, Variable.create "fresh" default,
      unscored "late" 2, unscored "good" 1, unscored "bad" 3]
    let world : World Unit :=
      ⟨fun _ => ⟨5, entries, [], false, by decide⟩, fun _ => none, (),
        ⟨[fun _ => .error "down", fun _ => .ok ()], []⟩, 0, default⟩
    let half : Double := .ofDecimal false 5 (-1)
    isValidReward half = true ∧
    (world.stores trainer.store).keys.Nodup ∧
    (world.stores trainer.store).Unlocked ∧
    world.clock + trainer.timeout ≤ 60000 ∧
    ∃ report after told,
      (trainer.runEpoch host 60000 0 half).run.run world =
        (some (.ok report), after) ∧
      report.outcomes =
        [("scored", .noop),
          ("fresh", .skipped "variable 'fresh' has not been built"),
          ("late", .skipped "timed out after 60s"), ("good", .optimized 1),
          ("bad",
            .failed
              "generation failed: language model error: response error: busy")] ∧
      report.Heard told ∧
      told.map (·.subject) =
        [some "fresh", some "good", some "bad", some "late"] ∧
      (∀ index < 2, after.observers.receivedBy index =
        EpochReport.beginEvent 0 half :: told ++ [report.endEvent]) ∧
      ∀ answers : Nat -> Observer,
        (trainer.runEpoch host 60000 0 half).run.run (world.watchedBy answers) =
          (some (.ok report), after.watchedBy answers) := by
  intro trainer shown answer host unscored entries world half
  have valid : isValidReward half = true := by decide +kernel
  have distinct : (world.stores trainer.store).keys.Nodup := by decide +kernel
  have unlocked : (world.stores trainer.store).Unlocked := List.forall_mem_nil _
  have within : world.clock + trainer.timeout ≤ 60000 := by decide +kernel
  have reported : ((trainer.runEpoch host 60000 0 half).run.run world).1.map
      (fun report => report.toOption.map (·.outcomes)) = some (some
        [("scored", .noop),
          ("fresh", .skipped "variable 'fresh' has not been built"),
          ("late", .skipped "timed out after 60s"), ("good", .optimized 1),
          ("bad",
            .failed
              "generation failed: language model error: response error: busy")]) := by
    decide +kernel
  have received :
      (((trainer.runEpoch host 60000 0 half).run.run
        world).2.observers.receivedBy 1).map
        (·.subject) =
        [none, some "fresh", some "good", some "bad", some "late", none] := by
    decide +kernel
  have counted : world.observers.observers.length = 2 := rfl
  have before (index : Nat) : world.observers.receivedBy index = [] := rfl
  clear_value trainer host world half
  obtain ⟨ends, hears, same⟩ :=
    runEpoch_tells_observers trainer host 60000 0 half world valid distinct
  obtain ⟨report, after, ran⟩ := ends unlocked within
  obtain ⟨_, told, ended, _, heard, _, all⟩ := hears _ after ran
  obtain rfl := Except.ok.inj ended
  rw [ran] at reported received
  have outcomes := Option.some.inj (Option.some.inj reported)
  have subjects :
      told.map (·.subject) =
        [some "fresh", some "good", some "bad", some "late"] := by
    rw [all 1 (by omega), before, List.nil_append, List.map_append,
      List.map_cons] at received
    exact List.append_cancel_right (List.cons.inj received).2
  refine ⟨valid, distinct, unlocked, within, report, after, told, ran, outcomes,
    heard, subjects, fun index listed => ?_,
    fun answers => (same answers).trans ?_⟩
  · rw [all index (by omega), before, List.nil_append]
  · rw [ran]

end Trainer
end PromptTuning

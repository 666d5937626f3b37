import PromptTuning.Proofs.Application.Persistence
import PromptTuning.Proofs.Trainer.Epochs

/-!
# Restarting an application

An application keeps everything that training depends on in its store, and
everything of its store but the locks in the snapshot. One that is started again
with the configuration and the snapshot of another goes on where the other has
stopped, so training in two parts comes to what training in one comes to.
-/

namespace PromptTuning

/-- What is restored to a store without locks in use brings none. -/
theorem Store.Unlocked.of_restore
    {store restored : Store}
    {document : Json}
    {count : Nat}
    (unlocked : store.Unlocked)
    (accepted : store.restore document = .ok (count, restored)) :
    restored.Unlocked := by
  rw [restore] at accepted
  cases read : readSnapshot document with
  | error reason =>
      rw [read] at accepted
      contradiction
  | ok entries =>
      rw [read] at accepted
      obtain ⟨rfl, rfl⟩ := Prod.mk.inj (Except.ok.inj accepted)
      exact unlocked.of_subset (locks_restoreAll store entries)

/-- What is done with a result comes to a success if the result is one. -/
theorem bind_eq_ok_iff
    {α β ε : Type}
    {result : Except ε α}
    {next : α -> Except ε β}
    {final : β} :
    result >>= next = .ok final ↔
    ∃ value, result = .ok value ∧ next value = .ok final := by
  cases result with
  | error cause => exact ⟨nofun, nofun⟩
  | ok value =>
      exact ⟨fun ended => ⟨value, rfl, ended⟩, fun ⟨_, rfl, ended⟩ => ended⟩

/-- A valid reward is finite. -/
theorem isFinite_of_isValidReward (reward : Double)
    (valid : isValidReward reward = true) :
    reward.isFinite = true := by
  rw [isValidReward, Bool.and_assoc, Bool.and_eq_true] at valid
  exact valid.1

namespace Application

/-- A store whose variables an application can restore as they are: each key is
there once, there is room for all of them, and all rewards are finite. -/
structure Restorable (application : Application) (store : Store) : Prop where
  distinct : store.keys.Nodup
  bounded : store.entries.length ≤ max application.settings.store.capacity 1
  finite :
    ∀ entry ∈ store.entries, ∀ reward ∈ entry.rewards, reward.isFinite = true

variable {σ : Type} {application : Application} {store opened : Store}
  {surroundings : Surroundings} {languageModel : Option LanguageModel}

/-- Whatever clients have done to the store of an application, it can be
restored, as long as they brought no reward that is not finite. -/
theorem restorable_reached
    (application : Application)
    (setting : Setting σ)
    (start : World σ)
    (turns : List Turn)
    (finite : ∀ turn ∈ turns, ∀ reward ∈ turn.rewards, reward.isFinite = true) :
    application.Restorable
      (setting.reached start application.settings.store.capacity turns) := by
  have consistent := setting.consistent_reached start
    application.settings.store.capacity turns
  have bounded := consistent.bounded
  rw [Store.view_capacity, setting.capacity_reached] at bounded
  have kept (turn : Turn) (taken : turn ∈ turns) :
      turn.Keeps setting
        (Variable.RewardsIn fun reward => reward.isFinite = true) :=
    Setting.keeps_turn isFinite_of_isValidReward (finite turn taken)
  exact ⟨consistent.distinct, bounded, setting.all_reached start _ kept⟩

/-- An application is started from a configuration that can be loaded, a model
that writes instructions and a store that can be opened. -/
theorem start_eq_ok_iff :
    start surroundings languageModel = .ok (application, opened) ↔
      ∃ settings writer,
        Configuration.load surroundings.files surroundings.configurationPath =
          .ok settings ∧
        languageModel.elim (configuredModel surroundings.environment settings)
          .ok = .ok writer ∧
        settings.store.openStore surroundings.files = .ok opened ∧
        application = ⟨settings, settings,
          settings.optimizer.optimizer surroundings.optimizer writer,
          surroundings.store⟩ := by
  have expanded : start surroundings languageModel = do
      let settings ← (Configuration.load surroundings.files
        surroundings.configurationPath).mapError .configuration
      let writer ←
        languageModel.elim (configuredModel surroundings.environment settings)
          .ok
      let store ← settings.store.openStore surroundings.files
      return (⟨settings, settings,
        settings.optimizer.optimizer surroundings.optimizer writer,
        surroundings.store⟩, store) := by
    cases languageModel <;> rfl
  simp only [expanded, bind_eq_ok_iff, mapError_eq_ok_iff]
  constructor
  · rintro ⟨settings, loaded, writer, found, store, opens, started⟩
    obtain ⟨rfl, rfl⟩ := Prod.mk.inj (Except.ok.inj started)
    exact ⟨settings, writer, loaded, found, opens, rfl⟩
  · rintro ⟨settings, writer, loaded, found, opens, rfl⟩
    exact ⟨settings, loaded, writer, found, opened, opens, rfl⟩

/-- A store that can be restored is opened again with the same variables once it
is persisted, if the texts of its snapshot and of its dates denote what they
were made of. -/
theorem Restorable.openStore_of_persist
    (restorable : application.Restorable store)
    {path : String}
    {files written : Files}
    (configured : application.snapshotPath = some path)
    (parsed : Json.read? store.snapshot.pretty = some store.snapshot)
    (denoted : ∀ entry ∈ store.entries,
      Timestamp.ofText? entry.updatedAt.render = some entry.updatedAt)
    (persisted : application.persist store files = (written, .ok ())) :
    ∃ reopened, application.settings.store.openStore written = .ok reopened ∧
      reopened.entries = store.entries ∧ reopened.Unlocked := by
  let empty := Store.withCapacity application.settings.store.capacity
  have free : empty.Unlocked := nofun
  obtain ⟨reopened, accepted, kept⟩ :=
    Store.restore_snapshot_of_empty restorable.finite denoted
      restorable.distinct (show empty.entries = [] from rfl)
  refine ⟨reopened, ?_,
    kept.trans (Store.rtake_of_length_le _ _ restorable.bounded),
    free.of_restore accepted⟩
  exact StoreSettings.openStore_of_read? configured
    (read?_of_persist configured persisted) parsed
    accepted

/-- An application that is started again from the same configuration is told
apart from the first one by its numbers and by nothing else, if its store
can be opened. -/
theorem start_again
    (started : start surroundings languageModel = .ok (application, opened))
    {files : Files}
    {reopened : Store}
    (unchanged : Configuration.load files surroundings.configurationPath =
      Configuration.load surroundings.files surroundings.configurationPath)
    (opens : application.settings.store.openStore files = .ok reopened)
    (number : OptimizerId)
    (id : StoreId) :
    start { surroundings with files := files, optimizer := number, store := id }
      languageModel =
      .ok (⟨application.settings, application.settings,
        { application.optimizer with id := number }, id⟩, reopened) := by
  obtain ⟨settings, writer, loaded, found, _, rfl⟩ := start_eq_ok_iff.mp started
  exact start_eq_ok_iff.mpr
    ⟨settings, writer, unchanged.trans loaded, found, opens, rfl⟩

/-- What is started can build its program. -/
theorem exists_program_of_start
    (started : start surroundings languageModel = .ok (application, opened)) :
    ∃ program, application.optimizer.buildProgram = .ok program := by
  obtain ⟨settings, writer, _, _, _, rfl⟩ := start_eq_ok_iff.mp started
  exact ⟨_, rfl⟩

section Trained

variable {host : ModelHost σ} {answers : Answers} {reward : Double}
  {limit pace : Nat} (valid : isValidReward reward = true)
  (answered : ∀ model request state,
    (host.handle model request state).1 = answers model request)
  (paced : ∀ model request state, host.wait state model request ≤ pace)

include valid answered paced

/-- Training ends in time, makes of every variable, once built, what its epochs
make of it, and leaves a store that can be restored. -/
theorem Restorable.run_fit
    {world : World σ}
    {count : Nat}
    {program : Module}
    (restorable : application.Restorable (world.stores application.store))
    (builds : application.optimizer.buildProgram = .ok program)
    (unlocked : (world.stores application.store).Unlocked)
    (owns : application.optimizer.OwnsProgram world)
    (inTime : pace ≤ application.trainer.timeout)
    (trains : 0 < count)
    (within : world.clock + count * application.trainer.timeout ≤ limit) :
    ∃ history after,
      (application.trainer.fit host limit count (.fixed reward)).run.run world =
        (some (.ok history), after) ∧
      application.Restorable (after.stores application.store) ∧
      List.Forall₂
        (fun before after =>
          application.trainer.TurnsIn answers reward count before.built after)
        (world.stores application.store).entries
        (after.stores application.store).entries := by
  have upheld := Variable.upheld_rewardsIn isFinite_of_isValidReward
  obtain ⟨history, after, ran, ready, turns⟩ :=
    application.trainer.run_fit valid answered paced
      inTime owns builds restorable.distinct unlocked trains within
  have bounded : (after.stores application.store).entries.length ≤
      max application.settings.store.capacity 1 := by
    refine Nat.le_trans (Nat.le_of_eq ?_) restorable.bounded
    exact turns.length_eq.symm
  have finite : ∀ entry ∈ (after.stores application.store).entries,
      entry.RewardsIn fun reward => reward.isFinite = true := by
    have kept := (List.forall₂_and_left _ _).mpr ⟨restorable.finite, turns⟩
    have left := kept.flip.imp fun after before turned =>
      And.intro (turned.2.upheld upheld valid (upheld.built turned.1)) turned.2
    exact ((List.forall₂_and_left _ _).mp left).1
  exact ⟨history, after, ran, ⟨ready.distinct, bounded, finite⟩, turns⟩

/-- A restart is transparent to training at a fixed reward, where language
models answer in time and by the request alone. An application that is trained,
persisted, started again from the same configuration and trained for more epochs
comes to the variables that training for all the epochs at once comes to, in the
same order, apart from versions and dates. The texts of the snapshot and of its
dates are taken to denote what they were made of. -/
theorem restart_transparent
    {world : World σ}
    {count more : Nat}
    {path : String}
    (started : start surroundings languageModel = .ok (application, opened))
    (restorable : application.Restorable (world.stores application.store))
    (unlocked : (world.stores application.store).Unlocked)
    (owns : application.optimizer.OwnsProgram world)
    (configured : application.snapshotPath = some path)
    (inTime : pace ≤ application.trainer.timeout)
    (trains : 0 < count)
    (trainsMore : 0 < more)
    (within :
      world.clock + (count + more) * application.trainer.timeout ≤ limit) :
    let fit (application : Application) (epochs : Nat) (world : World σ) :=
      (application.trainer.fit host limit epochs (.fixed reward)).run.run world
    ∃ history trained longer straight,
      fit application count world = (some (.ok history), trained) ∧
      fit application (count + more) world = (some (.ok longer), straight) ∧
      ∀ (written : Files) (number : OptimizerId) (id : StoreId),
        let store := trained.stores application.store
        let again : Surroundings :=
          { surroundings with
            files := written, optimizer := number, store := id }
        Json.read? store.snapshot.pretty = some store.snapshot ->
        (∀ entry ∈ store.entries,
          Timestamp.ofText? entry.updatedAt.render = some entry.updatedAt) ->
        application.persist store surroundings.files = (written, .ok ()) ->
        Configuration.load written surroundings.configurationPath =
          Configuration.load surroundings.files
            surroundings.configurationPath ->
        ∃ restarted reopened,
          start again languageModel = .ok (restarted, reopened) ∧
          ∀ fresh : World σ,
            fresh.stores restarted.store = reopened ->
            restarted.optimizer.OwnsProgram fresh ->
            fresh.clock + more * application.trainer.timeout ≤ limit ->
            ∃ later final,
              fit restarted more fresh = (some (.ok later), final) ∧
              List.Forall₂ Variable.SameContents
                (final.stores restarted.store).entries
                (straight.stores application.store).entries := by
  intro fit
  obtain ⟨program, builds⟩ := exists_program_of_start started
  have earlier : world.clock + count * application.trainer.timeout ≤ limit := by
    rw [Nat.add_mul] at within
    omega
  obtain ⟨history, trained, ran, restorableTrained, turns⟩ :=
    restorable.run_fit valid answered paced
      builds unlocked owns inTime trains earlier
  obtain ⟨longer, straight, ranLonger, _, turnsAll⟩ :=
    restorable.run_fit valid answered paced
      builds unlocked owns inTime (Nat.add_pos_left trains more) within
  refine ⟨history, trained, longer, straight, ran, ranLonger, ?_⟩
  intro written number id store again parsed denoted persisted unchanged
  obtain ⟨reopened, opens, entries, free⟩ :=
    restorableTrained.openStore_of_persist configured parsed denoted persisted
  let restarted : Application := ⟨application.settings, application.settings,
    { application.optimizer with id := number }, id⟩
  refine ⟨restarted, reopened, start_again started unchanged opens number id,
    ?_⟩
  intro fresh holds freshOwns freshWithin
  have holds : fresh.stores id = reopened := holds
  have freshUnlocked : (fresh.stores id).Unlocked := holds ▸ free
  have found : (fresh.stores id).entries = store.entries := by
    rw [holds, entries]
  have distinct : (fresh.stores id).keys.Nodup := by
    rw [Store.keys, found]
    exact restorableTrained.distinct
  obtain ⟨later, final, ranLater, _, turnsLater⟩ :=
    restarted.trainer.run_fit valid answered paced
      inTime freshOwns builds distinct freshUnlocked trainsMore freshWithin
  refine ⟨later, final, ranLater, ?_⟩
  have alike : restarted.trainer.Like application.trainer := ⟨rfl, rfl⟩
  have resumed : List.Forall₂
      (fun before after =>
        application.trainer.TurnsIn answers reward (count + more)
          before.built after)
      (world.stores application.store).entries (final.stores id).entries :=
    forall₂_trans (fun _ _ _ first rest => first.resume valid alike rest) turns
      (found ▸ turnsLater : List.Forall₂ _ store.entries _)
  exact forall₂_trans (fun _ _ _ turned straightTurned =>
    Variable.sameContents_of_bare_eq (turned.unique straightTurned))
    resumed.flip turnsAll

end Trained

/-- Of two variables, one gets new instructions before the restart and
one an error. -/
theorem restart_transparent_of_two :
    let source := "{stores: {variables: {snapshot_path: a}}}"
    let surroundings : Surroundings := ⟨[(["c"], .text source)], [], "c", 0, 0⟩
    let writer : LanguageModel := .scripted "writer"
    let settings : Configuration :=
      { Configuration.standard with store := ⟨"in_memory", 1024, some "a"⟩ }
    let application : Application :=
      ⟨settings, settings, settings.optimizer.optimizer 0 writer, 0⟩
    let shown (request : GenerationRequest) : Nat :=
      (((request.input.field? "predictions").bind Json.asArray?).getD []).length
    let answer : Value :=
      ⟨Optimizer.answerSchema, [("instructions", .ofStrings ["be brief"])]⟩
    let answers : Answers := fun _ request =>
      if shown request = 1 then .ok answer else .error (.response "busy")
    let host : ModelHost Unit :=
      { delay := fun _ _ => 10
        handle := fun model request state => (answers model request, state) }
    let unscored (key : String) (count : Nat) : Variable :=
      { Variable.create key default with
        predictions := List.replicate count (.unscored [] [])
        instructions := some (.ofLines ["be helpful"]) }
    let world (store : Store) : World Unit :=
      ⟨fun _ => store, fun _ => none, (), ⟨[], []⟩, 0, default⟩
    let early := world
      ⟨1024, [unscored "good" 1, unscored "bad" 2], [], false, by decide⟩
    let half : Double := .ofDecimal false 5 (-1)
    let fit (application : Application) (epochs : Nat) (world : World Unit) :=
      (application.trainer.fit host 120000 epochs (.fixed half)).run.run world
    start surroundings (some writer) = .ok (application, .withCapacity 1024) ∧
    application.Restorable (early.stores 0) ∧
    ∃ history trained longer straight,
      fit application 1 early = (some (.ok history), trained) ∧
      fit application 2 early = (some (.ok longer), straight) ∧
      let store := trained.stores 0
      let written : Files :=
        [(["a"], .text store.snapshot.pretty), (["c"], .text source)]
      store.entries.map (·.instructions.map (·.instructions)) =
        [some ["be brief"], some ["be helpful"]] ∧
      application.persist store surroundings.files = (written, .ok ()) ∧
      ∃ restarted reopened later final,
        start { surroundings with files := written, optimizer := 1, store := 1 }
          (some writer) =
          .ok (restarted, reopened) ∧
        fit restarted 1 (world reopened) = (some (.ok later), final) ∧
        List.Forall₂ Variable.SameContents
          (final.stores restarted.store).entries
          (straight.stores 0).entries := by
  intro source surroundings writer settings
  have understood : Configuration.read source = .ok settings := by
    let plain (text : String) : Yaml.Node := .scalar none .plain text
    let part (name : String) (content : Yaml.Node) : Yaml.Node :=
      .mapping none [(plain name, content)]
    let document : Yaml.Document :=
      ⟨part "stores" (part "variables" (part "snapshot_path" (plain "a"))),
        .none⟩
    have parsed : Yaml.Document.ofSource? source = some document := by cbv
    have extracted : document.extract? Configuration.ofNode? = some settings :=
      rfl
    rw [Configuration.read, Configuration.ofSource?, parsed, Option.bind_some,
      extracted]
    cbv
  intro application shown answer answers host unscored world early half fit
  have loaded : Configuration.load surroundings.files "c" = .ok settings := by
    rw [Configuration.load,
      show surroundings.files.read? "c" = some source by cbv]
    exact understood
  have started :
      start surroundings (some writer) =
        .ok (application, .withCapacity 1024) :=
    start_eq_ok_iff.mpr ⟨settings, writer, loaded, rfl, by cbv, rfl⟩
  have restorable : application.Restorable (early.stores 0) :=
    ⟨by decide +kernel, by decide +kernel, by decide +kernel⟩
  have valid : isValidReward half = true := by decide +kernel
  have answered : ∀ model request state,
      (host.handle model request state).1 =
        answers model request := fun _ _ _ => rfl
  have paced : ∀ model request state, host.wait state model request ≤ 10 :=
    fun _ _ _ => Nat.le_refl 10
  have unlocked : (early.stores 0).Unlocked := by
    simp [Store.Unlocked, early, world]
  have owns (optimizer : Optimizer) (store : Store) :
      optimizer.OwnsProgram (world store) := by
    simp [Optimizer.OwnsProgram, world]
  have inTime : 10 ≤ application.trainer.timeout := by decide
  have within :
      early.clock + (1 + 1) * application.trainer.timeout ≤ 120000 := by decide
  obtain ⟨history, trained, longer, straight, ran, ranLonger, goesOn⟩ :=
    restart_transparent valid answered paced started restorable unlocked
      (owns _ _) rfl inTime
      Nat.one_pos Nat.one_pos within
  have trains : (fit application 1 early).2 = trained := congrArg (·.2) ran
  have parsed : Json.read? (trained.stores 0).snapshot.pretty =
      some (trained.stores 0).snapshot := by
    rw [Json.read?_pretty, ← trains]
    decide +kernel
  have denoted : ∀ entry ∈ (trained.stores 0).entries,
      Timestamp.ofText? entry.updatedAt.render = some entry.updatedAt := by
    rw [← trains]
    decide +kernel
  have brief :
      (trained.stores 0).entries.map (·.instructions.map (·.instructions)) =
        [some ["be brief"], some ["be helpful"]] := by
    rw [← trains]
    decide +kernel
  have persisted : application.persist (trained.stores 0) surroundings.files =
      ([(["a"], .text (trained.stores 0).snapshot.pretty),
        (["c"], .text source)], .ok ()) := by
    have writes (text : String) : Files.write surroundings.files "a" text =
        ([(["a"], .text text), (["c"], .text source)], true) := by cbv
    simp only [persist, show application.snapshotPath = some "a" from rfl,
      writes, if_true]
  have unchanged (text : String) :
      Configuration.load [(["a"], .text text), (["c"], .text source)] "c" =
        Configuration.load surroundings.files "c" := by
    have reads : Files.read? [(["a"], .text text), (["c"], .text source)] "c" =
      surroundings.files.read? "c" := by cbv
    rw [Configuration.load, reads]
    rfl
  obtain ⟨restarted, reopened, startedAgain, later⟩ :=
    goesOn _ 1 1 parsed denoted persisted (unchanged _)
  have withinAgain :
      (world reopened).clock + 1 * application.trainer.timeout ≤ 120000 :=
    show 0 + 1 * 60000 ≤ 120000 by decide
  obtain ⟨later, final, ranLater, same⟩ :=
    later (world reopened) rfl (owns _ _) withinAgain
  exact ⟨started, restorable, history, trained, longer, straight, ran,
    ranLonger, brief, persisted,
    restarted, reopened, later, final, startedAgain, ranLater, same⟩

end Application
end PromptTuning

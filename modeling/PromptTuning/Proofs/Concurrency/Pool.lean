import PromptTuning.Concurrency.Pool
import PromptTuning.Proofs.Concurrency.Progress

/-!
# What a move does

A move of a pool goes one of a few ways, each a case of one relation. Where a
client takes a step, what becomes of it, of its log and of the world depends on
what the step is. The keys are those that are stored from the beginning: no
operation here stores another one or drops one.
-/

namespace PromptTuning

variable {σ : Type}

namespace Setting

/-- Who appends a prediction changes the variable and answers with the place of
the prediction. -/
theorem body_append (setting : Setting σ) (key : String)
    (prediction : Prediction) :
    setting.body (.append key prediction) =
      (Activity.modify setting.store key
        (.append prediction)).bind fun answer =>
        .done (.appended
          (answer.map fun entry => entry.predictions.length - 1)) :=
  Activity.bind_assoc _ _ _

/-- Who attaches a valid reward changes the variable. -/
theorem body_attach_of_valid
    (setting : Setting σ)
    (key : String)
    (index : Nat)
    {reward : Double}
    (valid : isValidReward reward = true) :
    setting.body (.attach key index reward) =
      (Activity.modify setting.store key
        (.attach index reward)).bind fun answer =>
        .done (.attached (answer.map fun _ => ())) := by
  simp only [body, Activity.attach, valid, if_true]
  exact Activity.bind_assoc _ _ _

/-- Who attaches an invalid reward is refused at once. -/
theorem body_attach_of_invalid
    (setting : Setting σ)
    (key : String)
    (index : Nat)
    {reward : Double}
    (invalid : isValidReward reward = false) :
    setting.body (.attach key index reward) =
      .done (.attached (.error (.invalidReward reward))) := by
  simp only [body, Activity.attach, invalid]
  rfl

end Setting

namespace Pool

section Proceed

variable
  {setting : Setting σ}
  {pool : Pool σ}
  {id : Owner}
  {operation : Operation}
  {since : Nat}
  {replies : List Reply}
  {last : Option (Progress Response)}

attribute [local simp] proceed Progress.exchanged Progress.step
  Exchange.reply? Exchange.written? List.filterMap_cons

/-- A client that is through stays where it is. -/
theorem proceed_done {outcome : Response} :
    pool.proceed setting id ⟨operation, since, replies, last⟩
      (.active (.done outcome)) =
      { pool with
        clients := pool.clients.set id
          ⟨operation, since, replies, some (.active (.done outcome))⟩ } := by
  simp

/-- A client that looks goes on with what it sees, and nothing is logged. -/
theorem proceed_look
    {action : Action}
    {resume : action.Answer -> Activity Response}
    (told : ∀ now answer, (Exchange.acted now action answer).written? = none) :
    pool.proceed setting id ⟨operation, since, replies, last⟩
      (.active (.act action resume)) =
      { world := (pool.world.perform id action).2
        clients := pool.clients.set id
          ⟨operation, since, replies,
            some (.active (resume (pool.world.perform id action).1))⟩
        log := pool.log } := by
  simp [told, -Exchange.written?]

/-- A client that commits a variable goes on, and the commit is logged. -/
theorem proceed_commit
    {store : StoreId}
    {entry : Variable}
    {resume : Unit -> Activity Response} :
    pool.proceed setting id ⟨operation, since, replies, last⟩
        (.active (.act (.commit store entry) resume)) =
      { world := (pool.world.perform id (.commit store entry)).2
        clients :=
          pool.clients.set id
            ⟨operation, since, replies, some (.active (resume ()))⟩
        log := ⟨id, operation, replies, entry.key⟩ :: pool.log } := by
  simp

/-- A client that changes a variable goes on, and the change is logged. -/
theorem proceed_modify
    {store : StoreId}
    {key : String}
    {change : Change}
    {resume : Except StoreError Variable -> Activity Response}
    {changed : Variable}
    {after : Store}
    (answered : (pool.world.stores store).modify key change pool.world.now =
      (.ok changed, after)) :
    pool.proceed setting id ⟨operation, since, replies, last⟩
        (.active (.act (.modify store key change) resume)) =
      { world := pool.world.setStore store after
        clients := pool.clients.set id
          ⟨operation, since, replies, some (.active (resume (.ok changed)))⟩
        log := ⟨id, operation, replies, key⟩ :: pool.log } := by
  simp [World.perform, answered]

/-- A client whose change is refused goes on, and nothing is logged. -/
theorem proceed_modify_refused
    {store : StoreId}
    {key : String}
    {change : Change}
    {resume : Except StoreError Variable -> Activity Response}
    {reason : StoreError}
    {after : Store}
    (answered : (pool.world.stores store).modify key change pool.world.now =
      (.error reason, after)) :
    pool.proceed setting id ⟨operation, since, replies, last⟩
        (.active (.act (.modify store key change) resume)) =
      { world := pool.world.setStore store after
        clients := pool.clients.set id
          ⟨operation, since, replies, some (.active (resume (.error reason)))⟩
        log := pool.log } := by
  simp [World.perform, answered]

/-- A client that asks for a lock goes on with it, without it, or waits. -/
theorem proceed_lock
    {store : StoreId}
    {key : String}
    {resume : Except StoreError Unit -> Activity Response} :
    pool.proceed setting id ⟨operation, since, replies, last⟩
      (.active (.lock store key resume)) =
      match (pool.world.stores store).requestLock id key with
      | .refused reason =>
          { pool with
            clients := pool.clients.set id
              ⟨operation, since, replies,
                some (.active (resume (.error reason)))⟩ }
      | .granted after =>
          { world := pool.world.setStore store after
            clients := pool.clients.set id
              ⟨operation, since, replies, some (.active (resume (.ok ())))⟩
            log := pool.log }
      | .queued after =>
          { world := pool.world.setStore store after
            clients := pool.clients.set id
              ⟨operation, since, replies, some (.waiting store key resume)⟩
            log := pool.log } := by
  cases request : (pool.world.stores store).requestLock id key <;>
    simp [request]

/-- A client that waits for a lock goes on once it holds it. -/
theorem proceed_waiting
    {store : StoreId}
    {key : String}
    {resume : Except StoreError Unit -> Activity Response} :
    pool.proceed setting id ⟨operation, since, replies, last⟩
      (.waiting store key resume) =
      { pool with
        clients := pool.clients.set id
          ⟨operation, since, replies, some
            (if (pool.world.stores store).isHolder id key then
                .active (resume (.ok ()))
            else .waiting store key resume)⟩ } := by
  by_cases holds : (pool.world.stores store).isHolder id key = true <;>
    simp [holds]

/-- A client that asks a language model goes on with the reply. -/
theorem proceed_generate
    {model : LanguageModel}
    {request : GenerationRequest}
    {resume : Reply -> Activity Response} :
    pool.proceed setting id ⟨operation, since, replies, last⟩
        (.active (.generate model request resume)) =
      { world := (pool.world.ask setting.host model request).2
        clients := pool.clients.set id
          ⟨operation, since,
            replies ++ [(pool.world.ask setting.host model request).1],
            some (.active
              (resume (pool.world.ask setting.host model request).1))⟩
        log := pool.log } := by
  simp

end Proceed

/-- What a move makes of a pool, one case for each way that it can go. -/
inductive Moves (setting : Setting σ) (pool : Pool σ) : Move -> Pool σ -> Prop
  | begun (operation : Operation) :
      Moves setting pool (.begin operation)
        { pool with
          clients := pool.clients ++
            [⟨operation, pool.log.length, [],
              some (.active (setting.body operation))⟩] }
  | proceeded
      {owner : Owner}
      (operation : Operation)
      (since : Nat)
      (replies : List Reply)
      (progress : Progress Response)
      (found : pool.clients[owner]? =
        some ⟨operation, since, replies, some progress⟩) :
      Moves setting pool (.proceed owner)
        (pool.proceed setting owner ⟨operation, since, replies, some progress⟩
          progress)
  | idle
      {owner : Owner}
      (nothing : pool.clients[owner]?.bind (·.progress) = none) :
      Moves setting pool (.proceed owner) pool
  | dropped
      {owner : Owner}
      (client : Client)
      (found : pool.clients[owner]? = some client) :
      Moves setting pool (.drop owner)
        { pool with
          world := pool.world.abandon owner
          clients := pool.clients.set owner { client with progress := none } }
  | absent {owner : Owner} (nobody : pool.clients[owner]? = none) :
      Moves setting pool (.drop owner) pool
  | ticked (now : Timestamp) :
      Moves setting pool (.tick now)
        { pool with world := { pool.world with now := now } }

/-- Every move goes one of these ways. -/
theorem moves_step (setting : Setting σ) (pool : Pool σ) (move : Move) :
    pool.Moves setting move (pool.step setting move) := by
  cases move with
  | begin operation => exact .begun operation
  | tick now => exact .ticked now
  | proceed owner =>
      cases found : pool.clients[owner]? with
      | none =>
          have idle : pool.step setting (.proceed owner) = pool := by
            simp [step, found]
          rw [idle]
          exact .idle (by rw [found]; rfl)
      | some client =>
          obtain ⟨operation, since, replies, progress⟩ := client
          cases progress with
          | none =>
              have idle : pool.step setting (.proceed owner) = pool := by
                simp [step, found]
              rw [idle]
              exact .idle (by rw [found]; rfl)
          | some progress =>
              simp only [step, found]
              exact .proceeded operation since replies progress found
  | drop owner =>
      cases found : pool.clients[owner]? with
      | none =>
          simp only [step, found]
          exact .absent found
      | some client =>
          simp only [step, found]
          exact .dropped client found

/-- A property of what clients have left to do stays with all of them if it
holds of what a new client has to do and every step keeps it. -/
theorem Moves.working
    {setting : Setting σ}
    {pool after : Pool σ}
    {move : Move}
    {fits : Progress Response -> Prop}
    (moves : pool.Moves setting move after)
    (working :
      ∀ client ∈ pool.clients, ∀ progress ∈ client.progress, fits progress)
    (begun : ∀ operation,
      move = .begin operation -> fits (.active (setting.body operation)))
    (stepped : ∀ owner progress, fits progress ->
      fits (progress.step setting.host owner pool.world).1) :
    ∀ client ∈ after.clients, ∀ progress ∈ client.progress, fits progress := by
  have changed {owner : Owner} {changed : Client}
      (own : ∀ progress ∈ changed.progress, fits progress) :
      ∀ client ∈ pool.clients.set owner changed, ∀ progress ∈ client.progress,
        fits progress := by
    intro client listed
    obtain before | rfl := List.mem_or_eq_of_mem_set listed
    · exact working client before
    · exact own
  cases moves with
  | begun operation =>
      refine List.forall_mem_append.mpr
        ⟨working, List.forall_mem_singleton.mpr ?_⟩
      rintro progress ⟨⟩
      exact begun operation rfl
  | proceeded operation since replies progress found =>
      refine changed ?_
      rintro left ⟨⟩
      exact stepped _ progress
        (working _ (List.mem_of_getElem? found) progress rfl)
  | dropped client found => exact changed nofun
  | _ => exact working

/-- Who is there once a client has changed is that client, or it was
there before. -/
theorem getElem?_set_cases
    {clients : List Client}
    {owner other : Owner}
    {changed client : Client}
    (found : (clients.set owner changed)[other]? = some client) :
    (other = owner ∧ client = changed) ∨
    (other ≠ owner ∧ clients[other]? = some client) := by
  by_cases same : other = owner
  · subst same
    have present : other < clients.length := by
      simpa using (List.getElem?_eq_some_iff.mp found).1
    rw [List.getElem?_set_self present] at found
    exact .inl ⟨rfl, (Option.some.inj found).symm⟩
  · rw [List.getElem?_set_ne (Ne.symm same)] at found
    exact .inr ⟨same, found⟩

/-- The first of several moves is made first. -/
theorem run_cons (setting : Setting σ) (move : Move) (moves : List Move)
    (pool : Pool σ) :
    pool.run setting (move :: moves) =
      (pool.step setting move).run setting moves := rfl

end Pool
end PromptTuning

import PromptTuning.Proofs.Concurrency.Discipline

/-!
# Rehearsing an operation

Before its first write an operation has changed nothing. Wherever it then stands
among others, it would stand there as well had it run alone on the same replies,
from any contents that agree on the variables it holds. When it comes to write,
it may take the current contents for that.
-/

namespace PromptTuning

variable {σ τ : Type}

namespace World

/-- The program that an optimizer has already, or else builds. -/
theorem useProgram_fst (world : World σ) (optimizer : Optimizer) :
    (world.useProgram optimizer).1 =
      (world.programs optimizer.id).elim optimizer.buildProgram .ok := by
  unfold useProgram
  cases world.programs optimizer.id with
  | some program => rfl
  | none => cases optimizer.buildProgram <;> rfl

/-- Nothing but programs changes when one is used. -/
theorem exists_useProgram_eq (world : World σ) (optimizer : Optimizer) :
    ∃ programs,
      (world.useProgram optimizer).2 = { world with programs := programs } := by
  unfold useProgram
  cases world.programs optimizer.id with
  | some program => exact ⟨_, rfl⟩
  | none => cases optimizer.buildProgram <;> exact ⟨_, rfl⟩

/-- A program that is built on use is kept, and no other one changes. -/
theorem programs_useProgram (world : World σ) (optimizer : Optimizer)
    (id : OptimizerId) :
    (world.useProgram optimizer).2.programs id = world.programs id ∨
      id = optimizer.id ∧ world.programs id = none ∧
        ∃ program, optimizer.buildProgram = .ok program ∧
          (world.useProgram optimizer).2.programs id = some program := by
  unfold useProgram
  cases present : world.programs optimizer.id with
  | some program => exact .inl rfl
  | none =>
      cases built : optimizer.buildProgram with
      | error cause => exact .inl rfl
      | ok program =>
          by_cases same : id = optimizer.id
          · subst same
            exact .inr ⟨rfl, present, program, rfl, by simp [setProgram]⟩
          · exact .inl (by simp [setProgram, same])

end World

/-- Every optimizer has the program that it had at the start, or
would build it. -/
def SamePrograms (setting : Setting σ) (start : World σ) (world : World τ) :
    Prop :=
  ∀ id, (world.useProgram (setting.optimizer id)).1 =
    (start.useProgram (setting.optimizer id)).1

namespace SamePrograms

variable {setting : Setting σ} {start : World σ} {world : World τ}

theorem of_programs_eq {υ : Type} {other : World υ}
    (same : SamePrograms setting start world)
    (programs : other.programs = world.programs) :
    SamePrograms setting start other := by
  intro id
  rw [← same id, World.useProgram_fst, World.useProgram_fst, programs]

/-- Building a program on first use changes no program that is used. -/
theorem useProgram (same : SamePrograms setting start world)
    (id : OptimizerId) :
    SamePrograms setting start (world.useProgram (setting.optimizer id)).2 := by
  intro other
  rw [← same other, World.useProgram_fst, World.useProgram_fst]
  obtain kept | ⟨named, absent, program, built, stored⟩ :=
    world.programs_useProgram (setting.optimizer id)
      (setting.optimizer other).id
  · rw [kept]
  · obtain rfl : other = id := named
    rw [stored, absent, Option.elim_some, Option.elim_none, built]

section Alone

variable {owner : Owner} {world : World (List Reply)}

theorem alone_closed
    {expected : Response -> Prop}
    {activity : Activity Response}
    (same : SamePrograms setting start world)
    (closed : activity.Closed setting.store expected) :
    SamePrograms setting start (activity.alone owner 0 world) := by
  induction closed generalizing world with
  | done => exact same.of_programs_eq rfl
  | unlock _ inductionHypothesis =>
      rw [Activity.alone_look rfl]
      exact inductionHypothesis (same.of_programs_eq rfl)

theorem alone_writing
    {registered held : List String}
    {operation : Operation}
    {known : List Variable}
    {left right : Activity Response}
    (same : SamePrograms setting start world)
    (writing : Writing setting registered operation held known left right) :
    SamePrograms setting start (right.alone owner 0 world) := by
  cases writing with
  | closed closed => exact same.alone_closed closed
  | commit =>
      rw [Activity.alone_stop rfl]
      exact same.of_programs_eq rfl

end Alone

end SamePrograms

/-- Where an operation may stand alone before its first write: the keys are
those of the beginning and nobody has the lock of a key but itself, for the keys
that it knows. -/
structure Undisturbed
    (setting : Setting σ)
    (start : World σ)
    (known : List Variable)
    (world : World τ) : Prop where
  keys : (world.stores setting.store).keys = (start.stores setting.store).keys
  free :
    ∀ key, (∀ value ∈ known, value.key ≠ key) ->
      (world.stores setting.store).IsFree key
  programs : SamePrograms setting start world

section Rehearsed

variable
  (setting : Setting σ)
  (start : World σ)
  (owner : Owner)
  (operation : Operation)

/-- Where an operation stands that ran alone from a world: it has
changed nothing yet, and what is left of it is paired with what is left
of it elsewhere. -/
structure Rehearsal
    (known : List Variable)
    (left right : Activity Response)
    (world reached : World (List Reply))
    (more : List Reply) : Prop where
  standing : Undisturbed setting start known reached
  entries :
    (reached.stores setting.store).entries =
      (world.stores setting.store).entries
  models : reached.models = more
  paired :
    Paired setting (start.stores setting.store).keys operation known left right
  same : ∀ count, (setting.body operation).alone owner count world =
    right.alone owner count reached

/-- Alone on the same replies, from any contents that agree on the known
variables, an operation comes to stand where it stands here. -/
def Rehearsed (replies : List Reply) (known : List Variable)
    (left : Activity Response) : Prop :=
  ∀ (world : World (List Reply)) (more : List Reply),
    Undisturbed setting start [] world ->
    (∀ value ∈ known, (world.stores setting.store).Has value) ->
    world.models = replies ++ more ->
      ∃ right reached, Rehearsal setting start owner operation known left right
        world reached more

variable {setting start owner operation}
variable {replies : List Reply} {known : List Variable}

theorem Rehearsed.begin
    (paired : Paired setting (start.stores setting.store).keys operation []
      (setting.body operation) (setting.body operation)) :
    Rehearsed setting start owner operation [] [] (setting.body operation) :=
  fun world _ undisturbed _ models =>
    ⟨_, world, undisturbed, rfl, models, paired, fun _ => rfl⟩

/-- An action that only looks is answered alone as it is here. -/
theorem Rehearsed.look
    {action : Action}
    {resume : action.Answer -> Activity Response}
    (rehearsed : Rehearsed setting start owner operation replies known
      (.act action resume))
    (looks : action.writes = false)
    (opened :
      ¬(Activity.act action resume).Closed setting.store Response.IsPlain)
    {here : World σ}
    (keys :
      (here.stores setting.store).keys = (start.stores setting.store).keys)
    (has : ∀ value ∈ known, (here.stores setting.store).Has value)
    (programs : SamePrograms setting start here) :
    Rehearsed setting start owner operation replies known
      (resume (here.perform owner action).1) := by
  intro world more undisturbed agrees models
  obtain ⟨_, reached, ⟨standing, entries, rest, paired, same⟩⟩ :=
    rehearsed world more undisturbed agrees models
  cases paired with
  | writing writing =>
      cases writing with
      | closed closed => exact absurd closed opened
      | commit => contradiction
  | modify => contradiction
  | @keys _ _ right resumed =>
      have answer : (here.perform owner (.keys setting.store)).1 =
          (start.stores setting.store).keys := keys
      have again : (reached.perform owner (.keys setting.store)).1 =
          (start.stores setting.store).keys := standing.keys
      rw [answer]
      refine ⟨_, reached, standing, entries, rest, resumed, fun count => ?_⟩
      rw [same, Activity.alone_look rfl, again]
      rfl
  | @read _ value _ right kept resumed =>
      obtain ⟨stored, found, undated⟩ := has value kept
      obtain ⟨other, foundOther, undatedOther⟩ := agrees value kept
      have answer :
          (here.perform owner (.read setting.store value.key)).1 =
            some stored := found
      have again :
          (reached.perform owner (.read setting.store value.key)).1 =
            some other := by
        change (reached.stores setting.store).find? value.key = some other
        rw [Store.find?, entries]
        exact foundOther
      rw [answer]
      refine ⟨_, reached, standing, entries, rest,
        resumed stored other undated undatedOther,
        fun count => ?_⟩
      rw [same, Activity.alone_look rfl, again]
      rfl
  | @look _ store key _ right resumed =>
      refine ⟨_, reached, standing, entries, rest,
        resumed _ (reached.perform owner (.read store key)).1, fun count => ?_⟩
      rw [same, Activity.alone_look rfl]
      rfl
  | @program _ id _ right resumed =>
      have answer : (here.perform owner (.program (setting.optimizer id))).1 =
          (start.useProgram (setting.optimizer id)).1 := programs id
      have again : (reached.perform owner (.program (setting.optimizer id))).1 =
          (start.useProgram (setting.optimizer id)).1 := standing.programs id
      have used := standing.programs.useProgram id
      have performed :
          (reached.perform owner (.program (setting.optimizer id))).2 =
            (reached.useProgram (setting.optimizer id)).2 := rfl
      obtain ⟨programs, after⟩ :=
        reached.exists_useProgram_eq (setting.optimizer id)
      rw [after] at used performed
      rw [answer]
      refine ⟨_, { reached with programs := programs },
        ⟨standing.keys, standing.free, used⟩,
        entries, rest, resumed _, fun count => ?_⟩
      rw [same, Activity.alone_look rfl, again, performed]

/-- Alone, a lock that is granted here is granted as well. -/
theorem Rehearsed.lock
    {key : String}
    {resume : Except StoreError Unit -> Activity Response}
    (rehearsed : Rehearsed setting start owner operation replies known
      (.lock setting.store key resume))
    {value : Variable}
    (named : value.key = key)
    (registered : key ∈ (start.stores setting.store).keys) :
    Rehearsed setting start owner operation replies (value :: known)
      (resume (.ok ())) := by
  intro world more undisturbed agrees models
  obtain ⟨_, reached, ⟨standing, entries, rest, paired, same⟩⟩ :=
    rehearsed world more undisturbed
      (fun other among => agrees other (.tail _ among)) models
  cases paired with
  | writing writing =>
      cases writing with
      | closed closed => contradiction
  | @lock _ _ _ right fresh granted =>
      have present : (reached.stores setting.store).contains key = true := by
        rw [Store.contains_iff_mem_keys, standing.keys]
        exact registered
      obtain ⟨after, request, unchanged, _, others⟩ :=
        Store.requestLock_of_isFree present (standing.free key fresh) owner
      refine ⟨_, reached.setStore setting.store after, ⟨?_, ?_, ?_⟩, ?_, rest,
        granted value named, fun count => ?_⟩
      · rw [World.stores_setStore_self, Store.keys, unchanged]
        exact standing.keys
      · intro other unknown lock found
        rw [World.stores_setStore_self] at found
        have different : other ≠ key := by
          rw [← named]
          exact fun equal => unknown value List.mem_cons_self equal.symm
        rw [others other different] at found
        exact standing.free other
          (fun kept among => unknown kept (.tail _ among)) lock found
      · exact standing.programs.of_programs_eq rfl
      · rw [World.stores_setStore_self, unchanged]
        exact entries
      · rw [same, Activity.alone_lock request]

/-- Alone, a question gets the reply that it got here. -/
theorem Rehearsed.generate
    {model : LanguageModel}
    {request : GenerationRequest}
    {resume : Reply -> Activity Response}
    (rehearsed : Rehearsed setting start owner operation replies known
      (.generate model request resume))
    (reply : Reply) :
    Rehearsed setting start owner operation (replies ++ [reply]) known
      (resume reply) := by
  intro world more undisturbed agrees models
  rw [List.append_assoc] at models
  obtain ⟨_, reached, ⟨standing, entries, rest, paired, same⟩⟩ :=
    rehearsed world (reply :: more) undisturbed agrees models
  cases paired with
  | writing writing =>
      cases writing with
      | closed closed => contradiction
  | @generate _ _ _ _ _ right resumed =>
      refine ⟨_, reached.withModels more,
        ⟨standing.keys, standing.free, standing.programs.of_programs_eq rfl⟩,
        entries, rfl, resumed reply,
        fun count => ?_⟩
      rw [same, Activity.alone_generate rest]

end Rehearsed
end PromptTuning

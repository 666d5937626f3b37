import PromptTuning.Proofs.Concurrency.Serial
import PromptTuning.Proofs.Optimizer.Commitment
import PromptTuning.Proofs.Store.Contents

/-!
# The discipline of writers

Every operation that writes takes the lock of a key before it reads its
variable, lets go of no lock before its last write, and writes several variables
only under the locks of all keys. So two runs of it that find the same variables
under their locks and get the same replies write the same, whatever else each of
them reads. `Paired` relates where two such runs stand.
-/

namespace PromptTuning

variable {σ : Type}

namespace Response

/-- An answer that says nothing about what is stored. -/
def IsPlain : Response -> Prop
  | .appended (.ok _) => False
  | .got _ => False
  | _ => True

/-- A response is plain unless it tells a place or a variable. -/
theorem isPlain_or (response : Response) :
    response.IsPlain ∨ (∃ index, response = .appended (.ok index)) ∨
      ∃ entry, response = .got entry := by
  cases response with
  | appended result =>
      cases result with
      | error reason => exact .inl trivial
      | ok index => exact .inr (.inl ⟨index, rfl⟩)
  | got entry => exact .inr (.inr ⟨entry, rfl⟩)
  | attached result => exact .inl trivial
  | updated result => exact .inl trivial
  | optimized result => exact .inl trivial
  | finalized result => exact .inl trivial
  | built result => exact .inl trivial

end Response

/-- What a client may say of the variable under a key after it changed that. -/
def Operation.Reports
    (operation : Operation)
    (key : String)
    (answer : Except StoreError Variable) :
    Response -> Prop
  | .appended (.ok index) =>
      ∃ prediction changed, operation = .append key prediction ∧
        answer = .ok changed ∧
        index + 1 = changed.predictions.length
  | .got _ => False
  | _ => True

/-- Who was refused a change has nothing to say of the variable. -/
theorem Operation.isPlain_of_reports
    {operation : Operation}
    {key : String}
    {reason : StoreError}
    {response : Response}
    (reports : operation.Reports key (.error reason) response) :
    response.IsPlain := by
  obtain plain | ⟨index, rfl⟩ | ⟨entry, rfl⟩ := response.isPlain_or
  · exact plain
  · obtain ⟨_, _, _, answered, _⟩ := reports
    contradiction
  · exact reports.elim

/-- What an operation leaves of a variable: its predictions as they should
be recorded. -/
def Operation.Leads (operation : Operation) (before after : Variable) : Prop :=
  Prediction.SameExecutions (operation.records before.predictions)
    after.predictions

section Discipline

variable (setting : Setting σ) (registered : List String)
  (operation : Operation)

/-- Two runs that are about to write the same variables or are through with it.
Who goes on writing after another write holds the locks of all keys. -/
inductive Writing (held : List String) :
    List Variable -> Activity Response -> Activity Response -> Prop
  | closed {known : List Variable} {rest : Activity Response}
      (closed : rest.Closed setting.store Response.IsPlain) :
      Writing held known rest rest
  | commit {known later : List Variable} {value entry other : Variable}
      {left right : Unit -> Activity Response}
      (kept : value ∈ known)
      (named : entry.key = value.key)
      (same : entry.undated = other.undated)
      (leads : operation.Leads value entry)
      (fewer :
        ∀ remaining ∈ later, remaining ∈ known ∧ remaining.key ≠ value.key)
      (covers :
        (left ()).Closed setting.store Response.IsPlain ∨ registered ⊆ held)
      (next : Writing held later (left ()) (right ())) :
      Writing held known (.act (.commit setting.store entry) left)
        (.act (.commit setting.store other) right)

/-- Two runs of an operation that know the variables of the same keys, whose
locks they hold. -/
inductive Paired :
    List Variable -> Activity Response -> Activity Response -> Prop
  | writing {known : List Variable} {left right : Activity Response}
      (writing : Writing setting registered operation (known.map (·.key))
        known left right) :
      Paired known left right
  | modify {known : List Variable} {value : Variable} {change : Change}
      {resume : Except StoreError Variable -> Activity Response}
      (kept : value ∈ known)
      (leads : ∀ stored changed, stored.undated = value.undated ->
        change.apply stored = .ok changed -> operation.Leads value changed)
      (ended : ∀ answer,
        (∀ changed, answer = .ok changed -> operation.Leads value changed) ->
        (resume answer).Closed setting.store
          (operation.Reports value.key answer)) :
      Paired known (.act (.modify setting.store value.key change) resume)
        (.act (.modify setting.store value.key change) resume)
  | lock {known : List Variable} {key : String}
      {left right : Except StoreError Unit -> Activity Response}
      (fresh : ∀ value ∈ known, value.key ≠ key)
      (granted : ∀ value : Variable, value.key = key ->
        Paired (value :: known) (left (.ok ())) (right (.ok ())))
      (refused : key ∉ registered ->
        (left (.error (.notFound key))).Closed setting.store Response.IsPlain) :
      Paired known (.lock setting.store key left)
        (.lock setting.store key right)
  | keys {known : List Variable} {left right : List String -> Activity Response}
      (resumed : Paired known (left registered) (right registered)) :
      Paired known (.act (.keys setting.store) left)
        (.act (.keys setting.store) right)
  | read {known : List Variable} {value : Variable}
      {left right : Option Variable -> Activity Response}
      (kept : value ∈ known)
      (resumed : ∀ first second : Variable, first.undated = value.undated ->
        second.undated = value.undated ->
        Paired known (left (some first)) (right (some second))) :
      Paired known (.act (.read setting.store value.key) left)
        (.act (.read setting.store value.key) right)
  | look {known : List Variable} {store : StoreId} {key : String}
      {left right : Option Variable -> Activity Response}
      (resumed : ∀ first second, Paired known (left first) (right second)) :
      Paired known (.act (.read store key) left) (.act (.read store key) right)
  | program {known : List Variable} {id : OptimizerId}
      {left right : Except BuildError Module -> Activity Response}
      (resumed : ∀ answer, Paired known (left answer) (right answer)) :
      Paired known (.act (.program (setting.optimizer id)) left)
        (.act (.program (setting.optimizer id)) right)
  | generate {known : List Variable} {model : LanguageModel}
      {first second : GenerationRequest}
      {left right : Reply -> Activity Response}
      (resumed : ∀ reply, Paired known (left reply) (right reply)) :
      Paired known (.generate model first left) (.generate model second right)

end Discipline

variable
  {setting : Setting σ}
  {registered : List String}
  {operation : Operation}
  {known : List Variable}

/-- A run that is through is through in the other run. -/
theorem Writing.closed_right
    {held : List String}
    {left right : Activity Response}
    (writing : Writing setting registered operation held known left right)
    (closed : left.Closed setting.store Response.IsPlain) :
    right.Closed setting.store Response.IsPlain := by
  cases writing with
  | closed => exact closed
  | commit => cases closed

namespace Paired

/-- What writes no more is paired with itself. -/
theorem closed {rest : Activity Response}
    (closed : rest.Closed setting.store Response.IsPlain) :
    Paired setting registered operation known rest rest :=
  .writing (.closed closed)

/-- Two activities that only look lead on to whatever their results lead to. -/
theorem ofAlike
    {α β : Type}
    {id : OptimizerId}
    {related : α -> β -> Prop}
    {left : Activity α}
    {right : Activity β}
    {next : α -> Activity Response}
    {other : β -> Activity Response}
    (alike : Activity.Alike (· = setting.optimizer id) related left right)
    (continued : ∀ first second, related first second ->
      Paired setting registered operation known (next first) (other second)) :
    Paired setting registered operation known (left.bind next)
      (right.bind other) := by
  induction alike with
  | done results => exact continued _ _ results
  | read _ inductionHypothesis => exact .look inductionHypothesis
  | program used _ inductionHypothesis =>
      subst used
      exact .program inductionHypothesis
  | generate _ inductionHypothesis => exact .generate inductionHypothesis

/-- A single commit at the end. -/
theorem ofCommit
    {value entry other : Variable}
    {rest : Activity Response}
    (kept : value ∈ known)
    (named : entry.key = value.key)
    (same : entry.undated = other.undated)
    (leads : operation.Leads value entry)
    (closed : rest.Closed setting.store Response.IsPlain) :
    Paired setting registered operation known
      (.act (.commit setting.store entry) fun _ => rest)
      (.act (.commit setting.store other) fun _ => rest) := by
  have fewer : ∀ remaining ∈ ([] : List Variable),
      remaining ∈ known ∧ remaining.key ≠ value.key := List.forall_mem_nil _
  exact .writing
    (.commit kept named same leads fewer (.inl closed) (.closed closed))

/-- A single change under the lock of its key. -/
theorem ofModify
    {key : String}
    {change : Change}
    {answered : Except StoreError Variable -> Response}
    (leads : ∀ stored changed, change.apply stored = .ok changed ->
      operation.Leads stored changed)
    (reports : ∀ value answer,
      (∀ changed, answer = .ok changed -> operation.Leads value changed) ->
      operation.Reports key answer (answered answer))
    (refused : (answered (.error (.notFound key))).IsPlain) :
    Paired setting registered operation []
      ((Activity.modify setting.store key change).bind fun answer =>
        .done (answered answer))
      ((Activity.modify setting.store key change).bind fun answer =>
        .done (answered answer)) := by
  refine .lock (List.forall_mem_nil _) ?_ fun _ => .done refused
  rintro value rfl
  refine .modify List.mem_cons_self ?_ fun answer led =>
    .unlock (.done (reports value answer led))
  intro stored changed undated applied
  have led := leads stored changed applied
  rw [Operation.Leads,
    Variable.view_eq_of_undated_eq Variable.predictions (fun _ => rfl) undated]
    at led
  exact led

/-- An append, a reward or an update is a single change. -/
theorem append (key : String) (prediction : Prediction) :
    Paired setting registered (.append key prediction) []
      (setting.body (.append key prediction))
      (setting.body (.append key prediction)) := by
  rw [setting.body_append]
  refine ofModify ?_ ?_ trivial
  · intro stored changed applied
    obtain rfl := Except.ok.inj applied
    exact .refl _
  · intro value answer led
    cases answer with
    | error reason => trivial
    | ok changed =>
        have counted := (led changed rfl).length_eq
        rw [Operation.records, List.length_append,
          List.length_singleton] at counted
        refine ⟨prediction, changed, rfl, rfl, ?_⟩
        change changed.predictions.length - 1 + 1 = changed.predictions.length
        omega

/-- Who attaches a reward is paired with itself. -/
theorem attach (key : String) (index : Nat) (reward : Double) :
    Paired setting registered (.attach key index reward) []
      (setting.body (.attach key index reward))
      (setting.body (.attach key index reward)) := by
  by_cases valid : isValidReward reward = true
  case neg =>
    rw [setting.body_attach_of_invalid key index (Bool.eq_false_iff.mpr valid)]
    exact closed (.done trivial)
  rw [setting.body_attach_of_valid key index valid]
  refine ofModify ?_ (fun _ answer _ => by cases answer <;> trivial) trivial
  intro stored changed applied
  rw [Change.apply] at applied
  split at applied
  case isFalse => contradiction
  obtain rfl := Except.ok.inj applied
  change List.Forall₂ _ stored.predictions _
  rw [List.forall₂_iff_get]
  refine ⟨by simp, fun place before after => ?_⟩
  simp only [List.get_eq_getElem, List.getElem_modify]
  split
  · exact ⟨rfl, rfl, rfl⟩
  · exact .refl _

/-- Who sets contents is paired with itself. -/
theorem set (key : String) (content : VariableUpdate) :
    Paired setting registered (.set key content) []
      (setting.body (.set key content)) (setting.body (.set key content)) := by
  refine ofModify ?_ (fun _ answer _ => by cases answer <;> trivial) trivial
  intro stored changed applied
  obtain rfl := Except.ok.inj applied
  exact .refl _

/-- Finalizing commits a variable without its candidates. -/
theorem finalize (key : String) :
    Paired setting registered (.finalize key) []
      (setting.body (.finalize key)) (setting.body (.finalize key)) := by
  refine .lock (List.forall_mem_nil _) ?_ fun _ => .done trivial
  rintro value rfl
  refine .read List.mem_cons_self ?_
  intro first second firstUndated secondUndated
  have redated : first.undated = second.undated :=
    firstUndated.trans secondUndated.symm
  refine ofCommit List.mem_cons_self ?_ ?_ ?_ (.unlock (.done trivial))
  · have named : first.key = value.key :=
      Variable.view_eq_of_undated_eq Variable.key (fun _ => rfl) firstUndated
    exact named
  · rw [Variable.eq_of_undated_eq redated]
    rfl
  · rw [Operation.Leads,
      ← Variable.view_eq_of_undated_eq Variable.predictions
        (fun _ => rfl) firstUndated]
    exact .refl _

/-- A pass looks on the variable under its lock and commits at most once,
at the end. -/
theorem optimize (id : OptimizerId) (key : String) (reward : Double) :
    Paired setting registered (.optimize id key reward) []
      (setting.body (.optimize id key reward))
      (setting.body (.optimize id key reward)) := by
  rw [Setting.body, Optimizer.optimizeStored_eq]
  refine .lock (List.forall_mem_nil _) ?_ fun _ => .done trivial
  rintro value rfl
  refine .read List.mem_cons_self ?_
  intro first second firstUndated secondUndated
  have redated : first.undated = second.undated :=
    firstUndated.trans secondUndated.symm
  simp only [Optimizer.afterRead, Activity.bind_assoc]
  apply ofAlike (Optimizer.alike_optimize (setting.optimizer id) redated reward)
  intro ended again passed
  have decided := Optimizer.commits_eq redated passed
  have released :
      ((Optimizer.release setting.store value.key again.1).bind fun result =>
        Activity.done (.optimized result)).Closed setting.store
        Response.IsPlain :=
    .unlock (.done trivial)
  rw [Optimizer.settle, Optimizer.settle, decided, passed.outcome]
  cases Optimizer.commits second again.2 again.1 with
  | false => exact closed released
  | true =>
      refine ofCommit List.mem_cons_self ?_ ?_ ?_ released
      · exact passed.resultFirst.key_eq.trans
          (Variable.view_eq_of_undated_eq Variable.key
            (fun _ => rfl) firstUndated)
      · rw [passed.final]
        rfl
      · rw [Operation.Leads,
          ← Variable.view_eq_of_undated_eq Variable.predictions
            (fun _ => rfl) firstUndated]
        exact passed.resultFirst.keepsExecutions

end Paired

section Build

open Optimizer

/-- Letting go of locks before the end writes no more. -/
theorem closed_unlockAll
    {rest : Activity Response}
    (keys : List String)
    (closed : rest.Closed setting.store Response.IsPlain) :
    ((unlockAll setting.store keys).bind fun _ => rest).Closed setting.store
      Response.IsPlain := by
  induction keys with
  | nil => exact closed
  | cons key keys inductionHypothesis => exact .unlock inductionHypothesis

/-- Variables built under the locks of all keys are committed one
after another. -/
theorem writing_commitAll
    {held : List String}
    {rest : Activity Response}
    {id : OptimizerId}
    (covers : registered ⊆ held)
    (closed : rest.Closed setting.store Response.IsPlain)
    {values first second : List Variable}
    (firstRead : List.Forall₂ (fun value entry => entry.undated = value.undated)
      values first)
    (secondRead : List.Forall₂
      (fun value entry => entry.undated = value.undated) values second)
    (distinct : (values.map (·.key)).Nodup)
    (kept : values ⊆ known) :
    Writing setting registered (.build id) held known
      ((commitAll setting.store (first.map Variable.built)).bind fun _ => rest)
      ((commitAll setting.store (second.map Variable.built)).bind fun _ =>
        rest) := by
  induction firstRead generalizing second known with
  | nil =>
      cases secondRead
      exact .closed closed
  | @cons value entry values first undated _ inductionHypothesis =>
      cases secondRead with
      | @cons _ other _ second undatedOther others =>
          obtain ⟨fresh, distinct⟩ := List.nodup_cons.mp distinct
          have redated : entry.undated = other.undated :=
            undated.trans undatedOther.symm
          have next := @inductionHypothesis values second others
            distinct fun _ listed => listed
          have keptValue : value ∈ known := kept List.mem_cons_self
          refine .commit keptValue ?_ ?_ ?_ ?_ (.inr covers) next
          · rw [Variable.key_built]
            exact Variable.view_eq_of_undated_eq Variable.key
              (fun _ => rfl) undated
          · rw [Variable.undated_built, Variable.undated_built, redated]
          · rw [Operation.Leads, Variable.predictions_built,
              Variable.view_eq_of_undated_eq Variable.predictions
                (fun _ => rfl) undated]
            exact .refl _
          · intro remaining listed
            refine ⟨kept (List.mem_cons_of_mem _ listed), fun same => fresh ?_⟩
            exact List.mem_map.mpr ⟨remaining, listed, same⟩

/-- Locking keys and reading their variables: what comes next knows them all. -/
theorem paired_lockAndRead
    {next other : List String × List Variable -> Activity Response}
    {keys : List String}
    (listed : keys ⊆ registered)
    (distinct : keys.Nodup)
    (fresh : ∀ value ∈ known, value.key ∉ keys)
    (continued : ∀ values first second : List Variable,
      values.map (·.key) = keys ->
      List.Forall₂ (fun value entry => entry.undated = value.undated) values
        first ->
      List.Forall₂ (fun value entry => entry.undated = value.undated)
        values second ->
        Paired setting registered operation (values.reverse ++ known)
          (next (keys, first))
          (other (keys, second))) :
    Paired setting registered operation known
      ((lockAndRead setting.store keys).bind next)
      ((lockAndRead setting.store keys).bind other) := by
  induction keys generalizing known next other with
  | nil => exact continued [] [] [] rfl .nil .nil
  | cons key keys inductionHypothesis =>
      obtain ⟨unlisted, others⟩ := List.nodup_cons.mp distinct
      refine .lock ?_ ?_ fun missing =>
        absurd (listed List.mem_cons_self) missing
      · intro value kept same
        exact fresh value kept (same ▸ List.mem_cons_self)
      rintro value rfl
      refine .read List.mem_cons_self ?_
      intro first second firstUndated secondUndated
      change Paired _ _ _ _
        (((lockAndRead setting.store keys).bind fun read =>
          .done (value.key :: read.1, first :: read.2)).bind next)
        (((lockAndRead setting.store keys).bind fun read =>
          .done (value.key :: read.1, second :: read.2)).bind other)
      rw [Activity.bind_assoc, Activity.bind_assoc]
      refine inductionHypothesis
        (fun _ among => listed (List.mem_cons_of_mem _ among)) others ?_ ?_
      · rintro kept among same
        obtain rfl | among := List.mem_cons.mp among
        · exact unlisted same
        · exact fresh kept among (List.mem_cons_of_mem _ same)
      · intro values firsts seconds named readFirst readSecond
        have knows := continued (value :: values) (first :: firsts)
          (second :: seconds) (by rw [List.map_cons, named])
          (.cons firstUndated readFirst)
          (.cons secondUndated readSecond)
        rw [List.reverse_cons, List.append_assoc] at knows
        exact knows

/-- How building goes on once all keys are locked and their variables read. -/
def afterLocking (optimizer : Optimizer) (store : StoreId)
    (read : List String × List Variable) : Activity Response :=
  .act (.program optimizer) fun
    | .error cause =>
        (unlockAll store read.1).bind fun _ =>
          .done (.built (.error (.build cause)))
    | .ok _ =>
        (commitAll store (read.2.map Variable.built)).bind fun _ =>
          (unlockAll store read.1).bind fun _ => .done (.built (.ok ()))

/-- Building asks for the keys and goes on to lock and read them. -/
theorem body_build (id : OptimizerId) :
    setting.body (.build id) =
      .act (.keys setting.store) fun keys =>
        (lockAndRead setting.store keys).bind
          (afterLocking (setting.optimizer id) setting.store) := by
  change Activity.act (.keys setting.store) _ = _
  congr 1
  funext keys
  change (Activity.bind _ (lockAndRead setting.store keys)).bind _ = _
  rw [Activity.bind_assoc]
  congr 1
  funext read
  change Activity.act (.program (setting.optimizer id)) _ = _
  rw [afterLocking]
  congr 1
  funext answer
  cases answer with
  | error cause =>
      change (Activity.bind _ (unlockAll setting.store read.1)).bind _ = _
      exact Activity.bind_assoc _ _ _
  | ok program =>
      change ((Activity.bind _ (commitAll setting.store _)).bind _) = _
      rw [Activity.bind_assoc]
      congr 1
      funext _
      exact Activity.bind_assoc _ _ _

/-- Building locks every key before it commits, and commits every key once. -/
theorem Paired.build (id : OptimizerId) (distinct : registered.Nodup) :
    Paired setting registered (.build id) [] (setting.body (.build id))
      (setting.body (.build id)) := by
  rw [body_build]
  refine .keys ?_
  refine paired_lockAndRead (fun _ listed => listed) distinct
    (List.forall_mem_nil _) ?_
  intro values first second named firstRead secondRead
  refine .program ?_
  intro answer
  cases answer with
  | error cause => exact .closed (closed_unlockAll registered (.done trivial))
  | ok program =>
      have closed : ((unlockAll setting.store registered).bind fun _ =>
          Activity.done (.built (.ok ()))).Closed setting.store
        Response.IsPlain :=
        closed_unlockAll registered (.done trivial)
      refine .writing (writing_commitAll ?_ closed firstRead secondRead ?_ ?_)
      · intro key listed
        rw [← named] at listed
        simpa using listed
      · rw [named]
        exact distinct
      · intro value listed
        simpa using listed

end Build

/-- Every operation that writes keeps to the discipline. -/
theorem paired_body
    {operation : Operation}
    (distinct : registered.Nodup)
    (writes : ∀ key, operation ≠ .get key) :
    Paired setting registered operation [] (setting.body operation)
      (setting.body operation) := by
  cases operation with
  | append key prediction => exact .append key prediction
  | attach key index reward => exact .attach key index reward
  | set key content => exact .set key content
  | get key => exact absurd rfl (writes key)
  | optimize id key reward => exact .optimize id key reward
  | finalize key => exact .finalize key
  | build id => exact .build id distinct

end PromptTuning

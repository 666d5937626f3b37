import Mathlib
import PromptTuning.Application.Basic
import PromptTuning.Proofs.Concurrency.Service
import PromptTuning.Proofs.Files.Writing
import PromptTuning.Proofs.Json.Characters
import PromptTuning.Proofs.Json.Equality
import PromptTuning.Proofs.Store.Snapshot

/-!
# What outlives a store

Whatever has happened to a store, its snapshot holds all that the store shows:
every variable in its place with all of its records. So does the file that an
application persists it to, and the next application that opens a store from
this file finds the variables again.
-/

namespace PromptTuning

/-- A file that an application persists a store to holds the text of
its snapshot. -/
theorem Application.read?_of_persist
    {application : Application}
    {store : Store}
    {files written : Files}
    {path : String}
    (configured : application.snapshotPath = some path)
    (persisted : application.persist store files = (written, .ok ())) :
    written.read? path = some store.snapshot.pretty := by
  simp only [persist, configured, Prod.mk.injEq] at persisted
  obtain ⟨rfl, done⟩ := persisted
  have wrote : files.write path store.snapshot.pretty =
      ((files.write path store.snapshot.pretty).1, true) := by
    cases success : (files.write path store.snapshot.pretty).2 with
    | true => rw [← success]
    | false => simp [success] at done
  exact Files.read?_of_write wrote

/-- A store is opened from the snapshot that is read from its file. -/
theorem StoreSettings.openStore_of_read?
    {settings : StoreSettings}
    {files : Files}
    {path text : String}
    {document : Json}
    {count : Nat}
    {restored : Store}
    (configured : settings.snapshotPath = some path)
    (found : files.read? path = some text)
    (parsed : Json.read? text = some document)
    (accepted : (Store.withCapacity settings.capacity).restore document =
      .ok (count, restored)) :
    settings.openStore files = .ok restored := by
  have held : (some path).filter files.holds = some path := by
    rw [Option.filter_some, if_pos (Files.holds_of_read? found)]
  have read : readSnapshot files path = .ok document := by
    simp only [readSnapshot, found, parsed]
  simp only [openStore, configured, held, read]
  change (((Store.withCapacity settings.capacity).restore document).mapError
    ApplicationError.store).bind _ = _
  rw [accepted]
  rfl

variable {σ : Type} {setting : Setting σ} {start : World σ} {capacity : Nat}
  {turns : List Turn}

namespace Setting

/--
A snapshot is complete, as long as every reward is finite and the texts of dates
denote them: a store that is empty keeps the last variables of it as they are,
the store itself keeps what it shows, and so does a store that is opened from
the file the snapshot is persisted to.
-/
theorem snapshot_restores_variables
    (finite : ∀ entry ∈ (setting.reached start capacity turns).entries,
      ∀ reward ∈ entry.rewards, reward.isFinite = true)
    (denoted : ∀ entry ∈ (setting.reached start capacity turns).entries,
      Timestamp.ofText? entry.updatedAt.render = some entry.updatedAt) :
    let store := setting.reached start capacity turns
    (∀ empty : Store, empty.entries = [] ->
      ∃ restored,
        empty.restore store.snapshot = .ok (store.entries.length, restored) ∧
        restored.entries = store.entries.rtake empty.capacity) ∧
    store.restore store.snapshot =
      .ok (store.entries.length, store.pruneLocks) ∧
    store.pruneLocks.view = store.view ∧
    ∀ (application : Application) (settings : StoreSettings) (path : String)
      (files written : Files),
      application.snapshotPath = some path ->
      settings.snapshotPath = some path ->
      Json.read? store.snapshot.pretty = some store.snapshot ->
      application.persist store files = (written, .ok ()) ->
      ∃ opened, settings.openStore written = .ok opened ∧
        opened.entries = store.entries.rtake (max settings.capacity 1) := by
  intro store
  have distinct : store.keys.Nodup :=
    (setting.consistent_reached start capacity turns).distinct
  have restores (empty : Store) (nothing : empty.entries = []) :=
    Store.restore_snapshot_of_empty finite denoted distinct nothing
  refine ⟨restores, Store.restore_own_snapshot finite denoted distinct, rfl, ?_⟩
  intro application settings path files written persistsTo opensFrom
    parsed persisted
  obtain ⟨opened, accepted, kept⟩ :=
    restores (.withCapacity settings.capacity) rfl
  exact ⟨opened,
    StoreSettings.openStore_of_read? opensFrom
      (Application.read?_of_persist persistsTo persisted) parsed accepted, kept⟩

/-- Two variables are persisted, and a store with room for one finds the
later one again. -/
theorem snapshot_restores_variables_of_two :
    let turns : List Turn :=
      [.register "a" (some ⟨"steps", ["be brief"], some (.one .double)⟩),
        .move (.begin (.append "a" (.unscored [] []))), .move (.proceed 0),
        .move (.proceed 0), .move (.proceed 0), .register "b" none]
    let store := refusing.reached .fresh 2 turns
    let settings : StoreSettings := ⟨"in_memory", 1, some "a/s"⟩
    let application : Application :=
      ⟨{ Configuration.standard with store := settings }, .standard,
        .standard 0 none, 0⟩
    let written := (application.persist store []).1
    store.keys = ["a", "b"] ∧
      store.entries.map (·.predictions.length) = [1, 0] ∧
      (∀ entry ∈ store.entries, ∀ reward ∈ entry.rewards,
        reward.isFinite = true) ∧
      (∀ entry ∈ store.entries,
        Timestamp.ofText? entry.updatedAt.render = some entry.updatedAt) ∧
      Json.read? store.snapshot.pretty = some store.snapshot ∧
      application.persist store [] = (written, .ok ()) ∧
      ∃ opened, settings.openStore written = .ok opened ∧
        opened.entries = store.entries.rtake 1 := by
  intro turns store settings application written
  have finite :
      ∀ entry ∈ store.entries, ∀ reward ∈ entry.rewards,
        reward.isFinite = true := by
    decide +kernel
  have denoted : ∀ entry ∈ store.entries,
      Timestamp.ofText? entry.updatedAt.render = some entry.updatedAt := by
    decide +kernel
  have parsed : Json.read? store.snapshot.pretty = some store.snapshot := by
    rw [Json.read?_pretty]
    decide +kernel
  have writes (text : String) : (Files.write [] "a/s" text).2 = true := by cbv
  have persisted : application.persist store [] = (written, .ok ()) := by
    refine Prod.ext rfl ?_
    change (if (Files.write [] "a/s" store.snapshot.pretty).2 then Except.ok ()
      else _) = _
    rw [writes]
    rfl
  obtain ⟨_, _, _, opens⟩ := snapshot_restores_variables finite denoted
  exact ⟨by decide +kernel, by decide +kernel, finite, denoted,
    parsed, persisted,
    opens application settings _ [] written rfl rfl parsed persisted⟩

end Setting
end PromptTuning

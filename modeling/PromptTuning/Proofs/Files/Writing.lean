import PromptTuning.Files

/-!
# Reading what was written

Where a path leads depends only on where there are folders. A text that is
written takes the place of no folder, so its path leads to it from then on,
however the path was spelled.
-/

namespace PromptTuning
namespace Files

variable {files others : Files} {place : List String} {path text : String}

/-- An entry is found where it was put. -/
theorem entryAt?_put_self {entry : FileEntry} (named : place ≠ []) :
    (files.put place entry).entryAt? place = some entry := by
  simp [entryAt?, put, named]

/-- An entry that is put leaves the other places as they were. -/
theorem entryAt?_put_of_ne {entry : FileEntry} {other : List String}
    (different : other ≠ place) :
    (files.put place entry).entryAt? other = files.entryAt? other := by
  have kept : (files.filter fun member => member.1 != place).lookup other =
      files.lookup other := by
    induction files with
    | nil => rfl
    | cons member rest inductionHypothesis =>
        obtain ⟨name, content⟩ := member
        by_cases same : name = place
        · subst same
          simp [inductionHypothesis, List.lookup_cons,
            beq_false_of_ne different]
        · simp [same, List.lookup_cons, inductionHypothesis]
  simp only [entryAt?, put, List.lookup_cons, beq_false_of_ne different, kept]

/-- The root is a folder, so a place where none is lies below it. -/
theorem ne_nil_of_hasFolder (free : files.hasFolder place = false) :
    place ≠ [] := by
  rintro rfl
  simp [hasFolder, entryAt?, FileEntry.isFolder] at free

/-- A text that takes the place of no folder moves no folder. -/
theorem hasFolder_put_text (free : files.hasFolder place = false) :
    (files.put place (.text text)).hasFolder = files.hasFolder := by
  funext other
  by_cases same : other = place
  · subst same
    rw [free, hasFolder, entryAt?_put_self (ne_nil_of_hasFolder free)]
    rfl
  · rw [hasFolder, hasFolder, entryAt?_put_of_ne same]

/-- Where there are folders decides where a path leads. -/
theorem place?_congr (same : files.hasFolder = others.hasFolder) :
    files.place? path = others.place? path := by
  have enter : files.enter? = others.enter? := by
    funext place name
    simp only [enter?, same]
  simp only [place?, enter]

/-- What is left of a write once the folders on its way are made, if they
could be made. -/
def writeWithin (path text : String) (folders : Files × Bool) : Files × Bool :=
  match if folders.2 then folders.1.place? path else none with
  | none => (folders.1, false)
  | some place =>
      if folders.1.hasFolder place then (folders.1, false)
      else (folders.1.put place (.text text), true)

theorem exists_write_eq (files : Files) (path text : String) :
    ∃ folders, files.write path text = writeWithin path text folders := ⟨_, rfl⟩

/-- A text that is written is put where its path leads to, in the place
of no folder. -/
theorem put_of_write {after : Files}
    (written : files.write path text = (after, true)) :
    ∃ made place, place? made path = some place ∧ hasFolder made place = false ∧
      after = made.put place (.text text) := by
  obtain ⟨⟨made, all⟩, eq⟩ := exists_write_eq files path text
  rw [eq, writeWithin] at written
  cases all with
  | false => simp at written
  | true =>
      cases leads : made.place? path with
      | none => simp [leads] at written
      | some place =>
          cases occupied : made.hasFolder place with
          | true => simp [leads, occupied] at written
          | false =>
              simp only [leads, occupied, if_true, Bool.false_eq_true, if_false,
                Prod.mk.injEq,
                and_true] at written
              exact ⟨made, place, leads, occupied, written.symm⟩

/-- A path under which a text was written leads to that text. -/
theorem read?_of_write {after : Files}
    (written : files.write path text = (after, true)) :
    after.read? path = some text := by
  obtain ⟨made, place, leads, free, rfl⟩ := put_of_write written
  rw [read?, find?, place?_congr (hasFolder_put_text free), leads,
    Option.bind_some, entryAt?_put_self (ne_nil_of_hasFolder free)]
  rfl

/-- Only a file that is there can be read. -/
theorem holds_of_read? (found : files.read? path = some text) :
    files.holds path = true := by
  obtain ⟨entry, leads, _⟩ := Option.bind_eq_some_iff.mp found
  rw [holds, leads, Option.isSome_some]

end Files
end PromptTuning

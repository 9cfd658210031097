import Mathlib.Data.List.Basic
import UnitCatalogue.Directory.Tree.Lemmas

/-!
# Walks through a changing tree

There are no links, so that a path leads to one place, whatever stands there. A walk that ends in a
directory has passed through directories only. It therefore ends at the same place in every tree
that keeps these, whatever becomes of the files; a walk to a file does so if the file is still
there.
-/

namespace UnitCatalogue.Directory

/-- The place behind a step, whether or not something stands there. -/
def Step.onward (place : Place) : Step → Place
  | .stay => place
  | .up => place.dropLast
  | .down name => place ++ [name]

/-- Whether a step leads to another place. -/
def Step.moves (step : Step) : Bool := step != .stay

theorem Step.foldl_onward_moves (place : Place) (steps : List Step) :
    (steps.filter Step.moves).foldl Step.onward place = steps.foldl Step.onward place := by
  induction steps generalizing place with
  | nil => rfl
  | cons step rest ih =>
    cases step with
    | stay => exact ih place
    | up => exact ih place.dropLast
    | down name => exact ih (place ++ [name])

/-- With one step that moves there are two places to be at. -/
theorem Step.foldl_onward_of_prefix (place : Place) {passed steps : List Step}
    (front : passed <+: steps) (once : (steps.filter Step.moves).length ≤ 1) :
    passed.foldl Step.onward place = place ∨
      passed.foldl Step.onward place = steps.foldl Step.onward place := by
  rw [← Step.foldl_onward_moves place passed, ← Step.foldl_onward_moves place steps]
  have moving := front.filter Step.moves
  cases taken : passed.filter Step.moves with
  | nil => exact Or.inl rfl
  | cons step rest =>
    rw [taken] at moving
    have whole : (step :: rest).length = (steps.filter Step.moves).length := by
      have shorter := moving.length_le
      rw [List.length_cons] at shorter ⊢
      omega
    rw [moving.eq_of_length whole]
    exact Or.inr rfl

namespace Tree

/-- The place that a path leads to, whether or not the tree has it. -/
def leadsTo (tree : Tree) (path : Path) : Place :=
  path.steps.foldl Step.onward (tree.startOf path)

theorem leadsTo_congr {before after : Tree} (working : after.working = before.working)
    (path : Path) : after.leadsTo path = before.leadsTo path := by
  rw [leadsTo, leadsTo, startOf, startOf, working]

/-- No directory is lost, and relative paths start where they did. -/
structure KeepsDirectories (before after : Tree) : Prop where
  working : after.working = before.working
  directories : ∀ place, before.isDirectoryAt place = true → after.isDirectoryAt place = true

theorem isDirectoryAt_iff {tree : Tree} {place : Place} :
    tree.isDirectoryAt place = true ↔ tree.node? place = some .directory := by
  rw [isDirectoryAt, beq_iff_eq]

theorem KeepsDirectories.of_kept {before after : Tree} (working : after.working = before.working)
    (kept : ∀ place node, before.node? place = some node → after.node? place = some node) :
    KeepsDirectories before after where
  working := working
  directories place directory := by
    rw [isDirectoryAt_iff] at directory ⊢
    exact kept place _ directory

theorem KeepsDirectories.startOf_eq {before after : Tree} (keeps : KeepsDirectories before after)
    (path : Path) : after.startOf path = before.startOf path := by
  rw [startOf, startOf, keeps.working]

theorem walkStep_eq_ok_iff {tree : Tree} {place next : Place} {step : Step} :
    tree.walkStep place step = .ok next ↔ tree.isDirectoryAt place = true ∧
      step.onward place = next ∧ ∀ name, step = .down name →
        name.utf8ByteSize ≤ maxName ∧ (tree.node? (place ++ [name])).isSome = true := by
  unfold walkStep
  cases directory : tree.isDirectoryAt place with
  | false => simp
  | true =>
    cases step with
    | stay => simp [Step.onward]
    | up => simp [Step.onward]
    | down name =>
      by_cases long : maxName < name.utf8ByteSize
      · simp [long, Nat.not_le.mpr long]
      · by_cases present : (tree.node? (place ++ [name])).isSome = true
        · simp [long, Nat.not_lt.mp long, present, Step.onward]
        · simp [long, present]

theorem isDirectoryAt_of_walkStep {tree : Tree} {place next : Place} {step : Step}
    (stepped : tree.walkStep place step = .ok next) : tree.isDirectoryAt place = true :=
  (walkStep_eq_ok_iff.mp stepped).1

theorem walk_cons_eq_ok_iff {tree : Tree} {place final : Place} {step : Step}
    {rest : List Step} : tree.walk place (step :: rest) = .ok final ↔
      ∃ next, tree.walkStep place step = .ok next ∧ tree.walk next rest = .ok final := by
  rw [walk]
  cases tree.walkStep place step with
  | error fault => simp
  | ok next => simp

theorem isDirectoryAt_of_walk {tree : Tree} {place final : Place} {steps : List Step}
    (walked : tree.walk place steps = .ok final) (directory : tree.isDirectoryAt final = true) :
    tree.isDirectoryAt place = true := by
  cases steps with
  | nil =>
    obtain rfl : place = final := by simpa [walk] using walked
    exact directory
  | cons step rest =>
    obtain ⟨_, stepped, _⟩ := walk_cons_eq_ok_iff.mp walked
    exact isDirectoryAt_of_walkStep stepped

theorem walkStep_down {tree : Tree} {place : Place} {name : String}
    (directory : tree.isDirectoryAt place = true) (fits : name.utf8ByteSize ≤ maxName)
    (present : (tree.node? (place ++ [name])).isSome = true) :
    tree.walkStep place (.down name) = .ok (place ++ [name]) := by
  refine walkStep_eq_ok_iff.mpr ⟨directory, rfl, ?_⟩
  rintro _ ⟨⟩
  exact ⟨fits, present⟩

theorem KeepsDirectories.walkStep {before after : Tree} (keeps : KeepsDirectories before after)
    {place next : Place} {step : Step} (stepped : before.walkStep place step = .ok next)
    (directory : before.isDirectoryAt next = true) : after.walkStep place step = .ok next := by
  obtain ⟨from_directory, rfl, present⟩ := walkStep_eq_ok_iff.mp stepped
  refine walkStep_eq_ok_iff.mpr ⟨keeps.directories place from_directory, rfl, ?_⟩
  rintro name rfl
  have kept := isDirectoryAt_iff.mp (keeps.directories _ directory)
  exact ⟨(present name rfl).1, Option.isSome_iff_exists.mpr ⟨_, kept⟩⟩

theorem KeepsDirectories.walk {before after : Tree} (keeps : KeepsDirectories before after)
    {place final : Place} {steps : List Step} (walked : before.walk place steps = .ok final)
    (directory : before.isDirectoryAt final = true) : after.walk place steps = .ok final := by
  induction steps generalizing place with
  | nil => exact walked
  | cons step rest ih =>
    obtain ⟨next, stepped, onward⟩ := walk_cons_eq_ok_iff.mp walked
    -- A file here could only be the end of the walk, and the end is a directory.
    have stepped' := keeps.walkStep stepped (isDirectoryAt_of_walk onward directory)
    exact walk_cons_eq_ok_iff.mpr ⟨next, stepped', ih onward⟩

theorem walk_eq_foldl {tree : Tree} {place final : Place} {steps : List Step}
    (walked : tree.walk place steps = .ok final) : steps.foldl Step.onward place = final := by
  induction steps generalizing place with
  | nil => simpa [walk] using walked
  | cons step rest ih =>
    obtain ⟨next, stepped, onward⟩ := walk_cons_eq_ok_iff.mp walked
    obtain ⟨_, rfl, _⟩ := walkStep_eq_ok_iff.mp stepped
    exact ih onward

theorem walk_append_eq_ok_iff {tree : Tree} {place final : Place} {first second : List Step} :
    tree.walk place (first ++ second) = .ok final ↔
      ∃ middle, tree.walk place first = .ok middle ∧ tree.walk middle second = .ok final := by
  induction first generalizing place with
  | nil => simp [walk]
  | cons step rest ih =>
    simp only [List.cons_append, walk_cons_eq_ok_iff, ih]
    constructor
    · rintro ⟨next, stepped, middle, walked, onward⟩
      exact ⟨middle, ⟨next, stepped, walked⟩, onward⟩
    · rintro ⟨middle, ⟨next, stepped, walked⟩, onward⟩
      exact ⟨next, stepped, middle, walked, onward⟩

theorem walk_singleton_eq_ok_iff {tree : Tree} {place final : Place} {step : Step} :
    tree.walk place [step] = .ok final ↔ tree.walkStep place step = .ok final := by
  rw [walk_cons_eq_ok_iff]
  simp [walk]

theorem isDirectoryAt_put_of_apart {tree : Tree} {put_at place : Place} {node : Node}
    (not_root : put_at ≠ []) (apart : place ≠ put_at) :
    (tree.put put_at node).isDirectoryAt place = tree.isDirectoryAt place := by
  rw [isDirectoryAt, node?_put _ not_root, if_neg apart, isDirectoryAt]

/-- A walk that does not pass a place goes on as before when something is put there. -/
theorem walk_put_of_apart {tree : Tree} {put_at place : Place} {node : Node} {steps : List Step}
    (not_root : put_at ≠ [])
    (apart : ∀ passed, passed <+: steps → passed.foldl Step.onward place ≠ put_at) :
    (tree.put put_at node).walk place steps = tree.walk place steps := by
  induction steps generalizing place with
  | nil => rfl
  | cons step rest ih =>
    have here : place ≠ put_at := apart [] (List.nil_prefix)
    have next : step.onward place ≠ put_at :=
      apart [step] (by simp)
    have same_step : (tree.put put_at node).walkStep place step = tree.walkStep place step := by
      simp only [Tree.walkStep, isDirectoryAt_put_of_apart not_root here]
      cases step with
      | stay => rfl
      | up => rfl
      | down name =>
        have below : place ++ [name] ≠ put_at := next
        simp only [node?_put _ not_root, if_neg below]
    rw [walk, walk, same_step]
    cases stepped : tree.walkStep place step with
    | error fault => rfl
    | ok reached =>
      obtain ⟨_, rfl, _⟩ := walkStep_eq_ok_iff.mp stepped
      refine ih fun passed front => ?_
      exact apart (step :: passed) ((List.prefix_cons_inj step).mpr front)

theorem find_eq_ok_iff {tree : Tree} {path : Path} {place : Place} :
    tree.find path = .ok place ↔ checkPath path = .ok () ∧
      tree.walk (tree.startOf path) path.steps = .ok place ∧
      (path.endsWithSlash = true → tree.isDirectoryAt place = true) := by
  rw [find]
  cases checkPath path with
  | error fault => simp [bind, Except.bind]
  | ok _ =>
    cases tree.walk (tree.startOf path) path.steps with
    | error fault => simp [bind, Except.bind]
    | ok found =>
      by_cases refused : (path.endsWithSlash && !tree.isDirectoryAt found) = true
      · simp only [bind, Except.bind, if_pos refused]
        simp only [Bool.and_eq_true, Bool.not_eq_true'] at refused
        constructor
        · intro same
          cases same
        · rintro ⟨_, same, directory⟩
          cases same
          simp [directory refused.1] at refused
      · simp only [bind, Except.bind, pure, Except.pure, if_neg refused]
        simp only [Bool.and_eq_true, Bool.not_eq_true', not_and, Bool.not_eq_false] at refused
        constructor
        · intro same
          cases same
          exact ⟨trivial, rfl, refused⟩
        · rintro ⟨_, same, _⟩
          exact same

theorem leadsTo_of_find {tree : Tree} {path : Path} {place : Place}
    (found : tree.find path = .ok place) : tree.leadsTo path = place :=
  walk_eq_foldl (find_eq_ok_iff.mp found).2.1

theorem KeepsDirectories.find {before after : Tree} (keeps : KeepsDirectories before after)
    {path : Path} {place : Place} (found : before.find path = .ok place)
    (directory : before.isDirectoryAt place = true) : after.find path = .ok place := by
  obtain ⟨usable, walked, _⟩ := find_eq_ok_iff.mp found
  refine find_eq_ok_iff.mpr ⟨usable, ?_, fun _ => keeps.directories place directory⟩
  rw [keeps.startOf_eq]
  exact keeps.walk walked directory

theorem slot?_eq_some_iff {tree : Tree} {path : Path} {slot : Slot} :
    tree.slot? path = .ok (some slot) ↔ checkPath path = .ok () ∧
      path.steps.getLast? = some slot.last ∧
      tree.walk (tree.startOf path) path.steps.dropLast = .ok slot.folder ∧
      tree.isDirectoryAt slot.folder = true := by
  rw [slot?]
  cases checkPath path with
  | error fault => simp [bind, Except.bind]
  | ok _ =>
    cases path.steps.getLast? with
    | none => simp [bind, Except.bind, pure, Except.pure]
    | some last =>
      cases tree.walk (tree.startOf path) path.steps.dropLast with
      | error fault => simp [bind, Except.bind]
      | ok folder =>
        by_cases directory : tree.isDirectoryAt folder = true
        · simp only [bind, Except.bind, pure, Except.pure, if_pos directory]
          constructor
          · intro same
            cases same
            exact ⟨trivial, rfl, rfl, directory⟩
          · rintro ⟨_, ends, walked, _⟩
            cases slot
            cases ends
            cases walked
            rfl
        · simp only [bind, Except.bind, if_neg directory]
          constructor
          · intro same
            cases same
          · rintro ⟨_, _, walked, holds⟩
            cases walked
            exact absurd holds directory

theorem leadsTo_of_slot? {tree : Tree} {path : Path} {folder : Place} {last : Step}
    (slot : tree.slot? path = .ok (some ⟨folder, last⟩)) :
    tree.leadsTo path = last.onward folder := by
  obtain ⟨_, ends, walked, _⟩ := slot?_eq_some_iff.mp slot
  rw [leadsTo, ← List.dropLast_append_getLast? _ ends, List.foldl_append, walk_eq_foldl walked]
  rfl

theorem KeepsDirectories.slot? {before after : Tree} (keeps : KeepsDirectories before after)
    {path : Path} {slot : Slot} (slotted : before.slot? path = .ok (some slot)) :
    after.slot? path = .ok (some slot) := by
  obtain ⟨usable, ends, walked, directory⟩ := slot?_eq_some_iff.mp slotted
  refine slot?_eq_some_iff.mpr ⟨usable, ends, ?_, keeps.directories _ directory⟩
  rw [keeps.startOf_eq]
  exact keeps.walk walked directory

/-- What is put at the end of a path is found there, if the directories on the way are kept. -/
theorem find_of_slot? {before after : Tree} (keeps : KeepsDirectories before after) {path : Path}
    {folder : Place} {name : String}
    (slot : before.slot? path = .ok (some ⟨folder, .down name⟩))
    (fits : name.utf8ByteSize ≤ maxName)
    (present : (after.node? (folder ++ [name])).isSome = true)
    (slash : path.endsWithSlash = true → after.isDirectoryAt (folder ++ [name]) = true) :
    after.find path = .ok (folder ++ [name]) := by
  obtain ⟨usable, ends, walked, directory⟩ := slot?_eq_some_iff.mp slot
  have steps : path.steps = path.steps.dropLast ++ [.down name] :=
    (List.dropLast_append_getLast? _ ends).symm
  refine find_eq_ok_iff.mpr ⟨usable, ?_, slash⟩
  have onward := keeps.walk walked directory
  have last := walkStep_down (keeps.directories folder directory) fits present
  rw [steps, keeps.startOf_eq]
  exact walk_append_eq_ok_iff.mpr ⟨folder, onward, walk_singleton_eq_ok_iff.mpr last⟩

/-- Nothing that stood is gone: a directory is still one, and a file still stands. -/
structure Persists (before after : Tree) : Prop extends KeepsDirectories before after where
  present : ∀ place, (before.node? place).isSome = true → (after.node? place).isSome = true

namespace Persists

variable {before after : Tree}

theorem refl (tree : Tree) : Persists tree tree where
  working := rfl
  directories _ directory := directory
  present _ stands := stands

theorem trans {last : Tree} (first : Persists before after) (second : Persists after last) :
    Persists before last where
  working := second.working.trans first.working
  directories place directory := second.directories place (first.directories place directory)
  present place stands := second.present place (first.present place stands)

theorem walkStep (persists : Persists before after) {place next : Place} {step : Step}
    (stepped : before.walkStep place step = .ok next) : after.walkStep place step = .ok next := by
  obtain ⟨directory, rfl, present⟩ := walkStep_eq_ok_iff.mp stepped
  refine walkStep_eq_ok_iff.mpr ⟨persists.directories place directory, rfl, ?_⟩
  intro name down
  exact ⟨(present name down).1, persists.present _ (present name down).2⟩

theorem walk (persists : Persists before after) {place final : Place} {steps : List Step}
    (walked : before.walk place steps = .ok final) : after.walk place steps = .ok final := by
  induction steps generalizing place with
  | nil => exact walked
  | cons step rest ih =>
    obtain ⟨next, stepped, onward⟩ := walk_cons_eq_ok_iff.mp walked
    exact walk_cons_eq_ok_iff.mpr ⟨next, persists.walkStep stepped, ih onward⟩

theorem find (persists : Persists before after) {path : Path} {place : Place}
    (found : before.find path = .ok place) : after.find path = .ok place := by
  obtain ⟨usable, walked, slash⟩ := find_eq_ok_iff.mp found
  refine find_eq_ok_iff.mpr ⟨usable, ?_, fun ends => persists.directories place (slash ends)⟩
  rw [persists.startOf_eq]
  exact persists.walk walked

end Persists

end Tree

end UnitCatalogue.Directory

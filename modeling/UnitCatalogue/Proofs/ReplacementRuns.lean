import UnitCatalogue.Proofs.FileReplacement

/-!
# Runs of replacements

Replacements come one after another, to any paths, and each may fail. Nothing is ever lost, so that
a path that named a file names it to the end; the file holds what the last successful replacement
under such a path has written.
-/

namespace UnitCatalogue.Directory

/-- A replacement to be made: where, with what, by what names, and what is refused on the way. -/
structure Write where
  path : Path
  data : ByteArray
  naming : Naming
  refusals : Refusals := {}

namespace Tree

def perform (tree : Tree) (write : Write) : Except Fault Unit × Tree :=
  tree.writeReplacing write.naming write.path write.data write.refusals

/-- The tree after a list of replacements, whatever their results. -/
def performAll (tree : Tree) (writes : List Write) : Tree :=
  writes.foldl (fun tree write => (tree.perform write).2) tree

/-- The replacements of a list that succeed, in order. -/
def succeeding : Tree → List Write → List Write
  | _, [] => []
  | tree, write :: rest =>
    match tree.perform write with
    | (.ok (), after) => write :: succeeding after rest
    | (.error _, after) => succeeding after rest

/-- The last of some replacements whose path names the place. -/
def lastNaming? (tree : Tree) (place : Place) (writes : List Write) : Option Write :=
  writes.reverse.find? fun write => tree.find write.path = .ok place

/-- A tree that grows gets directories only. -/
theorem Grows.file_iff {named : Path → Prop} {before after : Tree}
    (grows : Grows named before after) (place : Place) (content : ByteArray) :
    after.node? place = some (.file content) ↔ before.node? place = some (.file content) := by
  constructor
  · intro stands
    cases earlier : before.node? place with
    | none =>
      obtain ⟨directory, _⟩ := grows.added place _ earlier stands
      cases directory
    | some node =>
      have kept := grows.kept place node earlier
      rw [← kept, stands]
  · exact grows.kept place _

theorem Receives.file_iff {path : Path} {written : ByteArray} {target : Place}
    {before after : Tree} (receives : Receives path written target before after)
    (place : Place) (content : ByteArray) :
    after.node? place = some (.file content) ↔
      if place = target then content = written
      else before.node? place = some (.file content) := by
  by_cases same : place = target
  · rw [if_pos same, same, receives.holds]
    constructor
    · rintro ⟨⟩
      rfl
    · rintro rfl
      rfl
  · rw [if_neg same]
    constructor
    · intro stands
      cases earlier : before.node? place with
      | none =>
        obtain ⟨directory, _⟩ := receives.added place _ same earlier stands
        cases directory
      | some node =>
        have kept := receives.kept place node same earlier
        rw [← kept, stands]
    · exact receives.kept place _ same

theorem grows_of_perform {tree after : Tree} {write : Write} {fault : Fault}
    (failed : tree.perform write = (.error fault, after)) :
    Grows (·.IsAbove write.path) tree after := by
  have leaves := leavesBehind_writeReplacing write.naming tree write.path write.data write.refusals
  rw [perform] at failed
  rwa [failed] at leaves

theorem receives_of_perform {tree after : Tree} {write : Write}
    (done : tree.perform write = (.ok (), after)) :
    ∃ target, Receives write.path write.data target tree after := by
  have leaves := leavesBehind_writeReplacing write.naming tree write.path write.data write.refusals
  rw [perform] at done
  rwa [done] at leaves

theorem persists_perform (tree : Tree) (write : Write) :
    Persists tree (tree.perform write).2 := by
  cases performed : tree.perform write with
  | mk result after =>
    cases result with
    | error fault => exact (grows_of_perform performed).persists
    | ok _ =>
      obtain ⟨target, receives⟩ := receives_of_perform performed
      exact receives.persists

theorem persists_performAll (tree : Tree) (writes : List Write) :
    Persists tree (tree.performAll writes) := by
  induction writes generalizing tree with
  | nil => exact Persists.refl tree
  | cons write rest ih => exact (persists_perform tree write).trans (ih _)

theorem performAll_append (tree : Tree) (before after : List Write) :
    tree.performAll (before ++ after) = (tree.performAll before).performAll after :=
  List.foldl_append

theorem lastNaming?_cons (tree : Tree) (place : Place) (write : Write) (rest : List Write) :
    tree.lastNaming? place (write :: rest) = (tree.lastNaming? place rest).or
      (if tree.find write.path = .ok place then some write else none) := by
  rw [lastNaming?, List.reverse_cons, List.find?_append, lastNaming?]
  by_cases named : tree.find write.path = .ok place <;> simp [named]

theorem file_performAll_iff (tree : Tree) (writes : List Write) (place : Place)
    (content : ByteArray) :
    (tree.performAll writes).node? place = some (.file content) ↔
      match (tree.performAll writes).lastNaming? place (tree.succeeding writes) with
      | some write => content = write.data
      | none => tree.node? place = some (.file content) := by
  induction writes generalizing tree with
  | nil => rfl
  | cons write rest ih =>
    cases performed : tree.perform write with
    | mk result after =>
      have onward : tree.performAll (write :: rest) = after.performAll rest := by
        rw [performAll, List.foldl_cons, performed]
        rfl
      have later := ih after
      rw [onward, succeeding, performed]
      cases result with
      | error fault =>
        -- What fails leaves the files as they were, and is not among those that succeed.
        simp only
        rw [later]
        cases after.performAll rest |>.lastNaming? place (after.succeeding rest) with
        | some last => rfl
        | none => exact (grows_of_perform performed).file_iff place content
      | ok _ =>
        obtain ⟨target, receives⟩ := receives_of_perform performed
        have named : (after.performAll rest).find write.path = .ok target :=
          (persists_performAll after rest).find receives.found
        simp only
        rw [later, lastNaming?_cons, named]
        cases after.performAll rest |>.lastNaming? place (after.succeeding rest) with
        | some last => rfl
        | none =>
          have written := receives.file_iff place content
          by_cases here : target = place
          · simpa [here] using written
          · simpa [here, Ne.symm here] using written

/-- After any run of replacements a place holds a file exactly if the last successful replacement
under a path to it has written the content, or if there was none and the file is the one of the
start. Whatever happened before, a replacement that fails keeps all there is and adds at most
directories above its path; one that succeeds adds its file and such directories, and its path
names the file to the end. No other file is there after a replacement that was not there before. -/
theorem last_replacement_wins (tree : Tree) (writes : List Write) :
    let final := tree.performAll writes
    (∀ place content, final.node? place = some (.file content) ↔
      match final.lastNaming? place (tree.succeeding writes) with
      | some write => content = write.data
      | none => tree.node? place = some (.file content)) ∧
    ∀ before write after, writes = before ++ write :: after →
      let current := tree.performAll before
      let result := (current.perform write).1
      let next := (current.perform write).2
      (∀ fault, result = .error fault → Grows (·.IsAbove write.path) current next) ∧
      (result = .ok () → ∃ target, final.find write.path = .ok target ∧
        Receives write.path write.data target current next) ∧
      ∀ place content, next.node? place = some (.file content) →
        current.node? place = some (.file content) ∨
          result = .ok () ∧ next.find write.path = .ok place := by
  intro final
  refine ⟨file_performAll_iff tree writes, ?_⟩
  intro before write after split current result next
  have onward : final = next.performAll after := by
    rw [show final = _ from congrArg tree.performAll split, performAll_append]
    rfl
  cases performed : current.perform write with
  | mk outcome reached =>
    have outcome_eq : result = outcome := congrArg Prod.fst performed
    have reached_eq : next = reached := congrArg Prod.snd performed
    rw [reached_eq] at onward
    rw [outcome_eq, reached_eq]
    cases outcome with
    | error fault =>
      have grows := grows_of_perform performed
      refine ⟨fun _ _ => grows, ?_, ?_⟩
      · intro done
        cases done
      · intro place content stands
        exact Or.inl ((grows.file_iff place content).mp stands)
    | ok _ =>
      obtain ⟨target, receives⟩ := receives_of_perform performed
      refine ⟨?_, ?_, ?_⟩
      · intro fault failed
        cases failed
      · intro _
        refine ⟨target, ?_, receives⟩
        rw [onward]
        exact (persists_performAll reached after).find receives.found
      · intro place content stands
        have written := (receives.file_iff place content).mp stands
        by_cases here : place = target
        · exact Or.inr ⟨rfl, here ▸ receives.found⟩
        · rw [if_neg here] at written
          exact Or.inl written

end Tree

end UnitCatalogue.Directory

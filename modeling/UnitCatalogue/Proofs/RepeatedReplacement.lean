import UnitCatalogue.Proofs.FileReplacement

/-!
# The same replacement once more

A replacement that has succeeded succeeds again on the tree that it left, and leaves this tree as it
is. The directories above its path are there now, and the new file takes the place of one with the
same content.
-/

namespace UnitCatalogue.Directory

namespace Path

theorem ancestors_eq_nil_or_cons (path : Path) :
    path.ancestors = [] ∨ ∃ above, path.ancestors = path :: above := by
  rw [ancestors]
  cases count : path.pieces.length with
  | zero => exact Or.inl rfl
  | succ limit =>
    have some_piece : path.pieces.isEmpty = false := by
      rw [List.isEmpty_eq_false_iff, ← List.length_pos_iff]
      omega
    refine Or.inr ⟨ancestorsWithin limit path.parent, ?_⟩
    rw [ancestorsWithin, some_piece]
    rfl

end Path

namespace Tree

theorem isDirectory_iff {tree : Tree} {path : Path} : tree.isDirectory path = true ↔
    ∃ place, tree.find path = .ok place ∧ tree.isDirectoryAt place = true := by
  rw [isDirectory]
  cases tree.find path with
  | ok place => simp
  | error fault => simp

theorem Persists.isDirectory {before after : Tree} (persists : Persists before after)
    {path : Path} (directory : before.isDirectory path = true) :
    after.isDirectory path = true := by
  obtain ⟨place, found, holds⟩ := isDirectory_iff.mp directory
  exact isDirectory_iff.mpr ⟨place, persists.find found, persists.directories place holds⟩

theorem makeDirectory_of_isDirectory {tree : Tree} {path : Path}
    (directory : tree.isDirectory path = true) :
    tree.makeDirectory path = .error .alreadyExists := by
  obtain ⟨place, found, holds⟩ := isDirectory_iff.mp directory
  obtain ⟨usable, walked, _⟩ := find_eq_ok_iff.mp found
  rw [makeDirectory]
  cases ends : path.steps.getLast? with
  | none =>
    rw [slot?, usable, ends]
    rfl
  | some last =>
    -- The walk is one to the folder of the last step, and this step from there.
    rw [← List.dropLast_append_getLast? _ ends] at walked
    obtain ⟨folder, inside, onward⟩ := walk_append_eq_ok_iff.mp walked
    obtain ⟨from_directory, _, present⟩ :=
      walkStep_eq_ok_iff.mp (walk_singleton_eq_ok_iff.mp onward)
    have slot : tree.slot? path = .ok (some ⟨folder, last⟩) :=
      slot?_eq_some_iff.mpr ⟨usable, ends, inside, from_directory⟩
    rw [slot]
    cases last with
    | stay => rfl
    | up => rfl
    | down name =>
      obtain ⟨fits, stands⟩ := present name rfl
      simp [bind, Except.bind, Nat.not_lt.mpr fits, stands]

theorem isDirectory_of_makeDirectory {tree after : Tree} {path : Path}
    (made : tree.makeDirectory path = .ok after) : after.isDirectory path = true := by
  have keeps := (grows_makeDirectory made).keepsDirectories
  obtain ⟨folder, name, slot, fits, _, rfl⟩ := makeDirectory_eq_ok made
  have stands : (tree.put (folder ++ [name]) .directory).node? (folder ++ [name]) =
      some .directory := by
    rw [node?_put _ (by simp), if_pos rfl]
  have directory := isDirectoryAt_iff.mpr stands
  refine isDirectory_iff.mpr ⟨folder ++ [name], ?_, directory⟩
  exact find_of_slot? keeps slot fits (by rw [stands]; rfl) fun _ => directory

/-- An attempt that comes to nothing where a directory stands. -/
def Tolerates (refusals : Refusals) (path : Path) : Prop :=
  refusals.making path = none ∨ refusals.making path = some .alreadyExists

variable {refusals : Refusals} {tree after : Tree} {path : Path}

theorem tryDirectory_of_isDirectory (tolerates : Tolerates refusals path)
    (directory : tree.isDirectory path = true) :
    tryDirectory refusals tree path = .error .alreadyExists := by
  rw [tryDirectory]
  rcases tolerates with none | refused
  · rw [none, makeDirectory_of_isDirectory directory]
  · rw [refused]

theorem isDirectory_of_tryDirectory (made : tryDirectory refusals tree path = .ok after) :
    Tolerates refusals path ∧ after.isDirectory path = true := by
  rw [tryDirectory] at made
  split at made
  · cases made
  · next none => exact ⟨Or.inl none, isDirectory_of_makeDirectory made⟩

theorem tolerates_of_tryDirectory
    (failed : tryDirectory refusals tree path = .error .alreadyExists) :
    Tolerates refusals path := by
  rw [tryDirectory] at failed
  split at failed
  · next fault refused =>
    cases failed
    exact Or.inr refused
  · next none => exact Or.inl none

theorem ensureFirst_of_isDirectory (tolerates : Tolerates refusals path)
    (directory : tree.isDirectory path = true) (above : List Path) :
    ensureFirst refusals (path :: above) tree = (.ok (), tree) := by
  rw [ensureFirst, tryDirectory_of_isDirectory tolerates directory]
  simp [directory]

theorem isDirectory_of_ensureFirst {above : List Path}
    (ensured : ensureFirst refusals (path :: above) tree = (.ok (), after)) :
    Tolerates refusals path ∧ after.isDirectory path = true := by
  have settled : ∀ {tree : Tree} {fault : Fault}, tryDirectory refusals tree path = .error fault →
      (if fault = .alreadyExists ∧ tree.isDirectory path then .ok () else .error fault, tree) =
        ((.ok (), after) : Except Fault Unit × Tree) →
      Tolerates refusals path ∧ after.isDirectory path = true := by
    intro tree fault failed same
    obtain ⟨result, rfl⟩ := Prod.mk.inj same
    split at result
    · next there =>
      rw [there.1] at failed
      exact ⟨tolerates_of_tryDirectory failed, there.2⟩
    · cases result
  rw [ensureFirst] at ensured
  split at ensured
  · next made =>
    obtain ⟨_, rfl⟩ := Prod.mk.inj ensured
    exact isDirectory_of_tryDirectory made
  · split at ensured
    · cases ensured
    · split at ensured
      · next made =>
        obtain ⟨_, rfl⟩ := Prod.mk.inj ensured
        exact isDirectory_of_tryDirectory made
      · next failed => exact settled failed ensured
  · next failed => exact settled failed ensured

theorem ensureDirectory_again {later : Tree}
    (ensured : ensureDirectory refusals tree path = (.ok (), after))
    (persists : Persists after later) :
    ensureDirectory refusals later path = (.ok (), later) := by
  rw [ensureDirectory] at ensured ⊢
  rcases path.ancestors_eq_nil_or_cons with none | ⟨above, first⟩
  · rw [none]
    rfl
  · rw [first] at ensured ⊢
    obtain ⟨tolerates, directory⟩ := isDirectory_of_ensureFirst ensured
    exact ensureFirst_of_isDirectory tolerates (persists.isDirectory directory) above

theorem rename_of_slot? {old folder : Place} {name : String} {node : Node}
    (slot : tree.slot? path = .ok (some ⟨folder, .down name⟩))
    (fits : name.utf8ByteSize ≤ maxName) (no_slash : path.endsWithSlash = false)
    (not_directory : tree.isDirectoryAt (folder ++ [name]) = false)
    (stands : tree.node? old = some node) (moves : old ≠ folder ++ [name]) :
    tree.rename old path = .ok ((tree.remove old).put (folder ++ [name]) node) := by
  rw [rename, slot]
  simp [bind, Except.bind, pure, Except.pure, Nat.not_lt.mpr fits, no_slash, not_directory, stands,
    moves]

theorem writeReplacing_eq_ok_iff {naming : Naming} {data : ByteArray} :
    tree.writeReplacing naming path data refusals = (.ok (), after) ↔
      ∃ middle folder, ensureDirectory refusals tree path.folder = (.ok (), middle) ∧
        middle.walk (middle.startOf path) path.folder.steps = .ok folder ∧
        checkPath (middle.pathWithin path.folder (sampleName)) = .ok () ∧
        refusals.writing = none ∧
        (middle.put (folder ++ [naming.name middle folder]) (.file data)).rename
          (folder ++ [naming.name middle folder]) path = .ok after := by
  rw [writeReplacing]
  constructor
  · intro done
    split at done
    · cases done
    · next middle ensured =>
      split at done
      · cases done
      · next folder walked =>
        split at done
        · cases done
        · next usable =>
          simp only at done
          split at done
          · cases done
          · next writing =>
            split at done
            · next renamed =>
              obtain ⟨_, rfl⟩ := Prod.mk.inj done
              exact ⟨middle, folder, ensured, walked, usable, writing, renamed⟩
            · cases done
  · rintro ⟨middle, folder, ensured, walked, usable, writing, renamed⟩
    simp only [ensured, walked, usable, writing, renamed]

/-- A file that is written once more is the file that was there. -/
theorem rename_again {middle after : Tree} {temporary temporary' : Place} {content : ByteArray}
    (not_root : temporary ≠ []) (not_root' : temporary' ≠ [])
    (fresh' : after.node? temporary' = none)
    (renamed : (middle.put temporary (.file content)).rename temporary path = .ok after) :
    (after.put temporary' (.file content)).rename temporary' path = .ok after := by
  have staged : (middle.put temporary (.file content)).node? temporary = some (.file content) := by
    rw [node?_put _ not_root, if_pos rfl]
  obtain ⟨folder, name, node, slot, fits, no_slash, _, stood, _, told⟩ :=
    rename_eq_ok not_root renamed
  obtain rfl : .file content = node := Option.some.inj (staged.symm.trans stood)
  have written : after.node? (folder ++ [name]) = some (.file content) := by rw [told, if_pos rfl]
  have moves : temporary' ≠ folder ++ [name] := by
    rintro rfl
    rw [fresh'] at written
    cases written
  have kept : ∀ place node, after.node? place = some node →
      (after.put temporary' (.file content)).node? place = some node := by
    intro place node stands
    rw [node?_put _ not_root', if_neg ?_, stands]
    rintro rfl
    rw [fresh'] at stands
    cases stands
  have keeps : KeepsDirectories after (after.put temporary' (.file content)) :=
    .of_kept rfl kept
  have slot' := keeps.slot? ((keepsDirectories_of_rename not_root staged renamed).slot? slot)
  have not_directory : (after.put temporary' (.file content)).isDirectoryAt (folder ++ [name]) =
      false := by
    rw [isDirectoryAt, kept _ _ written]
    rfl
  have stands : (after.put temporary' (.file content)).node? temporary' = some (.file content) := by
    rw [node?_put _ not_root', if_pos rfl]
  rw [rename_of_slot? slot' fits no_slash not_directory stands moves,
    remove_put_of_absent not_root' fresh', put_eq_self (by simp) written]

/-- The name of the new file may be another one the second time. -/
theorem writeReplacing_again {naming : Naming} {data : ByteArray}
    (done : tree.writeReplacing naming path data refusals = (.ok (), after)) (naming' : Naming) :
    after.writeReplacing naming' path data refusals = (.ok (), after) := by
  obtain ⟨middle, folder, ensured, walked, usable, writing, renamed⟩ :=
    writeReplacing_eq_ok_iff.mp done
  have fresh := naming.fresh middle folder
  obtain ⟨_, receives⟩ := receives_of_rename (by simp) fresh renamed
  have persists := receives.persists
  have renamed_again := rename_again (by simp) (by simp) (naming'.fresh after folder) renamed
  refine writeReplacing_eq_ok_iff.mpr
    ⟨after, folder, ensureDirectory_again ensured persists, ?_, ?_, writing, renamed_again⟩
  · rw [persists.startOf_eq]
    exact persists.walk walked
  · rw [pathWithin, persists.working]
    exact usable

end Tree

end UnitCatalogue.Directory

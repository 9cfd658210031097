import UnitCatalogue.Proofs.TreeGrowth

/-!
# Replacing a file

A replacement that succeeds changes one file and adds the missing directories above it. One that
fails, at whatever step, adds at most such directories, and the new file is gone again.
-/

namespace UnitCatalogue.Directory.Tree

/-- The path holds the content, and nothing else has changed but for directories above it. -/
structure Receives (path : Path) (content : ByteArray) (place : Place) (before after : Tree) :
    Prop where
  working : after.working = before.working
  found : after.find path = .ok place
  holds : after.node? place = some (.file content)
  not_directory : before.isDirectoryAt place = false
  kept : ∀ other node, other ≠ place → before.node? other = some node →
    after.node? other = some node
  added : ∀ other node, other ≠ place → before.node? other = none →
    after.node? other = some node →
      node = .directory ∧ ∃ upper : Path, upper.IsAbove path ∧ after.find upper = .ok other

theorem read_eq_ok_iff {tree : Tree} {path : Path} {content : ByteArray} :
    tree.read path = .ok content ↔
      ∃ place, tree.find path = .ok place ∧ tree.node? place = some (.file content) := by
  rw [read]
  cases tree.find path with
  | error fault => simp [bind, Except.bind]
  | ok place =>
    cases stands : tree.node? place with
    | none => simp [bind, Except.bind, stands]
    | some node =>
      cases node with
      | directory => simp [bind, Except.bind, stands]
      | file content => simp [bind, Except.bind, pure, Except.pure, stands]

theorem Receives.read_eq {path : Path} {content : ByteArray} {place : Place} {before after : Tree}
    (receives : Receives path content place before after) : after.read path = .ok content :=
  read_eq_ok_iff.mpr ⟨place, receives.found, receives.holds⟩

theorem rename_eq_ok {tree after : Tree} {old : Place} {path : Path} (not_root : old ≠ [])
    (renamed : tree.rename old path = .ok after) :
    ∃ folder name node, tree.slot? path = .ok (some ⟨folder, .down name⟩) ∧
      name.utf8ByteSize ≤ maxName ∧ path.endsWithSlash = false ∧
      tree.isDirectoryAt (folder ++ [name]) = false ∧ tree.node? old = some node ∧
      after.working = tree.working ∧
      ∀ place, after.node? place = if place = folder ++ [name] then some node
        else if place = old then none else tree.node? place := by
  rw [rename] at renamed
  cases slotted : tree.slot? path with
  | error fault =>
    rw [slotted] at renamed
    cases renamed
  | ok slot =>
    rw [slotted] at renamed
    match slot with
    | none => cases renamed
    | some ⟨folder, .stay⟩ => cases renamed
    | some ⟨folder, .up⟩ => cases renamed
    | some ⟨folder, .down name⟩ =>
      simp only [bind, Except.bind, pure, Except.pure] at renamed
      by_cases long : maxName < name.utf8ByteSize
      · simp [long] at renamed
      by_cases slash : path.endsWithSlash = true
      · simp [long, slash] at renamed
      by_cases directory : tree.isDirectoryAt (folder ++ [name]) = true
      · simp [long, slash, directory] at renamed
      cases stands : tree.node? old with
      | none => simp [long, slash, directory, stands] at renamed
      | some node =>
        refine ⟨folder, name, node, rfl, Nat.not_lt.mp long, by simpa using slash,
          by simpa using directory, rfl, ?_⟩
        simp only [if_neg long, if_neg slash, if_neg directory, stands] at renamed
        by_cases same : old = folder ++ [name]
        · obtain rfl : tree = after := by simpa [same] using renamed
          refine ⟨rfl, fun place => ?_⟩
          by_cases here : place = folder ++ [name]
          · rw [if_pos here, here, ← same, stands]
          · rw [if_neg here, if_neg (same ▸ here)]
        · obtain rfl : (tree.remove old).put (folder ++ [name]) node = after := by
            simpa [same] using renamed
          refine ⟨rfl, fun place => ?_⟩
          rw [node?_put place (by simp), node?_remove _ _ _ not_root]

/-- A file moves, and no directory is replaced by it. -/
theorem keepsDirectories_of_rename {tree after : Tree} {old : Place} {path : Path}
    {content : ByteArray} (not_root : old ≠ []) (file : tree.node? old = some (.file content))
    (renamed : tree.rename old path = .ok after) : KeepsDirectories tree after := by
  obtain ⟨folder, name, _, _, _, _, no_directory, _, working, told⟩ := rename_eq_ok not_root renamed
  refine ⟨working, fun other directory => ?_⟩
  have not_target : other ≠ folder ++ [name] := by
    rintro rfl
    simp [no_directory] at directory
  rw [isDirectoryAt_iff] at directory ⊢
  have not_old : other ≠ old := by
    rintro rfl
    rw [file] at directory
    cases directory
  rw [told, if_neg not_target, if_neg not_old, directory]

theorem Receives.keepsDirectories {path : Path} {content : ByteArray} {place : Place}
    {before after : Tree} (receives : Receives path content place before after) :
    KeepsDirectories before after where
  working := receives.working
  directories other directory := by
    have differs : other ≠ place := by
      rintro rfl
      simp [receives.not_directory] at directory
    rw [isDirectoryAt_iff] at directory ⊢
    exact receives.kept other _ differs directory

theorem Receives.persists {path : Path} {content : ByteArray} {target : Place}
    {before after : Tree} (receives : Receives path content target before after) :
    Persists before after where
  toKeepsDirectories := receives.keepsDirectories
  present place stands := by
    by_cases same : place = target
    · rw [same, receives.holds]
      rfl
    · obtain ⟨node, stands⟩ := Option.isSome_iff_exists.mp stands
      rw [receives.kept place node same stands]
      rfl

theorem Receives.leadsTo_eq {path : Path} {content : ByteArray} {place : Place}
    {before after : Tree} (receives : Receives path content place before after) :
    before.leadsTo path = place := by
  rw [← leadsTo_congr receives.working, leadsTo_of_find receives.found]

/-- A file that the path does not lead to reads as before. -/
theorem Receives.read_of_apart {path other : Path} {content held : ByteArray} {place : Place}
    {before after : Tree} (receives : Receives path content place before after)
    (apart : before.find other ≠ .ok (before.leadsTo path))
    (held_there : before.read other = .ok held) : after.read other = .ok held := by
  obtain ⟨source, found, stands⟩ := read_eq_ok_iff.mp held_there
  have elsewhere : source ≠ place := by
    rintro rfl
    exact apart (receives.leadsTo_eq ▸ found)
  exact read_eq_ok_iff.mpr
    ⟨source, receives.persists.find found, receives.kept source _ elsewhere stands⟩

/-- The new file takes the name of the path. -/
theorem receives_of_rename {tree after : Tree} {temporary : Place} {path : Path}
    {content : ByteArray} (not_root : temporary ≠ []) (fresh : tree.node? temporary = none)
    (renamed : (tree.put temporary (.file content)).rename temporary path = .ok after) :
    ∃ place, Receives path content place tree after := by
  obtain ⟨folder, name, node, slot, fits, no_slash, no_directory, stands, working, told⟩ :=
    rename_eq_ok not_root renamed
  have staged : ∀ other, (tree.put temporary (.file content)).node? other =
      if other = temporary then some (.file content) else tree.node? other :=
    fun other => node?_put other not_root
  rw [staged, if_pos rfl] at stands
  cases stands
  -- The new file is gone from its old place, which was free before.
  have others : ∀ other, other ≠ folder ++ [name] → after.node? other = tree.node? other := by
    intro other differs
    rw [told, if_neg differs]
    split
    · next same => rw [same, fresh]
    · next differs' => rw [staged, if_neg differs']
  have holds : after.node? (folder ++ [name]) = some (.file content) := by
    rw [told, if_pos rfl]
  have not_directory : tree.isDirectoryAt (folder ++ [name]) = false := by
    rw [Bool.eq_false_iff, ne_eq, isDirectoryAt_iff] at no_directory ⊢
    intro directory
    refine no_directory ?_
    rw [staged, if_neg ?_, directory]
    intro same
    rw [same, fresh] at directory
    cases directory
  have keeps := keepsDirectories_of_rename not_root (by rw [staged, if_pos rfl]) renamed
  have found := find_of_slot? keeps slot fits (by rw [holds]; rfl) (by simp [no_slash])
  refine ⟨folder ++ [name], working, found, holds, not_directory, ?_, ?_⟩
  · intro other node differs stood
    rw [others other differs, stood]
  · intro other node differs absent stands
    rw [others other differs, absent] at stands
    cases stands

theorem Receives.of_grows {path : Path} {content : ByteArray} {place : Place}
    {before middle after : Tree} (grows : Grows (·.IsAbove path) before middle)
    (receives : Receives path content place middle after) :
    Receives path content place before after where
  working := receives.working.trans grows.working
  found := receives.found
  holds := receives.holds
  not_directory := by
    rw [Bool.eq_false_iff]
    intro directory
    have kept := grows.keepsDirectories.directories place directory
    simp [receives.not_directory] at kept
  kept other node differs stood := receives.kept other node differs (grows.kept other node stood)
  added other node differs absent stands := by
    cases between : middle.node? other with
    | none => exact receives.added other node differs between stands
    | some earlier =>
      obtain ⟨rfl, upper, above, found⟩ := grows.added other earlier absent between
      have same := receives.kept other _ differs between
      rw [stands] at same
      cases same
      have directory := isDirectoryAt_iff.mpr between
      exact ⟨rfl, upper, above, receives.keepsDirectories.find found directory⟩

/-- What a replacement leaves behind, as its result tells. -/
def LeavesBehind (path : Path) (data : ByteArray) (before : Tree) :
    Except Fault Unit × Tree → Prop
  | (.ok (), after) => ∃ place, Receives path data place before after
  | (.error _, after) => Grows (·.IsAbove path) before after

theorem leavesBehind_writeReplacing (naming : Naming) (tree : Tree) (path : Path)
    (data : ByteArray) (refusals : Refusals) :
    LeavesBehind path data tree (tree.writeReplacing naming path data refusals) := by
  have grows := grows_ensureDirectory refusals tree path
  rw [writeReplacing]
  split
  · next fault middle ensured =>
    rw [ensured] at grows
    exact grows
  · next middle ensured =>
    rw [ensured] at grows
    split
    · exact grows
    · next folder walked =>
      have not_root : folder ++ [naming.name middle folder] ≠ [] := by simp
      have fresh := naming.fresh middle folder
      have undone : (middle.put (folder ++ [naming.name middle folder])
          (.file data)).remove (folder ++ [naming.name middle folder]) = middle :=
        remove_put_of_absent not_root fresh
      simp only
      split
      · exact grows
      · split
        · rwa [undone]
        · split
          · next after renamed =>
            obtain ⟨place, receives⟩ := receives_of_rename not_root fresh renamed
            exact ⟨place, receives.of_grows grows⟩
          · rwa [undone]

end UnitCatalogue.Directory.Tree

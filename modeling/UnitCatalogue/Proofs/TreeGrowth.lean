import UnitCatalogue.Proofs.TreeWalks

/-!
# Growth of a tree

Missing directories are made one by one, each inside one that is there. The tree grows by them and
by nothing else, and each of them is found under one of the paths that were tried.
-/

namespace UnitCatalogue.Directory

namespace Path

/-- The first pieces of a path, but not all of them. -/
structure IsAbove (upper path : Path) : Prop where
  fromRoot_eq : upper.fromRoot = path.fromRoot
  pieces : upper.pieces <+: path.pieces
  shorter : upper.pieces.length < path.pieces.length

def EndsInName (path : Path) : Prop := ∃ name, path.steps.getLast? = some (.down name)

theorem EndsInName.pieces_ne_nil {path : Path} (ends : path.EndsInName) : path.pieces ≠ [] := by
  obtain ⟨name, last⟩ := ends
  intro none
  rw [steps, none] at last
  cases last

theorem not_endsInName_here : ¬here.EndsInName := by
  rintro ⟨name, last⟩
  have stays : here.steps.getLast? = some .stay := by decide
  rw [stays] at last
  cases last

theorem withoutIdleEnd_isPrefix (pieces : List String) : withoutIdleEnd pieces <+: pieces := by
  have kept := List.dropWhile_suffix isIdle (l := pieces.reverse)
  simpa [withoutIdleEnd] using List.reverse_prefix.mpr kept

theorem fromRoot_trim (path : Path) : path.trim.fromRoot = path.fromRoot := by
  unfold trim
  split <;> rfl

theorem pieces_trim_isPrefix (path : Path) : path.trim.pieces <+: path.pieces := by
  unfold trim
  split
  · exact (List.prefix_cons_inj _).mpr (withoutIdleEnd_isPrefix _)
  · exact withoutIdleEnd_isPrefix _

theorem fromRoot_parent (path : Path) : path.parent.fromRoot = path.fromRoot := by
  rw [parent, fromRoot_trim]

theorem pieces_parent_isPrefix (path : Path) : path.parent.pieces <+: path.pieces := by
  have first := pieces_trim_isPrefix ⟨path.fromRoot, path.trim.pieces.dropLast⟩
  have second := List.dropLast_prefix path.trim.pieces
  exact (first.trans second).trans (pieces_trim_isPrefix path)

theorem steps_append (fromRoot : Bool) (front back : List String) :
    steps ⟨fromRoot, front ++ back⟩ = steps ⟨fromRoot, front⟩ ++ steps ⟨fromRoot, back⟩ := by
  simp [steps]

theorem steps_of_isIdle {fromRoot : Bool} {pieces : List String}
    (idle : ∀ piece ∈ pieces, isIdle piece = true) :
    (steps ⟨fromRoot, pieces⟩).filter Step.moves = [] := by
  simp only [steps, List.filter_eq_nil_iff, List.mem_map, List.mem_filter]
  rintro step ⟨piece, ⟨member, some_text⟩, rfl⟩
  obtain rfl : piece = "." := by simpa [isIdle, bne_iff_ne.mp some_text] using idle piece member
  decide

theorem exists_idle_end (pieces : List String) : ∃ idle,
    pieces = withoutIdleEnd pieces ++ idle ∧ ∀ piece ∈ idle, isIdle piece = true := by
  refine ⟨(pieces.reverse.takeWhile isIdle).reverse, ?_, ?_⟩
  · rw [withoutIdleEnd, ← List.reverse_append, List.takeWhile_append_dropWhile,
      List.reverse_reverse]
  · intro piece member
    exact List.all_eq_true.mp List.all_takeWhile piece (List.mem_reverse.mp member)

theorem exists_idle_end_trim (path : Path) : ∃ idle,
    path.pieces = path.trim.pieces ++ idle ∧ ∀ piece ∈ idle, isIdle piece = true := by
  unfold trim
  split
  · next first rest =>
    obtain ⟨idle, whole, all_idle⟩ := exists_idle_end rest
    exact ⟨idle, congrArg (first :: ·) whole, all_idle⟩
  · exact exists_idle_end _

/-- Behind the steps of the parent there is at most one that moves. -/
theorem steps_eq_parent_append (path : Path) : ∃ rest,
    path.steps = path.parent.steps ++ rest ∧ (rest.filter Step.moves).length ≤ 1 := by
  obtain ⟨idle, whole, all_idle⟩ := path.exists_idle_end_trim
  obtain ⟨idle', front, all_idle'⟩ :=
    exists_idle_end_trim ⟨path.fromRoot, path.trim.pieces.dropLast⟩
  have front : path.trim.pieces.dropLast = path.parent.pieces ++ idle' := front
  let last := path.trim.pieces.getLast?.toList
  have trimmed : path.trim.pieces = path.trim.pieces.dropLast ++ last := by
    cases ends : path.trim.pieces.getLast? with
    | none => simp [last, List.getLast?_eq_none_iff.mp ends]
    | some piece => simpa [last, ends] using (List.dropLast_append_getLast? _ ends).symm
  have pieces : path.pieces = path.parent.pieces ++ (idle' ++ last ++ idle) := by
    calc path.pieces = path.trim.pieces ++ idle := whole
      _ = path.trim.pieces.dropLast ++ last ++ idle := by rw [← trimmed]
      _ = path.parent.pieces ++ idle' ++ last ++ idle := by rw [front]
      _ = path.parent.pieces ++ (idle' ++ last ++ idle) := by simp only [List.append_assoc]
  refine ⟨steps ⟨path.fromRoot, idle' ++ last ++ idle⟩, ?_, ?_⟩
  · have parent_eq : path.parent = ⟨path.fromRoot, path.parent.pieces⟩ := by
      rw [← fromRoot_parent path]
    rw [parent_eq, ← steps_append, ← pieces]
  · have short : last.length ≤ 1 := Option.length_toList_le
    rw [steps_append, steps_append, List.filter_append, List.filter_append,
      steps_of_isIdle all_idle, steps_of_isIdle all_idle']
    simp only [List.nil_append, List.append_nil]
    calc ((steps ⟨path.fromRoot, last⟩).filter Step.moves).length
        ≤ (steps ⟨path.fromRoot, last⟩).length := List.length_filter_le _ _
      _ = (last.filter (· != "")).length := List.length_map _
      _ ≤ last.length := List.length_filter_le _ _
      _ ≤ 1 := short

/-- The folder of a bare name is the working directory, where the walk starts. -/
theorem folder_eq (path : Path) :
    path.folder = path.parent ∨ path.folder = here ∧ path.parent.steps = [] := by
  rw [folder]
  split
  · next bare =>
    refine Or.inr ⟨rfl, ?_⟩
    have none : path.parent.pieces = [] := by
      simpa using (Bool.and_eq_true_iff.mp bare).1
    rw [steps, none]
    rfl
  · exact Or.inl rfl

theorem mem_ancestorsWithin {limit : Nat} {upper path : Path}
    (member : upper ∈ ancestorsWithin limit path) :
    upper.fromRoot = path.fromRoot ∧ upper.pieces <+: path.pieces := by
  induction limit generalizing path with
  | zero => cases member
  | succ limit ih =>
    rw [ancestorsWithin] at member
    split at member
    · cases member
    · rcases List.mem_cons.mp member with rfl | further
      · exact ⟨rfl, List.prefix_rfl⟩
      · obtain ⟨root, pieces⟩ := ih further
        exact ⟨root.trans (fromRoot_parent path), pieces.trans (pieces_parent_isPrefix path)⟩

/-- The working directory stands in for the parent of a bare name, but nothing is made there. -/
theorem isAbove_of_mem_ancestors_folder {upper path : Path}
    (member : upper ∈ path.folder.ancestors) (ends : upper.EndsInName) : upper.IsAbove path := by
  rw [folder] at member
  split at member
  · have only : here.ancestors = [here] := by decide
    rw [only] at member
    obtain rfl := List.mem_singleton.mp member
    exact absurd ends not_endsInName_here
  · obtain ⟨root, pieces⟩ := mem_ancestorsWithin member
    have inside := pieces.trans (pieces_parent_isPrefix path)
    have some_piece : path.pieces ≠ [] := by
      intro none
      rw [none, List.prefix_nil] at inside
      exact ends.pieces_ne_nil inside
    exact ⟨root.trans (fromRoot_parent path), inside,
      Nat.lt_of_le_of_lt pieces.length_le (length_parent_lt path some_piece)⟩

end Path

namespace Tree

theorem walk_parent {tree : Tree} {path : Path} {place folder : Place}
    (walked : tree.walk place path.folder.steps = .ok folder) :
    tree.walk place path.parent.steps = .ok folder := by
  rcases path.folder_eq with same | ⟨bare, none⟩
  · rwa [← same]
  · have stays : Path.here.steps = [.stay] := by decide
    rw [bare, stays] at walked
    rw [none, ← walk_eq_foldl walked]
    rfl

/-- Everything stays as it is, and what is new is a directory under one of the named paths. -/
structure Grows (named : Path → Prop) (before after : Tree) : Prop where
  working : after.working = before.working
  kept : ∀ place node, before.node? place = some node → after.node? place = some node
  added : ∀ place node, before.node? place = none → after.node? place = some node →
    node = .directory ∧ ∃ path, named path ∧ after.find path = .ok place

variable {named : Path → Prop}

theorem Grows.refl (tree : Tree) : Grows named tree tree where
  working := rfl
  kept _ _ stands := stands
  added place node absent stands := by
    rw [absent] at stands
    cases stands

theorem Grows.mono {named' : Path → Prop} {before after : Tree} (grows : Grows named before after)
    (wider : ∀ path, named path → named' path) : Grows named' before after where
  working := grows.working
  kept := grows.kept
  added place node absent stands := by
    obtain ⟨directory, path, holds, found⟩ := grows.added place node absent stands
    exact ⟨directory, path, wider path holds, found⟩

theorem Grows.keepsDirectories {before after : Tree} (grows : Grows named before after) :
    KeepsDirectories before after := .of_kept grows.working grows.kept

theorem Grows.persists {before after : Tree} (grows : Grows named before after) :
    Persists before after where
  toKeepsDirectories := grows.keepsDirectories
  present place stands := by
    obtain ⟨node, stands⟩ := Option.isSome_iff_exists.mp stands
    rw [grows.kept place node stands]
    rfl

theorem Grows.trans {first second third : Tree} (before : Grows named first second)
    (after : Grows named second third) : Grows named first third where
  working := after.working.trans before.working
  kept place node stands := after.kept place node (before.kept place node stands)
  added place node absent stands := by
    cases between : second.node? place with
    | none => exact after.added place node between stands
    | some earlier =>
      obtain ⟨rfl, path, holds, found⟩ := before.added place earlier absent between
      have same := after.kept place _ between
      rw [stands] at same
      cases same
      exact ⟨rfl, path, holds, after.keepsDirectories.find found (isDirectoryAt_iff.mpr between)⟩

theorem makeDirectory_eq_ok {tree after : Tree} {path : Path}
    (made : tree.makeDirectory path = .ok after) :
    ∃ folder name, tree.slot? path = .ok (some ⟨folder, .down name⟩) ∧
      name.utf8ByteSize ≤ maxName ∧ tree.node? (folder ++ [name]) = none ∧
      after = tree.put (folder ++ [name]) .directory := by
  rw [makeDirectory] at made
  cases slotted : tree.slot? path with
  | error fault =>
    rw [slotted] at made
    cases made
  | ok slot =>
    rw [slotted] at made
    match slot with
    | none => cases made
    | some ⟨folder, .stay⟩ => cases made
    | some ⟨folder, .up⟩ => cases made
    | some ⟨folder, .down name⟩ =>
      by_cases long : maxName < name.utf8ByteSize
      · simp [bind, Except.bind, long] at made
      · by_cases present : (tree.node? (folder ++ [name])).isSome = true
        · simp [bind, Except.bind, long, present] at made
        · have same : tree.put (folder ++ [name]) .directory = after := by
            simpa [bind, Except.bind, pure, Except.pure, long, present] using made
          exact ⟨folder, name, rfl, Nat.not_lt.mp long, by simpa using present, same.symm⟩

theorem grows_makeDirectory {tree after : Tree} {path : Path}
    (made : tree.makeDirectory path = .ok after) :
    Grows (fun other => other = path ∧ other.EndsInName) tree after := by
  obtain ⟨folder, name, slot, fits, absent, rfl⟩ := makeDirectory_eq_ok made
  have not_root : folder ++ [name] ≠ [] := by simp
  have kept : ∀ place node, tree.node? place = some node →
      (tree.put (folder ++ [name]) .directory).node? place = some node := by
    intro place node stands
    rw [node?_put place not_root]
    split
    · next same =>
      rw [same, absent] at stands
      cases stands
    · exact stands
  refine ⟨rfl, kept, ?_⟩
  intro place node missing stands
  rw [node?_put place not_root] at stands
  split at stands
  · next same =>
    subst same
    cases stands
    have keeps : KeepsDirectories tree (tree.put (folder ++ [name]) .directory) :=
      .of_kept rfl kept
    have made_there : (tree.put (folder ++ [name]) .directory).node? (folder ++ [name]) =
        some .directory := by
      rw [node?_put _ not_root, if_pos rfl]
    obtain ⟨_, ends, _⟩ := slot?_eq_some_iff.mp slot
    refine ⟨rfl, path, ⟨rfl, name, ends⟩, ?_⟩
    exact find_of_slot? keeps slot fits (by rw [made_there]; rfl)
      fun _ => isDirectoryAt_iff.mpr made_there
  · rw [missing] at stands
    cases stands

theorem grows_tryDirectory {refusals : Refusals} {tree after : Tree} {path : Path}
    (made : tryDirectory refusals tree path = .ok after) :
    Grows (fun other => other = path ∧ other.EndsInName) tree after := by
  rw [tryDirectory] at made
  split at made
  · cases made
  · exact grows_makeDirectory made

theorem grows_ensureFirst (refusals : Refusals) (paths : List Path) (tree : Tree) :
    Grows (fun path => path ∈ paths ∧ path.EndsInName) tree
      (ensureFirst refusals paths tree).2 := by
  induction paths generalizing tree with
  | nil => exact Grows.refl tree
  | cons path above ih =>
    have first : ∀ other, other = path ∧ other.EndsInName →
        other ∈ path :: above ∧ other.EndsInName := by
      rintro other ⟨rfl, ends⟩
      exact ⟨List.mem_cons_self, ends⟩
    have later : ∀ other, other ∈ above ∧ other.EndsInName →
        other ∈ path :: above ∧ other.EndsInName := by
      rintro other ⟨member, ends⟩
      exact ⟨List.mem_cons_of_mem _ member, ends⟩
    have upper := (ih tree).mono later
    rw [ensureFirst]
    split
    · next after made => exact (grows_tryDirectory made).mono first
    · -- The directories above come first; what they added is kept when the last one is made.
      split
      · next fault after failed =>
        rw [failed] at upper
        exact upper
      · next after ensured =>
        rw [ensured] at upper
        split
        · next last made => exact upper.trans ((grows_tryDirectory made).mono first)
        · exact upper
    · exact Grows.refl tree

theorem grows_ensureDirectory (refusals : Refusals) (tree : Tree) (path : Path) :
    Grows (·.IsAbove path) tree (ensureDirectory refusals tree path.folder).2 := by
  refine (grows_ensureFirst refusals path.folder.ancestors tree).mono ?_
  rintro upper ⟨member, ends⟩
  exact Path.isAbove_of_mem_ancestors_folder member ends

end Tree

end UnitCatalogue.Directory

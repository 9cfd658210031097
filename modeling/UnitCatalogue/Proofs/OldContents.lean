import UnitCatalogue.Proofs.FileReplacement

/-!
# The old content of a file

Two trees that differ in the content of one file and in nothing else look alike to every walk: the
same paths are found, and the same directories are made. The new file may get one name in the first
tree and another in the second, but no walk to the old file passes it. To replace that file succeeds
or fails on both in the same way, and after a success the trees are the same.
-/

namespace UnitCatalogue.Directory.Tree

/-- The trees differ at most in the content of the file that both have at a place. -/
structure DifferInFile (target : Place) (first second : Tree) : Prop where
  working : second.working = first.working
  elsewhere : ∀ place, place ≠ target → second.node? place = first.node? place
  first_file : ∃ content, first.node? target = some (.file content)
  second_file : ∃ content, second.node? target = some (.file content)

/-- The same stands at every place, and relative paths start at the same one. -/
structure Same (first second : Tree) : Prop where
  working : second.working = first.working
  everywhere : ∀ place, second.node? place = first.node? place

theorem differInFile_put (tree : Tree) {target : Place} (not_root : target ≠ [])
    (content content' : ByteArray) :
    DifferInFile target (tree.put target (.file content)) (tree.put target (.file content')) where
  working := rfl
  elsewhere place apart := by
    rw [node?_put _ not_root, node?_put _ not_root, if_neg apart, if_neg apart]
  first_file := ⟨content, by rw [node?_put _ not_root, if_pos rfl]⟩
  second_file := ⟨content', by rw [node?_put _ not_root, if_pos rfl]⟩

/-- A walk to a folder has not passed what is not there. -/
theorem passed_ne_of_walk {tree : Tree} {place folder : Place} {name : String} {steps : List Step}
    (walked : tree.walk place steps = .ok folder) (free : tree.node? (folder ++ [name]) = none)
    {passed : List Step} (front : passed <+: steps) :
    passed.foldl Step.onward place ≠ folder ++ [name] := by
  obtain ⟨rest, rfl⟩ := front
  obtain ⟨middle, reached, onward⟩ := walk_append_eq_ok_iff.mp walked
  rw [walk_eq_foldl reached]
  cases rest with
  | nil =>
    obtain rfl : middle = folder := Except.ok.inj onward
    simp
  | cons step rest =>
    rintro rfl
    obtain ⟨_, stepped, _⟩ := walk_cons_eq_ok_iff.mp onward
    have directory := isDirectoryAt_iff.mp (isDirectoryAt_of_walkStep stepped)
    cases free.symm.trans directory

/-- From the folder of a path there is at most one step that moves, the one to its end. So a walk
along the path does not pass a new file in the folder. -/
theorem passed_ne_of_free {tree : Tree} {path : Path} {folder : Place} {name : String}
    (walked : tree.walk (tree.startOf path) path.folder.steps = .ok folder)
    (free : tree.node? (folder ++ [name]) = none) (apart : tree.leadsTo path ≠ folder ++ [name])
    {passed : List Step} (front : passed <+: path.steps) :
    passed.foldl Step.onward (tree.startOf path) ≠ folder ++ [name] := by
  obtain ⟨rest, steps, once⟩ := path.steps_eq_parent_append
  have to_folder := walk_parent walked
  rw [steps] at front
  rcases List.prefix_or_prefix_of_prefix front (List.prefix_append path.parent.steps rest) with
    early | ⟨more, rfl⟩
  · exact passed_ne_of_walk to_folder free early
  · have onward : more <+: rest := (List.prefix_append_right_inj _).mp front
    rw [leadsTo, steps, List.foldl_append, walk_eq_foldl to_folder] at apart
    rw [List.foldl_append, walk_eq_foldl to_folder]
    rcases Step.foldl_onward_of_prefix folder onward once with stays | ends
    · rw [stays]
      simp
    · rwa [ends]

theorem slot?_put_of_free {tree : Tree} {path : Path} {folder : Place} {name : String} (node : Node)
    (walked : tree.walk (tree.startOf path) path.folder.steps = .ok folder)
    (free : tree.node? (folder ++ [name]) = none) (apart : tree.leadsTo path ≠ folder ++ [name]) :
    (tree.put (folder ++ [name]) node).slot? path = tree.slot? path := by
  have not_root : folder ++ [name] ≠ [] := by simp
  have same_walk : (tree.put (folder ++ [name]) node).walk (tree.startOf path)
      path.steps.dropLast = tree.walk (tree.startOf path) path.steps.dropLast :=
    walk_put_of_apart not_root fun passed front =>
      passed_ne_of_free walked free apart (front.trans (List.dropLast_prefix _))
  have same_start : (tree.put (folder ++ [name]) node).startOf path = tree.startOf path := rfl
  rw [slot?, slot?, same_start, same_walk]
  cases checkPath path with
  | error fault => rfl
  | ok _ =>
    cases path.steps.getLast? with
    | none => rfl
    | some last =>
      cases reached : tree.walk (tree.startOf path) path.steps.dropLast with
      | error fault => rfl
      | ok place =>
        have elsewhere : place ≠ folder ++ [name] := by
          rw [← walk_eq_foldl reached]
          exact passed_ne_of_free walked free apart (List.dropLast_prefix _)
        simp only [bind, Except.bind, isDirectoryAt_put_of_apart not_root elsewhere]

/-- Two attempts with one result: the same fault, or trees that are related. -/
inductive Alike (related : Tree → Tree → Prop) : Except Fault Tree → Except Fault Tree → Prop where
  | error (fault : Fault) : Alike related (.error fault) (.error fault)
  | ok {first second : Tree} : related first second → Alike related (.ok first) (.ok second)

theorem Alike.cases {related : Tree → Tree → Prop} {first second : Except Fault Tree}
    (alike : Alike related first second) :
    (∃ fault, first = .error fault ∧ second = .error fault) ∨
      ∃ tree tree', first = .ok tree ∧ second = .ok tree' ∧ related tree tree' := by
  cases alike with
  | error fault => exact Or.inl ⟨fault, rfl, rfl⟩
  | ok holds => exact Or.inr ⟨_, _, rfl, rfl, holds⟩

namespace DifferInFile

variable {target : Place} {first second : Tree} (differ : DifferInFile target first second)
include differ

theorem symm : DifferInFile target second first where
  working := differ.working.symm
  elsewhere place apart := (differ.elsewhere place apart).symm
  first_file := differ.second_file
  second_file := differ.first_file

theorem isDirectoryAt_eq (place : Place) :
    second.isDirectoryAt place = first.isDirectoryAt place := by
  rw [isDirectoryAt, isDirectoryAt]
  by_cases same : place = target
  · obtain ⟨content, stands⟩ := differ.first_file
    obtain ⟨content', stands'⟩ := differ.second_file
    rw [same, stands, stands']
    rfl
  · rw [differ.elsewhere place same]

theorem isSome_eq (place : Place) :
    (second.node? place).isSome = (first.node? place).isSome := by
  by_cases same : place = target
  · obtain ⟨content, stands⟩ := differ.first_file
    obtain ⟨content', stands'⟩ := differ.second_file
    rw [same, stands, stands']
    rfl
  · rw [differ.elsewhere place same]

theorem ne_of_absent {place : Place} (absent : first.node? place = none) : place ≠ target := by
  rintro rfl
  obtain ⟨content, stands⟩ := differ.first_file
  cases absent.symm.trans stands

/-- A new file elsewhere makes no directory of the old one. -/
theorem isDirectoryAt_staged {temporary : Place} (not_root : temporary ≠ [])
    (free : first.node? temporary = none) (node : Node) :
    (first.put temporary node).isDirectoryAt target = false := by
  obtain ⟨content, stands⟩ := differ.first_file
  rw [isDirectoryAt_put_of_apart not_root (differ.ne_of_absent free).symm, isDirectoryAt, stands]
  rfl

theorem startOf_eq (path : Path) : second.startOf path = first.startOf path := by
  rw [startOf, startOf, differ.working]

theorem walkStep_eq (place : Place) (step : Step) :
    second.walkStep place step = first.walkStep place step := by
  simp only [walkStep, differ.isDirectoryAt_eq, differ.isSome_eq]

theorem walk_eq (place : Place) (steps : List Step) :
    second.walk place steps = first.walk place steps := by
  induction steps generalizing place with
  | nil => rfl
  | cons step rest ih => simp only [walk, differ.walkStep_eq, ih]

theorem find_eq (path : Path) : second.find path = first.find path := by
  simp only [find, differ.startOf_eq, differ.walk_eq, differ.isDirectoryAt_eq]

theorem isDirectory_eq (path : Path) : second.isDirectory path = first.isDirectory path := by
  simp only [isDirectory, differ.find_eq, differ.isDirectoryAt_eq]

theorem slot?_eq (path : Path) : second.slot? path = first.slot? path := by
  simp only [slot?, differ.startOf_eq, differ.walk_eq, differ.isDirectoryAt_eq]

/-- What a path reads does not depend on a file that it does not find. -/
theorem read_eq {path : Path} (apart : first.find path ≠ .ok target) :
    second.read path = first.read path := by
  rw [read, read, differ.find_eq]
  cases found : first.find path with
  | error fault => rfl
  | ok place =>
    have elsewhere : place ≠ target := by
      rintro rfl
      exact apart found
    simp only [bind, Except.bind, differ.elsewhere place elsewhere]

theorem put {place : Place} (not_root : place ≠ []) (elsewhere : place ≠ target) (node : Node) :
    DifferInFile target (first.put place node) (second.put place node) where
  working := differ.working
  elsewhere other apart := by
    rw [node?_put _ not_root, node?_put _ not_root, differ.elsewhere other apart]
  first_file := by
    rw [node?_put _ not_root, if_neg elsewhere.symm]
    exact differ.first_file
  second_file := by
    rw [node?_put _ not_root, if_neg elsewhere.symm]
    exact differ.second_file

theorem makeDirectory (path : Path) :
    Alike (DifferInFile target) (first.makeDirectory path) (second.makeDirectory path) := by
  rw [Tree.makeDirectory, Tree.makeDirectory, differ.slot?_eq]
  cases first.slot? path with
  | error fault => exact .error fault
  | ok slot =>
    rcases slot with _ | ⟨folder, _ | _ | name⟩
    · exact .error _
    · exact .error _
    · exact .error _
    · simp only [bind, Except.bind, pure, Except.pure, differ.isSome_eq]
      split
      · exact .error _
      · split
        · exact .error _
        · next absent =>
          have elsewhere := differ.ne_of_absent (by simpa using absent)
          exact .ok (differ.put (by simp) elsewhere .directory)

theorem tryDirectory (refusals : Refusals) (path : Path) :
    Alike (DifferInFile target) (Tree.tryDirectory refusals first path)
      (Tree.tryDirectory refusals second path) := by
  rw [Tree.tryDirectory, Tree.tryDirectory]
  split
  · exact .error _
  · exact differ.makeDirectory path

omit differ in
theorem ensureFirst (differ : DifferInFile target first second) (refusals : Refusals)
    (paths : List Path) :
    (Tree.ensureFirst refusals paths second).1 = (Tree.ensureFirst refusals paths first).1 ∧
      DifferInFile target (Tree.ensureFirst refusals paths first).2
        (Tree.ensureFirst refusals paths second).2 := by
  induction paths generalizing first second with
  | nil => exact ⟨rfl, differ⟩
  | cons path above ih =>
    rw [Tree.ensureFirst, Tree.ensureFirst]
    rcases (differ.tryDirectory refusals path).cases with ⟨fault, failed, failed'⟩ |
      ⟨made, made', done, done', related⟩
    · rw [failed, failed']
      cases fault with
      | notFound =>
        -- The second attempt is made on two trees that have got the directories above.
        have upper := ih differ
        cases ensured : Tree.ensureFirst refusals above first with
        | mk result tree =>
          cases ensured' : Tree.ensureFirst refusals above second with
          | mk result' tree' =>
            simp only [ensured, ensured'] at upper
            obtain ⟨rfl, related⟩ := upper
            cases result' with
            | error fault => exact ⟨rfl, related⟩
            | ok _ =>
              rcases (related.tryDirectory refusals path).cases with ⟨fault, failed, failed'⟩ |
                ⟨made, made', done, done', related'⟩
              · simp only [failed, failed', related.isDirectory_eq, related, and_self]
              · simp only [done, done', related', and_self]
      | _ => simp only [differ.isDirectory_eq, differ, and_self]
    · rw [done, done']
      exact ⟨rfl, related⟩

/-- The file that comes to the target takes the place of both old ones, whatever its name was. -/
theorem rename_staged {path : Path} {temporary temporary' : Place} {node : Node}
    (leads : first.leadsTo path = target) (not_root : temporary ≠ []) (not_root' : temporary' ≠ [])
    (free : first.node? temporary = none) (free' : second.node? temporary' = none)
    (slot_eq : (first.put temporary node).slot? path = first.slot? path)
    (slot_eq' : (second.put temporary' node).slot? path = second.slot? path) :
    Alike Same ((first.put temporary node).rename temporary path)
      ((second.put temporary' node).rename temporary' path) := by
  rw [rename, rename, slot_eq, slot_eq', differ.slot?_eq]
  cases slotted : first.slot? path with
  | error fault => exact .error fault
  | ok slot =>
    rcases slot with _ | ⟨folder, _ | _ | name⟩
    · exact .error _
    · exact .error _
    · exact .error _
    · have at_target : folder ++ [name] = target := (leadsTo_of_slot? slotted).symm.trans leads
      have not_root_target : target ≠ [] := by
        rw [← at_target]
        simp
      simp only [bind, Except.bind, pure, Except.pure, at_target,
        differ.isDirectoryAt_staged not_root free, differ.symm.isDirectoryAt_staged not_root' free',
        node?_put _ not_root, node?_put _ not_root', if_pos, if_neg (differ.ne_of_absent free),
        if_neg (differ.symm.ne_of_absent free'), remove_put_of_absent not_root free,
        remove_put_of_absent not_root' free']
      split
      · exact .error _
      split
      · exact .error _
      refine .ok ⟨differ.working, fun place => ?_⟩
      rw [node?_put _ not_root_target, node?_put _ not_root_target]
      -- The file that comes is the same, and both old ones are gone.
      split
      · rfl
      · next elsewhere => rw [differ.elsewhere place elsewhere]

theorem writeReplacing {path : Path} (leads : first.leadsTo path = target) (data : ByteArray)
    (refusals : Refusals) (naming naming' : Naming) :
    (second.writeReplacing naming' path data refusals).1 =
        (first.writeReplacing naming path data refusals).1 ∧
      ((first.writeReplacing naming path data refusals).1 = .ok () →
        Same (first.writeReplacing naming path data refusals).2
          (second.writeReplacing naming' path data refusals).2) := by
  have ensures := differ.ensureFirst refusals path.folder.ancestors
  have working : (Tree.ensureDirectory refusals first path.folder).2.working = first.working :=
    (grows_ensureDirectory refusals first path).working
  rw [← Tree.ensureDirectory, ← Tree.ensureDirectory] at ensures
  rw [Tree.writeReplacing, Tree.writeReplacing]
  cases ensured : Tree.ensureDirectory refusals first path.folder with
  | mk result middle =>
    cases ensured' : Tree.ensureDirectory refusals second path.folder with
    | mk result' middle' =>
      simp only [ensured] at working
      simp only [ensured, ensured'] at ensures
      obtain ⟨rfl, related⟩ := ensures
      cases result' with
      | error fault => simp
      | ok _ =>
        simp only [related.startOf_eq, related.walk_eq]
        cases walked : middle.walk (middle.startOf path) path.folder.steps with
        | error fault => simp
        | ok folder =>
          simp only [pathWithin, related.working]
          split
          · simp
          split
          · simp
          -- Each tree gets the new file under a name that is free there, which no walk to the
          -- target passes.
          have leads_here : middle.leadsTo path = target := (leadsTo_congr working path).trans leads
          have leads_there : middle'.leadsTo path = target :=
            (leadsTo_congr related.working path).trans leads_here
          have walked' : middle'.walk (middle'.startOf path) path.folder.steps = .ok folder := by
            rw [related.startOf_eq, related.walk_eq, walked]
          have free := naming.fresh middle folder
          have free' := naming'.fresh middle' folder
          have slot_eq := slot?_put_of_free (.file data) walked free (by
            rw [leads_here]
            exact (related.ne_of_absent free).symm)
          have slot_eq' := slot?_put_of_free (.file data) walked' free' (by
            rw [leads_there]
            exact (related.symm.ne_of_absent free').symm)
          rcases (related.rename_staged leads_here (by simp) (by simp) free free' slot_eq
              slot_eq').cases with ⟨fault, failed, failed'⟩ | ⟨after, after', done, done', same⟩
          · simp [failed, failed']
          · simp only [done, done', same, true_and, implies_true]

end DifferInFile

end UnitCatalogue.Directory.Tree

import UnitCatalogue.Directory.Tree

/-!
# Replacing a file

The content goes to a new file beside the destination, and that file then takes the
destination's name. Missing directories are made first and stay if a later step fails; the new
file does not. Any name that is free will do for the new file.
-/

namespace UnitCatalogue.Directory

/-- What is refused although the tree allows it, as on a full disk or without the rights. -/
structure Refusals where
  making : Path → Option Fault := fun _ => none
  /-- Refuses to write the new file or to give it its name. -/
  writing : Option Fault := none

/-- The choice of a name for a new file in a folder. Nothing there has it yet. -/
structure Naming where
  name : Tree → Place → String
  fresh (tree : Tree) (folder : Place) : tree.node? (folder ++ [name tree folder]) = none

/-- A temporary name of the usual length. -/
def sampleName : String := ".tmp000000"

/-- A name that is longer than all in a tree. -/
def Tree.unusedName (tree : Tree) : String :=
  String.ofList ('0' :: tree.entries.flatMap fun entry => entry.1.flatMap String.toList)

theorem Tree.length_lt_unusedName {tree : Tree} {entry : Place × Node} {name : String}
    (stands : entry ∈ tree.entries) (member : name ∈ entry.1) :
    name.length < tree.unusedName.length := by
  have inner : name.toList.Sublist (entry.1.flatMap String.toList) :=
    List.sublist_flatten_of_mem (List.mem_map_of_mem member)
  have outer : (entry.1.flatMap String.toList).Sublist
      (tree.entries.flatMap fun entry => entry.1.flatMap String.toList) :=
    List.sublist_flatten_of_mem (List.mem_map_of_mem stands)
  have shorter := (inner.trans outer).length_le
  rw [String.length_toList] at shorter
  rw [unusedName, String.length_ofList, List.length_cons]
  omega

theorem Tree.node?_unusedName (tree : Tree) (folder : Place) :
    tree.node? (folder ++ [tree.unusedName]) = none := by
  rw [node?, if_neg (by simp), List.lookup_eq_none_iff]
  intro entry stands
  refine bne_iff_ne.mpr fun same => ?_
  have member : tree.unusedName ∈ entry.1 := by simp [← same]
  exact Nat.lt_irrefl _ (length_lt_unusedName stands member)

/-- The sample name, unless something has it. -/
def Naming.sample : Naming where
  name tree folder :=
    if (tree.node? (folder ++ [sampleName])).isNone then sampleName else tree.unusedName
  fresh tree folder := by
    split
    · next free => exact Option.isNone_iff_eq_none.mp free
    · exact tree.node?_unusedName folder

namespace Tree

def tryDirectory (refusals : Refusals) (tree : Tree) (path : Path) : Except Fault Tree :=
  match refusals.making path with
  | some fault => .error fault
  | none => tree.makeDirectory path

/-- Makes the first directory of a list that goes up from it, and those behind it that are
missing. -/
def ensureFirst (refusals : Refusals) : List Path → Tree → Except Fault Unit × Tree
  | [], tree => (.ok (), tree)
  | path :: above, tree =>
    match tryDirectory refusals tree path with
    | .ok tree => (.ok (), tree)
    | .error .notFound =>
      match ensureFirst refusals above tree with
      | (.error fault, tree) => (.error fault, tree)
      | (.ok (), tree) =>
        match tryDirectory refusals tree path with
        | .ok tree => (.ok (), tree)
        | .error fault =>
          (if fault = .alreadyExists ∧ tree.isDirectory path then .ok () else .error fault, tree)
    | .error fault =>
      (if fault = .alreadyExists ∧ tree.isDirectory path then .ok () else .error fault, tree)

/-- Makes the directory of a path and those above it that are missing. -/
def ensureDirectory (refusals : Refusals) (tree : Tree) (path : Path) :
    Except Fault Unit × Tree :=
  ensureFirst refusals path.ancestors tree

/-- A name in a folder, told from the root. -/
def pathWithin (tree : Tree) (folder : Path) (name : String) : Path :=
  ⟨true, (if folder.fromRoot then [] else tree.working) ++ folder.pieces ++ [name]⟩

/-- The file at a place takes the name of a path. A directory is not replaced. -/
def rename (tree : Tree) (old : Place) (path : Path) : Except Fault Tree := do
  match ← tree.slot? path with
  | some ⟨folder, .down name⟩ =>
    let new := folder ++ [name]
    if maxName < name.utf8ByteSize then .error .nameTooLong
    else if path.endsWithSlash then .error .notDirectory
    else if tree.isDirectoryAt new then .error .isDirectory
    else match tree.node? old with
      | some node => if old = new then return tree else return (tree.remove old).put new node
      | none => .error .notFound
  | _ => .error .busy

/-- Replaces the file at a path, or makes it. -/
def writeReplacing (naming : Naming) (tree : Tree) (path : Path) (data : ByteArray)
    (refusals : Refusals := {}) : Except Fault Unit × Tree :=
  match ensureDirectory refusals tree path.folder with
  | (.error fault, tree) => (.error fault, tree)
  | (.ok (), tree) =>
    match tree.walk (tree.startOf path) path.folder.steps with
    | .error fault => (.error fault, tree)
    | .ok place =>
      -- Whether the path is too long is decided with the usual length, whichever name is chosen.
      match checkPath (tree.pathWithin path.folder sampleName) with
      | .error fault => (.error fault, tree)
      | .ok () =>
        let temporary := place ++ [naming.name tree place]
        let staged := tree.put temporary (.file data)
        match refusals.writing with
        | some fault => (.error fault, staged.remove temporary)
        | none =>
          match staged.rename temporary path with
          | .ok tree => (.ok (), tree)
          | .error fault => (.error fault, staged.remove temporary)

end Tree

end UnitCatalogue.Directory

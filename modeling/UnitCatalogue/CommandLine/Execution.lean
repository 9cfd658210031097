import UnitCatalogue.CommandLine.Command

/-!
# The command on a real file system

Reads what stands at the paths that the arguments name into a directory tree, answers on the tree,
and then makes the directories and files that the answer adds or changes.
-/

namespace UnitCatalogue.CommandLine

open Directory

/-- The text of a place, from the root. -/
def placeText (place : Place) : String := "/" ++ "/".intercalate place

/-- What stands at a place: a file, a directory, or nothing that can be reached. -/
def nodeAt? (place : Place) : IO (Option Node) := do
  try
    return some (.file (← IO.FS.readBinFile (placeText place)))
  catch
    | .noFileOrDirectory .. => return none
    | _ => return some .directory

/-- Adds what stands at the steps of a path, up to the first step that finds nothing. -/
def survey (tree : Tree) (place : Place) : List Step → IO Tree
  | [] => return tree
  | .stay :: rest => survey tree place rest
  | .up :: rest => survey tree place.dropLast rest
  | .down name :: rest => do
    let here := place ++ [name]
    match ← nodeAt? here with
    | some .directory => survey (tree.put here .directory) here rest
    | some node => return tree.put here node
    | none => return tree

def surveyPath (tree : Tree) (text : String) : IO Tree :=
  let path := Path.ofText text
  survey tree (tree.startOf path) path.steps

/-- The part of the file system that the arguments name. -/
def treeFor (package : String) (arguments : Arguments) : IO Tree := do
  let working := (Path.ofText (toString (← IO.currentDir))).steps.map Step.text
  let tree ← survey ⟨working, []⟩ [] (working.map Step.down)
  let tree ← surveyPath tree arguments.input
  let tree ← surveyPath tree (arguments.outputText package)
  match arguments.configuration with
  | some path => surveyPath tree path
  | none => return tree

/-- Makes what a new tree has and the old one has not, or has otherwise. -/
def realise (naming : Naming) (before after : Tree) : IO Unit := do
  for (place, node) in after.entries do
    if before.node? place != some node then
      match node with
      | .directory => IO.FS.createDir (placeText place)
      | .file data =>
        let folder := place.dropLast
        let temporary := placeText (folder ++ [naming.name after folder])
        IO.FS.withFile temporary .writeNew fun file => file.write data
        IO.FS.rename temporary (placeText place)

/-- Runs the command; `log` says how an event is told, if it is told at all. -/
def execute (equipment : Equipment) (log : Event → Option String) (arguments : List String) :
    IO UInt32 := do
  let before ← match equipment.interface.read arguments with
    | .run arguments => treeFor equipment.package arguments
    | .stop .. => pure Tree.empty
  let answer := answer equipment before arguments
  realise equipment.naming before answer.tree
  for event in answer.events do
    if let some line := log event then IO.eprintln line
  IO.print answer.stdout
  IO.eprint answer.complaint
  return answer.exit.toUInt32

end UnitCatalogue.CommandLine

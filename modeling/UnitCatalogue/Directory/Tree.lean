import UnitCatalogue.Directory.Fault
import UnitCatalogue.Directory.Path

/-!
# Directory trees

A tree says which places hold a directory and which a file, without links and permissions. One
of its directories is the working directory, from which relative paths start.
-/

namespace UnitCatalogue.Directory

inductive Node where
  | directory
  | file (bytes : ByteArray)

instance : DecidableEq Node
  | .directory, .directory => isTrue rfl
  | .file a, .file b =>
    decidable_of_iff (a.data = b.data) (by rw [Node.file.injEq, ByteArray.ext_iff])
  | .directory, .file _ => isFalse Node.noConfusion
  | .file _, .directory => isFalse Node.noConfusion

/-- The names that lead from the root to a place. -/
abbrev Place := List String

/-- The root needs no entry: it is always a directory. -/
structure Tree where
  working : Place
  entries : List (Place × Node)
deriving DecidableEq

/-- An empty working directory in the directory for temporary files. -/
def Tree.empty : Tree :=
  ⟨["tmp", "generation"], [(["tmp"], .directory), (["tmp", "generation"], .directory)]⟩

namespace Tree

def node? (tree : Tree) (place : Place) : Option Node :=
  if place = [] then some .directory else tree.entries.lookup place

def isDirectoryAt (tree : Tree) (place : Place) : Bool := tree.node? place == some .directory

def replace (place : Place) (node : Node) : List (Place × Node) → List (Place × Node)
  | [] => [(place, node)]
  | (p, n) :: rest => if p = place then (p, node) :: rest else (p, n) :: replace place node rest

/-- Puts a node at a place, in the stead of the one that is there. -/
def put (tree : Tree) (place : Place) (node : Node) : Tree :=
  { tree with entries := replace place node tree.entries }

def remove (tree : Tree) (place : Place) : Tree :=
  { tree with entries := tree.entries.filter (·.1 != place) }

/-- No name has more bytes than this. -/
def maxName : Nat := 255

/-- No path has more bytes than this. -/
def maxPath : Nat := 4095

/-- One step from a place, which must be a directory. A step down must find something. -/
def walkStep (tree : Tree) (place : Place) (step : Step) : Except Fault Place :=
  if !tree.isDirectoryAt place then .error .notDirectory
  else match step with
    | .stay => .ok place
    | .up => .ok place.dropLast
    | .down name =>
      if maxName < name.utf8ByteSize then .error .nameTooLong
      else if (tree.node? (place ++ [name])).isSome then .ok (place ++ [name])
      else .error .notFound

def walk (tree : Tree) : Place → List Step → Except Fault Place
  | place, [] => .ok place
  | place, step :: rest =>
    match tree.walkStep place step with
    | .ok place => walk tree place rest
    | .error fault => .error fault

def startOf (tree : Tree) (path : Path) : Place := if path.fromRoot then [] else tree.working

/-- What no path may be: empty, too long, or with a null character. -/
def checkPath (path : Path) : Except Fault Unit :=
  if path.text.toList.contains '\x00' then .error .unusableName
  else if path.text.isEmpty then .error .notFound
  else if maxPath < path.text.utf8ByteSize then .error .nameTooLong
  else .ok ()

/-- The place of something that exists. -/
def find (tree : Tree) (path : Path) : Except Fault Place := do
  checkPath path
  let place ← tree.walk (tree.startOf path) path.steps
  if path.endsWithSlash && !tree.isDirectoryAt place then .error .notDirectory
  else return place

def exists? (tree : Tree) (path : Path) : Bool := (tree.find path).isOk

/-- The bytes of the file at a path. -/
def read (tree : Tree) (path : Path) : Except Fault ByteArray := do
  let place ← tree.find path
  match tree.node? place with
  | some (.file data) => return data
  | some .directory => .error .isDirectory
  | none => .error .notFound

/-- The text of the file at a path. -/
def readText (tree : Tree) (path : Path) : Except Fault String := do
  match String.fromUTF8? (← tree.read path) with
  | some text => return text
  | none => .error .notText

/-- The place where something can be made: the directory that would hold it must be there. -/
structure Slot where
  folder : Place
  last : Step

/-- The directory and the last step of a path; the root has no last step. -/
def slot? (tree : Tree) (path : Path) : Except Fault (Option Slot) := do
  checkPath path
  match path.steps.getLast? with
  | none => return none
  | some last =>
    let folder ← tree.walk (tree.startOf path) path.steps.dropLast
    if tree.isDirectoryAt folder then return some ⟨folder, last⟩ else .error .notDirectory

/-- Makes one directory. -/
def makeDirectory (tree : Tree) (path : Path) : Except Fault Tree := do
  match ← tree.slot? path with
  | some ⟨folder, .down name⟩ =>
    if maxName < name.utf8ByteSize then .error .nameTooLong
    else if (tree.node? (folder ++ [name])).isSome then .error .alreadyExists
    else return tree.put (folder ++ [name]) .directory
  | _ => .error .alreadyExists

def isDirectory (tree : Tree) (path : Path) : Bool :=
  match tree.find path with
  | .ok place => tree.isDirectoryAt place
  | .error _ => false

end Tree

end UnitCatalogue.Directory

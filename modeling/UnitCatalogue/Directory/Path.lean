import UnitCatalogue.Text.Pieces

/-!
# Paths

A path is a text cut at its slashes. Its pieces are steps from the working directory or from the
root. Empty pieces and single points lead nowhere, but they are part of the text and count for its
length. A slash at the end says that the path names a directory.
-/

namespace UnitCatalogue.Directory

inductive Step where
  | stay
  | up
  | down (name : String)
deriving DecidableEq, Inhabited

def Step.ofText (text : String) : Step :=
  if text = "." then .stay else if text = ".." then .up else .down text

def Step.text : Step → String
  | .stay => "."
  | .up => ".."
  | .down name => name

structure Path where
  /-- Whether the text begins with a slash, which is before the first piece. -/
  fromRoot : Bool
  pieces : List String
deriving DecidableEq, Inhabited

namespace Path

def ofText (text : String) : Path :=
  match text.toList with
  | '/' :: rest => ⟨true, (Text.pieces '/' rest).map String.ofList⟩
  | chars => ⟨false, (Text.pieces '/' chars).map String.ofList⟩

def text (path : Path) : String :=
  (if path.fromRoot then "/" else "") ++ "/".intercalate path.pieces

def steps (path : Path) : List Step := (path.pieces.filter (· != "")).map Step.ofText

def endsWithSlash (path : Path) : Bool := path.pieces.getLast? == some ""

/-- Whether a piece leads nowhere. -/
def isIdle (piece : String) : Bool := piece == "" || piece == "."

def withoutIdleEnd (pieces : List String) : List String :=
  (pieces.reverse.dropWhile isIdle).reverse

/-- Leaves out the pieces at the end that lead nowhere. A point at the very front stays: it is
the working directory. -/
def trim (path : Path) : Path :=
  match path with
  | ⟨false, first :: rest⟩ => ⟨false, first :: withoutIdleEnd rest⟩
  | ⟨fromRoot, pieces⟩ => ⟨fromRoot, withoutIdleEnd pieces⟩

/-- The path without its last piece that leads somewhere. -/
def parent (path : Path) : Path := trim ⟨path.fromRoot, path.trim.pieces.dropLast⟩

/-- The working directory. -/
def here : Path := ⟨false, ["."]⟩

/-- The directory that holds what a path names. A bare name is held by the working directory. -/
def folder (path : Path) : Path :=
  if path.parent.pieces.isEmpty && !path.fromRoot then here else path.parent

/-- A path and those above it, the deepest first; each has fewer pieces than the one before. -/
def ancestorsWithin : Nat → Path → List Path
  | 0, _ => []
  | limit + 1, path =>
    if path.pieces.isEmpty then [] else path :: ancestorsWithin limit path.parent

def ancestors (path : Path) : List Path := ancestorsWithin path.pieces.length path

theorem text_ofText (text : String) : (ofText text).text = text := by
  apply String.toList_inj.mp
  have joined : ∀ chars, ("/".intercalate ((Text.pieces '/' chars).map String.ofList)).toList
      = chars := by
    intro chars
    rw [String.toList_intercalate, List.map_map]
    simpa using Text.intercalate_pieces '/' chars
  unfold ofText Path.text
  split
  · next rest begins => simp [String.toList_append, joined, begins]
  · simp [joined]

theorem length_withoutIdleEnd_le (pieces : List String) :
    (withoutIdleEnd pieces).length ≤ pieces.length := by
  have := (List.dropWhile_suffix isIdle (l := pieces.reverse)).length_le
  simpa [withoutIdleEnd] using this

theorem length_trim_le (path : Path) : path.trim.pieces.length ≤ path.pieces.length := by
  unfold trim
  split
  · exact Nat.succ_le_succ (length_withoutIdleEnd_le _)
  · exact length_withoutIdleEnd_le _

theorem length_parent_lt (path : Path) (some_piece : path.pieces ≠ []) :
    path.parent.pieces.length < path.pieces.length := by
  have positive := List.length_pos_iff.mpr some_piece
  have trimmed := length_trim_le path
  have shorter := length_trim_le ⟨path.fromRoot, path.trim.pieces.dropLast⟩
  simp only [List.length_dropLast] at shorter
  unfold parent
  omega

end Path

end UnitCatalogue.Directory

import UnitCatalogue.Catalogue

/-!
# The choice of aliases

An alias is kept when its target is declared and its name is free: no item of the module and no
alias kept before it has that name. An alias without a target claims no name.
-/

namespace UnitCatalogue

inductive Verdict where
  | kept
  | targetMissing
  | nameTaken
deriving DecidableEq, Inhabited

namespace Catalogue

/-- Judges one alias, given the names of the aliases kept before it. -/
def judge (c : Catalogue) (earlier : List String) (a : Alias) : Verdict :=
  if !c.isDeclared a.target then .targetMissing
  else if c.isTaken a.name || earlier.contains a.name then .nameTaken
  else .kept

/-- The verdict on each alias of a list, from the first to the last. -/
def verdicts (c : Catalogue) : List String → List Alias → List (Alias × Verdict)
  | _, [] => []
  | earlier, a :: rest =>
    match c.judge earlier a with
    | .kept => (a, .kept) :: verdicts c (a.name :: earlier) rest
    | verdict => (a, verdict) :: verdicts c earlier rest

def keptAliases (c : Catalogue) (aliases : List Alias) : List Alias :=
  ((c.verdicts [] aliases).filter (·.2 == .kept)).map (·.1)

end Catalogue

end UnitCatalogue

import UnitCatalogue.Event
import UnitCatalogue.GeneratedModule

/-!
# Rendering a list of units

A rendering is the text of the module, the counts of the rows by outcome, and the events in
order: those of the rows first, then those of the aliases.
-/

namespace UnitCatalogue

structure Rendering where
  text : String
  report : Report
  events : List Event
deriving DecidableEq, Inhabited

def Outcome.isAdded : Outcome → Bool
  | .added _ => true
  | _ => false

def Outcome.isDuplicate : Outcome → Bool
  | .duplicate _ _ => true
  | _ => false

def Outcome.isBlank : Outcome → Bool
  | .blank => true
  | _ => false

def Outcome.isUnusable : Outcome → Bool
  | .unusable _ => true
  | _ => false

def countOutcomes (outcomes : List Outcome) (aliases : Nat) : Report where
  units := outcomes.countP Outcome.isAdded
  duplicates := outcomes.countP Outcome.isDuplicate
  blankRows := outcomes.countP Outcome.isBlank
  unusableRows := outcomes.countP Outcome.isUnusable
  aliases := aliases

/-- The events of the rows, the first of which has the given index. -/
def rowEvents : Nat → List Outcome → List Entry → List Event
  | index, outcome :: outcomes, entry :: entries =>
    (outcome.event? entry index).toList ++ rowEvents (index + 1) outcomes entries
  | _, _, _ => []

def aliasEvents (verdicts : List (Alias × Verdict)) : List Event :=
  verdicts.filterMap fun (a, verdict) => verdict.event? a

def render (entries : List Entry) (aliases : List Alias) : Rendering :=
  let outcomes := Catalogue.outcomes {} entries
  let catalogue := Catalogue.addAll {} entries
  let kept := catalogue.keptAliases aliases
  { text := assemble catalogue.items kept
    report := countOutcomes outcomes kept.length
    events := rowEvents 0 outcomes entries ++ aliasEvents (catalogue.verdicts [] aliases) }

end UnitCatalogue

import UnitCatalogue.Directory.Fault
import UnitCatalogue.Sheet.Failure

/-!
# Why a run fails

The causes, their messages, and the deeper cause that some of them carry.
-/

namespace UnitCatalogue

inductive ConfigurationFailure where
  | unreadable (path : String) (fault : Directory.Fault)
  | invalid (path detail : String)
deriving DecidableEq, Inhabited

namespace ConfigurationFailure

def message : ConfigurationFailure → String
  | unreadable path fault => "Cannot read " ++ path ++ ": " ++ fault.message
  | invalid path detail => "Invalid config " ++ path ++ ": " ++ detail

def cause : ConfigurationFailure → String
  | unreadable _ fault => fault.message
  | invalid _ detail => detail

end ConfigurationFailure

inductive Failure where
  | inputMissing (path : String)
  | sheet (failure : Sheet.Failure)
  | configuration (failure : ConfigurationFailure)
  | output (fault : Directory.Fault)
deriving DecidableEq, Inhabited

namespace Failure

def message : Failure → String
  | inputMissing path => "Unable to locate the file \"" ++ path ++ "\"."
  | sheet failure => failure.message
  | configuration failure => failure.message
  | output fault => "Failed to write output: " ++ fault.message

/-- The message of the deeper cause; a missing input has none. -/
def cause? : Failure → Option String
  | inputMissing _ => none
  | sheet failure => some failure.message
  | configuration failure => some failure.message
  | output fault => some fault.message

end Failure

end UnitCatalogue

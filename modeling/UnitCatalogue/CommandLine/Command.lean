import UnitCatalogue.Generation

/-!
# The command

An interface reads the arguments, and may stop the command with an answer of its own, as when help
is asked for. The configuration is loaded before the input is looked at. The exit status is zero
when the module was written, and one when the run failed.
-/

namespace UnitCatalogue.CommandLine

open Directory

/-- One input, and the values of the options that were given. -/
structure Arguments where
  input : String
  output : Option String := none
  configuration : Option String := none
deriving DecidableEq, Inhabited

/-- What the reading of an argument list comes to. -/
inductive Request where
  | run (arguments : Arguments)
  | stop (exit : Nat) (stdout stderr : String)
deriving DecidableEq, Inhabited

/-- A reader of argument lists, and its help text. -/
structure Interface where
  read : List String → Request
  help : String

/-- What the command is made with. -/
structure Equipment where
  interface : Interface
  parser : Toml.Parser
  reader : Sheet.WorkbookReader
  naming : Naming
  /-- The directory of the package that the command was built from. -/
  package : String

/-- What the command leaves behind. Its complaint goes to the standard error, behind the lines of
the log that tell the events. -/
structure Answer where
  exit : Nat
  stdout : String
  complaint : String
  tree : Tree
  events : List Event

/-- The path of a name in a directory. -/
def pathIn (directory name : String) : String :=
  if directory.toList.getLast? ∈ [none, some '/'] then directory ++ name
  else directory ++ "/" ++ name

def defaultOutput (package : String) : String :=
  pathIn (pathIn package "generated") "units.rs"

/-- Where the module goes. -/
def Arguments.outputText (arguments : Arguments) (package : String) : String :=
  arguments.output.getD (defaultOutput package)

/-- What a successful run prints: where the units went, and how many rows were dropped as
duplicates if any were. -/
def summary (report : Report) (output : String) : String :=
  "Wrote " ++ toString report.units ++ " units to " ++ output ++ "\n"
    ++ (if 0 < report.duplicates then
      "Skipped " ++ toString report.duplicates ++ " rows with duplicate identifiers\n" else "")

/-- A missing input is told together with the help text. -/
def complaint (help : String) : Failure → String
  | .inputMissing path => (Failure.inputMissing path).message ++ "\n" ++ help ++ "\n"
  | failure => "Error: " ++ failure.message ++ "\n"

/-- Loads the configuration that the arguments name, or takes the default. -/
def configurationFor (parser : Toml.Parser) (tree : Tree) (arguments : Arguments) :
    Except Failure Configuration :=
  match arguments.configuration with
  | none => .ok {}
  | some path => (loadConfiguration parser tree path).mapError .configuration

def runGeneration (equipment : Equipment) (tree : Tree) (arguments : Arguments)
    (refusals : Refusals := {}) : Run Report :=
  match configurationFor equipment.parser tree arguments with
  | .error failure => ⟨.error failure, tree, []⟩
  | .ok configuration =>
    generate equipment.reader equipment.naming tree arguments.input
      (arguments.outputText equipment.package) configuration refusals

def answer (equipment : Equipment) (tree : Tree) (arguments : List String)
    (refusals : Refusals := {}) : Answer :=
  match equipment.interface.read arguments with
  | .stop exit stdout stderr => ⟨exit, stdout, stderr, tree, []⟩
  | .run arguments =>
    let run := runGeneration equipment tree arguments refusals
    match run.result with
    | .ok report =>
      ⟨0, summary report (arguments.outputText equipment.package), "", run.tree, run.events⟩
    | .error failure =>
      ⟨1, "", complaint equipment.interface.help failure, run.tree, run.events⟩

end UnitCatalogue.CommandLine

import UnitCatalogue.CommandLine.Command
import UnitCatalogue.Proofs.GenerationOutcome
import UnitCatalogue.Toml.DistinctKeys

/-!
# What the exit status tells

A command whose arguments are accepted exits with zero exactly when a configuration is loaded and
the module is written. Otherwise it exits with one, prints nothing on the standard output and leaves
every file as it was. The configuration comes first: without one, neither the input nor the output
makes a difference.
-/

namespace UnitCatalogue

open Directory

section Generation

variable {reader : Sheet.WorkbookReader} {naming : Naming} {tree : Tree} {input output : String}
  {configuration : Configuration} {refusals : Refusals}

theorem grows_of_generate_error {failure : Failure}
    (failed : (generate reader naming tree input output configuration refusals).result =
      .error failure) :
    Tree.Grows (·.IsAbove (Path.ofText output)) tree
      (generate reader naming tree input output configuration refusals).tree := by
  rcases generate_cases reader naming tree input output configuration refusals with
    ⟨_, _, _, same_tree⟩ | ⟨_, _, _, ⟨_, _, grows⟩ | ⟨_, reported, _⟩⟩
  · rw [same_tree]
    exact .refl tree
  · exact grows
  · cases failed.symm.trans reported

theorem generate_eq_inputMissing_iff {path : String} :
    (generate reader naming tree input output configuration refusals).result =
      .error (.inputMissing path) ↔ path = input ∧ tree.exists? (Path.ofText input) = false := by
  constructor
  · intro told
    rcases generate_cases reader naming tree input output configuration refusals with
      ⟨_, fails, failed, _⟩ | ⟨_, _, _, ⟨_, failed, _⟩ | ⟨_, reported, _⟩⟩
    · cases told.symm.trans failed
      cases fails with
      | inputMissing missing => exact ⟨rfl, missing⟩
    · cases told.symm.trans failed
    · cases told.symm.trans reported
  · rintro ⟨rfl, missing⟩
    rw [generate_of_readFails (.inputMissing missing)]

end Generation

namespace CommandLine

variable {equipment : Equipment} {tree : Tree} {arguments : List String} {request : Arguments}
  {configuration : Configuration} {refusals : Refusals}

/-- The run that the arguments ask for, once their configuration is loaded. -/
abbrev Arguments.runWith (request : Arguments) (equipment : Equipment) (tree : Tree)
    (configuration : Configuration) (refusals : Refusals) : Run Report :=
  generate equipment.reader equipment.naming tree request.input
    (request.outputText equipment.package) configuration refusals

/-- The output of a run: the named one, or else a file below the directory of the package. -/
inductive Outputs (package : String) : Option String → String → Prop where
  | named {path : String} : Outputs package (some path) path
  | below : package.toList.getLast? ∉ [none, some '/'] →
      Outputs package none (package ++ "/generated/units.rs")
  | within : package.toList.getLast? ∈ [none, some '/'] →
      Outputs package none (package ++ "generated/units.rs")

/-- The configuration of a run: that of the named file, or the default if no file is named. -/
inductive Configures (parser : Toml.Parser) (tree : Tree) :
    Option String → Configuration → Prop where
  | default : Configures parser tree none {}
  | file {path text : String} {configuration : Configuration} :
      tree.readText (Path.ofText path) = .ok text →
      Configuration.ofText? parser text = some configuration →
      Configures parser tree (some path) configuration

/-- What is told if the named file gives no configuration: it is not read as text, or the text gives
none. -/
inductive Misconfigures (parser : Toml.Parser) (tree : Tree) : Option String → String → Prop where
  | unreadable {path : String} {fault : Fault} : tree.readText (Path.ofText path) = .error fault →
      Misconfigures parser tree (some path)
        ("Error: " ++ ("Cannot read " ++ path ++ ": " ++ fault.message) ++ "\n")
  | invalid {path text : String} : tree.readText (Path.ofText path) = .ok text →
      Configuration.ofText? parser text = none →
      Misconfigures parser tree (some path)
        ("Error: " ++ ("Invalid config " ++ path ++ ": " ++ parser.refusal text) ++ "\n")

/-- The message of a missing input, with the help text behind it. -/
def missingInputText (help path : String) : String :=
  "Unable to locate the file \"" ++ path ++ "\"." ++ "\n" ++ help ++ "\n"

/-- What is told if a run fails. -/
inductive Tells (help : String) : Failure → String → Prop where
  | inputMissing {path : String} : Tells help (.inputMissing path) (missingInputText help path)
  | unreadableWorkbook {detail : String} : Tells help (.sheet (.unreadableWorkbook detail))
      ("Error: " ++ ("Unable to process the spreadsheet: " ++ detail) ++ "\n")
  | sheetMissing {sheet : String} {available : List String} :
      Tells help (.sheet (.sheetMissing sheet available))
        ("Error: " ++ ("Sheet '" ++ sheet ++ "' not found (available: " ++
          ", ".intercalate available ++ ")") ++ "\n")
  | noHeader : Tells help (.sheet .noHeader) ("Error: " ++ "Sheet has no header row" ++ "\n")
  | columnMissing {label : String} : Tells help (.sheet (.columnMissing label))
      ("Error: " ++ ("Header row has no column labelled " ++ Text.shown label) ++ "\n")
  | output {fault : Fault} : Tells help (.output fault)
      ("Error: " ++ ("Failed to write output: " ++ fault.message) ++ "\n")

/-- The answer to a run with a report. The rendered module is at the output, nothing else has
changed but for directories above it, and the counts are printed. -/
structure Delivers (equipment : Equipment) (tree : Tree) (request : Arguments)
    (configuration : Configuration) (report : Report) (answer : Answer) : Prop where
  exit : answer.exit = 0
  stdout : answer.stdout =
    "Wrote " ++ toString report.units ++ " units to " ++ request.outputText equipment.package ++
      "\n" ++ if 0 < report.duplicates then
        "Skipped " ++ toString report.duplicates ++ " rows with duplicate identifiers\n"
      else ""
  complaint : answer.complaint = ""
  written : ∃ columns entries place,
    Reads equipment.reader tree request.input configuration columns entries ∧
    report = (render entries configuration.aliases).report ∧
    answer.tree.read (Path.ofText (request.outputText equipment.package)) =
      .ok (render entries configuration.aliases).text.toUTF8 ∧
    Tree.Receives (Path.ofText (request.outputText equipment.package))
      (render entries configuration.aliases).text.toUTF8 place tree answer.tree

/-- The answer to a run that fails. Every file and directory is as it was, and what is new is a
directory above the output. -/
structure Declines (equipment : Equipment) (tree : Tree) (request : Arguments) (failure : Failure)
    (answer : Answer) : Prop where
  exit : answer.exit = 1
  stdout : answer.stdout = ""
  complaint : Tells equipment.interface.help failure answer.complaint
  grows : Tree.Grows (·.IsAbove (Path.ofText (request.outputText equipment.package))) tree
    answer.tree

/-- The complaint is the message of a missing input with the help text, and nothing else. -/
def ShowsHelp (help : String) (answer : Answer) : Prop :=
  ∃ path, answer.complaint = missingInputText help path

theorem pathIn_generated (front : String) :
    pathIn (front ++ "generated") "units.rs" = front ++ "generated/units.rs" := by
  have ends : (front ++ "generated").toList.getLast? = some 'd' := by simp
  rw [pathIn, ends, if_neg (by decide), String.append_assoc, String.append_assoc]
  rfl

theorem outputs_outputText (request : Arguments) (package : String) :
    Outputs package request.output (request.outputText package) := by
  rw [Arguments.outputText]
  cases request.output with
  | some path => exact .named
  | none =>
    rw [Option.getD_none, defaultOutput, pathIn.eq_def package]
    by_cases open_end : package.toList.getLast? ∈ [none, some '/']
    · rw [if_pos open_end, pathIn_generated]
      exact .within open_end
    · rw [if_neg open_end, pathIn_generated, String.append_assoc]
      exact .below open_end

theorem configurationFor_of_configures
    (configures : Configures equipment.parser tree request.configuration configuration) :
    configurationFor equipment.parser tree request = .ok configuration := by
  rw [configurationFor]
  generalize request.configuration = named at configures
  cases configures with
  | default => rfl
  | file text parsed => simp [loadConfiguration, text, parsed, Except.mapError]

/-- A configuration is loaded, or it is told why not. -/
theorem configures_or_misconfigures (equipment : Equipment) (tree : Tree) (request : Arguments) :
    (∃ configuration, Configures equipment.parser tree request.configuration configuration) ∨
    ∃ failure, configurationFor equipment.parser tree request = .error failure ∧
      Misconfigures equipment.parser tree request.configuration
        (complaint equipment.interface.help failure) := by
  rw [configurationFor]
  generalize request.configuration = named
  cases named with
  | none => exact Or.inl ⟨{}, .default⟩
  | some path =>
    cases text : tree.readText (Path.ofText path) with
    | error fault =>
      refine Or.inr ⟨.configuration (.unreadable path fault), ?_, .unreadable text⟩
      simp [loadConfiguration, text, Except.mapError]
    | ok content =>
      cases parsed : Configuration.ofText? equipment.parser content with
      | some configuration => exact Or.inl ⟨configuration, .file text parsed⟩
      | none =>
        refine Or.inr ⟨.configuration (.invalid path (equipment.parser.refusal content)), ?_,
          .invalid text parsed⟩
        simp [loadConfiguration, text, parsed, Except.mapError]

/-- A run that has its configuration does not fail for one. -/
theorem tells_of_generate_error {failure : Failure}
    (failed : (request.runWith equipment tree configuration refusals).result = .error failure) :
    Tells equipment.interface.help failure (complaint equipment.interface.help failure) := by
  rcases generate_cases equipment.reader equipment.naming tree request.input
      (request.outputText equipment.package) configuration refusals with
    ⟨_, fails, failed', _⟩ | ⟨_, _, _, ⟨_, failed', _⟩ | ⟨_, reported, _⟩⟩
  · cases failed.symm.trans failed'
    cases fails with
    | inputMissing _ => exact .inputMissing
    | unreadable _ _ => exact .unreadableWorkbook
    | undecoded _ _ _ => exact .unreadableWorkbook
    | sheetMissing _ _ => exact .sheetMissing
    | damaged _ _ => exact .unreadableWorkbook
    | noHeader _ => exact .noHeader
    | columnMissing _ _ => exact .columnMissing
  · cases failed.symm.trans failed'
    exact .output
  · cases failed.symm.trans reported

section Accepted

variable (accepted : equipment.interface.read arguments = .run request)
include accepted

theorem answer_of_unloaded {failure : Failure}
    (unloaded : configurationFor equipment.parser tree request = .error failure)
    (refusals : Refusals) : answer equipment tree arguments refusals =
      ⟨1, "", complaint equipment.interface.help failure, tree, []⟩ := by
  rw [answer, accepted]
  simp only [runGeneration, unloaded]

theorem answer_of_error {failure : Failure}
    (configures : Configures equipment.parser tree request.configuration configuration)
    (failed : (request.runWith equipment tree configuration refusals).result = .error failure) :
    answer equipment tree arguments refusals =
      let run := request.runWith equipment tree configuration refusals
      ⟨1, "", complaint equipment.interface.help failure, run.tree, run.events⟩ := by
  rw [answer, accepted]
  simp only [runGeneration, configurationFor_of_configures configures, failed]

theorem answer_of_report {report : Report}
    (configures : Configures equipment.parser tree request.configuration configuration)
    (told : (request.runWith equipment tree configuration refusals).result = .ok report) :
    answer equipment tree arguments refusals =
      let run := request.runWith equipment tree configuration refusals
      ⟨0, summary report (request.outputText equipment.package), "", run.tree, run.events⟩ := by
  rw [answer, accepted]
  simp only [runGeneration, configurationFor_of_configures configures, told]

theorem delivers_of_report {report : Report}
    (configures : Configures equipment.parser tree request.configuration configuration)
    (told : (request.runWith equipment tree configuration refusals).result = .ok report) :
    Delivers equipment tree request configuration report
      (answer equipment tree arguments refusals) := by
  rw [answer_of_report accepted configures told]
  refine ⟨rfl, rfl, rfl, ?_⟩
  rcases generate_cases equipment.reader equipment.naming tree request.input
      (request.outputText equipment.package) configuration refusals with
    ⟨_, _, failed, _⟩ | ⟨columns, entries, reads, ⟨_, failed, _⟩ | ⟨place, reported, receives⟩⟩
  · cases told.symm.trans failed
  · cases told.symm.trans failed
  · cases told.symm.trans reported
    exact ⟨columns, entries, place, reads, rfl, receives.read_eq, receives⟩

theorem declines_of_error {failure : Failure}
    (configures : Configures equipment.parser tree request.configuration configuration)
    (failed : (request.runWith equipment tree configuration refusals).result = .error failure) :
    Declines equipment tree request failure (answer equipment tree arguments refusals) := by
  rw [answer_of_error accepted configures failed]
  exact ⟨rfl, rfl, tells_of_generate_error failed, grows_of_generate_error failed⟩

/-- An accepted command has no configuration, or fails with one, or gives a report. -/
theorem answer_cases (tree : Tree) (refusals : Refusals) :
    let answer := answer equipment tree arguments refusals
    (∃ text, Misconfigures equipment.parser tree request.configuration text ∧
      answer = ⟨1, "", text, tree, []⟩) ∨
    ∃ configuration, Configures equipment.parser tree request.configuration configuration ∧
      ((∃ failure,
        (request.runWith equipment tree configuration refusals).result = .error failure ∧
        Declines equipment tree request failure answer) ∨
      ∃ report, (request.runWith equipment tree configuration refusals).result = .ok report ∧
        Delivers equipment tree request configuration report answer) := by
  intro answer
  rcases configures_or_misconfigures equipment tree request with ⟨configuration, configures⟩ |
    ⟨failure, unloaded, misconfigures⟩
  · refine Or.inr ⟨configuration, configures, ?_⟩
    cases told : (request.runWith equipment tree configuration refusals).result with
    | error failure => exact Or.inl ⟨failure, rfl, declines_of_error accepted configures told⟩
    | ok report => exact Or.inr ⟨report, rfl, delivers_of_report accepted configures told⟩
  · exact Or.inl ⟨_, misconfigures, answer_of_unloaded accepted unloaded refusals⟩

end Accepted

theorem head?_missingInputText (help path : String) :
    (missingInputText help path).toList.head? = some 'U' := by
  unfold missingInputText
  rw [String.append_assoc, String.append_assoc, String.append_assoc, String.append_assoc,
    String.toList_append, String.toList_ofList]
  rfl

theorem error_ne_missingInputText (message help path : String) :
    "Error: " ++ message ++ "\n" ≠ missingInputText help path := by
  intro same
  have begins := head?_missingInputText help path
  rw [← same, String.append_assoc, String.toList_append, String.toList_ofList] at begins
  cases begins

theorem Misconfigures.ne_missingInputText {parser : Toml.Parser} {named : Option String}
    {text : String} (misconfigures : Misconfigures parser tree named text) (help path : String) :
    text ≠ missingInputText help path := by
  cases misconfigures with
  | unreadable _ => exact error_ne_missingInputText _ help path
  | invalid _ _ => exact error_ne_missingInputText _ help path

theorem Tells.eq_missingInputText_iff {help : String} {failure : Failure} {text : String}
    (tells : Tells help failure text) :
    (∃ path, text = missingInputText help path) ↔ ∃ path, failure = .inputMissing path := by
  cases tells with
  | inputMissing => exact iff_of_true ⟨_, rfl⟩ ⟨_, rfl⟩
  | _ =>
    exact iff_of_false (fun ⟨path, same⟩ => error_ne_missingInputText _ _ path same) (by simp)

theorem Delivers.not_showsHelp {report : Report} {answer : Answer}
    (delivers : Delivers equipment tree request configuration report answer) (help : String) :
    ¬ShowsHelp help answer := by
  rintro ⟨path, shown⟩
  have begins := head?_missingInputText help path
  rw [← shown, delivers.complaint] at begins
  cases begins

section Outcome

variable (accepted : equipment.interface.read arguments = .run request)
  (tree : Tree) (refusals : Refusals)
include accepted

theorem exit_eq_zero_iff :
    (answer equipment tree arguments refusals).exit = 0 ↔ ∃ configuration report,
      Configures equipment.parser tree request.configuration configuration ∧
        (request.runWith equipment tree configuration refusals).result = .ok report := by
  constructor
  · intro zero
    rcases answer_cases accepted tree refusals with ⟨_, _, told⟩ |
      ⟨configuration, configures, ⟨_, _, declines⟩ | ⟨report, told, _⟩⟩
    · rw [told] at zero
      cases zero
    · cases zero.symm.trans declines.exit
    · exact ⟨configuration, report, configures, told⟩
  · rintro ⟨configuration, report, configures, told⟩
    exact (delivers_of_report accepted configures told).exit

theorem declines_of_exit_ne_zero
    (nonzero : (answer equipment tree arguments refusals).exit ≠ 0) :
    (∃ text, Misconfigures equipment.parser tree request.configuration text ∧
      answer equipment tree arguments refusals = ⟨1, "", text, tree, []⟩) ∨
    ∃ configuration failure,
      Configures equipment.parser tree request.configuration configuration ∧
      (request.runWith equipment tree configuration refusals).result = .error failure ∧
      Declines equipment tree request failure (answer equipment tree arguments refusals) := by
  rcases answer_cases accepted tree refusals with unconfigured |
    ⟨configuration, configures, ⟨failure, failed, declines⟩ | ⟨_, _, delivers⟩⟩
  · exact Or.inl unconfigured
  · exact Or.inr ⟨configuration, failure, configures, failed, declines⟩
  · exact absurd delivers.exit nonzero

/-- Without a configuration, commands that name the same configuration have the same answer. -/
theorem answer_of_unconfigured (unconfigured : ∀ configuration,
      ¬Configures equipment.parser tree request.configuration configuration) :
    (∃ text, Misconfigures equipment.parser tree request.configuration text ∧
      answer equipment tree arguments refusals = ⟨1, "", text, tree, []⟩) ∧
    ∀ arguments' request', equipment.interface.read arguments' = .run request' →
      request'.configuration = request.configuration →
        answer equipment tree arguments' refusals = answer equipment tree arguments refusals := by
  rcases configures_or_misconfigures equipment tree request with ⟨configuration, configures⟩ |
    ⟨failure, unloaded, misconfigures⟩
  · exact absurd configures (unconfigured configuration)
  · have told := answer_of_unloaded accepted unloaded refusals
    refine ⟨⟨_, misconfigures, told⟩, fun arguments' request' accepted' same => ?_⟩
    -- The configuration is all that is asked of the arguments before the answer stands.
    have unloaded' : configurationFor equipment.parser tree request' = .error failure := by
      rw [← unloaded, configurationFor, configurationFor, same]
    exact (answer_of_unloaded accepted' unloaded' refusals).trans told.symm

theorem showsHelp_answer_iff :
    ShowsHelp equipment.interface.help (answer equipment tree arguments refusals) ↔
      ∃ configuration, Configures equipment.parser tree request.configuration configuration ∧
        (request.runWith equipment tree configuration refusals).result =
          .error (.inputMissing request.input) := by
  constructor
  · rintro ⟨path, shown⟩
    rcases answer_cases accepted tree refusals with ⟨text, misconfigures, told⟩ |
      ⟨configuration, configures, ⟨failure, failed, declines⟩ | ⟨_, _, delivers⟩⟩
    · rw [told] at shown
      exact absurd shown (misconfigures.ne_missingInputText _ path)
    · obtain ⟨_, rfl⟩ := declines.complaint.eq_missingInputText_iff.mp ⟨path, shown⟩
      obtain ⟨rfl, _⟩ := generate_eq_inputMissing_iff.mp failed
      exact ⟨configuration, configures, failed⟩
    · exact absurd ⟨path, shown⟩ (delivers.not_showsHelp _)
  · rintro ⟨configuration, configures, failed⟩
    have declines := declines_of_error accepted configures failed
    exact declines.complaint.eq_missingInputText_iff.mpr ⟨_, rfl⟩

end Outcome

/-- The exit status of an accepted command is zero exactly if a configuration is loaded and the run
with it gives a report; then the module of the report is at the output and the counts are printed.
In every other case it is one, nothing is printed on the standard output, and no file has changed.
If there is no configuration, then the answer says so and leaves the tree alone, whatever input and
output the arguments name. The help text is shown exactly if the run misses its input. An output
that is not named is a file below the package. -/
theorem exit_status_tells_outcome (equipment : Equipment) (tree : Tree) (refusals : Refusals)
    (accepted : equipment.interface.read arguments = .run request) :
    let answer := answer equipment tree arguments refusals
    let configures := Configures equipment.parser tree request.configuration
    let result := fun configuration =>
      (request.runWith equipment tree configuration refusals).result
    Outputs equipment.package request.output (request.outputText equipment.package) ∧
    (answer.exit = 0 ↔
      ∃ configuration report, configures configuration ∧ result configuration = .ok report) ∧
    (∀ configuration report, configures configuration → result configuration = .ok report →
      Delivers equipment tree request configuration report answer) ∧
    (answer.exit ≠ 0 →
      (∃ text, Misconfigures equipment.parser tree request.configuration text ∧
        answer = ⟨1, "", text, tree, []⟩) ∨
      ∃ configuration failure, configures configuration ∧
        result configuration = .error failure ∧
        Declines equipment tree request failure answer) ∧
    ((∀ configuration, ¬configures configuration) →
      (∃ text, Misconfigures equipment.parser tree request.configuration text ∧
        answer = ⟨1, "", text, tree, []⟩) ∧
      ∀ arguments' request', equipment.interface.read arguments' = .run request' →
        request'.configuration = request.configuration →
          CommandLine.answer equipment tree arguments' refusals = answer) ∧
    (ShowsHelp equipment.interface.help answer ↔ ∃ configuration,
      configures configuration ∧ result configuration = .error (.inputMissing request.input)) ∧
    ∀ configuration, result configuration = .error (.inputMissing request.input) ↔
      tree.exists? (Path.ofText request.input) = false := by
  intro answer configures result
  refine ⟨outputs_outputText request equipment.package, exit_eq_zero_iff accepted tree refusals,
    fun configuration report configures told => delivers_of_report accepted configures told,
    declines_of_exit_ne_zero accepted tree refusals,
    answer_of_unconfigured accepted tree refusals,
    showsHelp_answer_iff accepted tree refusals, fun configuration => ?_⟩
  exact generate_eq_inputMissing_iff.trans (and_iff_right rfl)

/-- An interface that knows the options in one order, and a reader that knows one workbook. It lists
one unit twice. -/
def twiceEquipment : Equipment where
  interface := {
    read := fun arguments => match arguments with
      | ["--config", configuration, input, "--outfile", output] =>
        .run ⟨input, some output, some configuration⟩
      | _ => .stop 2 "" "error: unexpected arguments\n"
    help := "Usage: units-from-xls [OPTIONS] <XLSFILE>\n" }
  parser := Toml.standard
  reader := .single "PK".toUTF8 "Units"
    [[.text "Name", .text "Common\nCode", .text "Symbol"],
      [.text "metre", .text "MTR", .text "m"], [.text "Metre", .text "MTR", .text "m"]]
  naming := .sample
  package := "/work"

/-- A working directory with a configuration and with the workbook. -/
def twiceTree : Tree :=
  ⟨["work"], [(["work"], .directory),
    (["work", "settings.toml"], .file "sheet_name = \"Units\"".toUTF8),
    (["work", "units.xlsx"], .file "PK".toUTF8)]⟩

theorem metre_listed_twice_answered :
    let arguments := ["--config", "settings.toml", "units.xlsx", "--outfile", "new/module.txt"]
    let request : Arguments := ⟨"units.xlsx", some "new/module.txt", some "settings.toml"⟩
    let answer := answer twiceEquipment twiceTree arguments {}
    twiceEquipment.interface.read arguments = .run request ∧
    Configures twiceEquipment.parser twiceTree request.configuration { sheetName := "Units" } ∧
    answer.exit = 0 ∧
    answer.stdout =
      "Wrote 1 units to new/module.txt\nSkipped 1 rows with duplicate identifiers\n" ∧
    Delivers twiceEquipment twiceTree request { sheetName := "Units" }
      { units := 1, duplicates := 1 } answer ∧
    ¬ShowsHelp twiceEquipment.interface.help answer := by
  intro arguments request answer
  have accepted : twiceEquipment.interface.read arguments = .run request := by decide +kernel
  have text : twiceTree.readText (Path.ofText "settings.toml") =
      .ok "sheet_name = \"Units\"" := by decide +kernel
  have configures : Configures twiceEquipment.parser twiceTree request.configuration
      { sheetName := "Units" } := .file text (by decide +kernel)
  have reported : (request.runWith twiceEquipment twiceTree { sheetName := "Units" } {}).result =
      .ok { units := 1, duplicates := 1 } := by decide +kernel
  obtain ⟨_, _, delivers, _⟩ := exit_status_tells_outcome twiceEquipment twiceTree {} accepted
  have delivered := delivers _ _ configures reported
  exact ⟨accepted, configures, delivered.exit, by decide +kernel, delivered,
    delivered.not_showsHelp _⟩

end CommandLine

end UnitCatalogue

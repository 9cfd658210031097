import UnitCatalogue.Proofs.GenerationOutcome
import UnitCatalogue.Proofs.OldContents
import UnitCatalogue.Proofs.RepeatedReplacement

/-!
# Regeneration

The output is written and never read, unless it is the workbook itself. A run that has given a
report can therefore be repeated without any effect, and what the output held before it does not
matter.
-/

namespace UnitCatalogue

open Directory

variable {reader : Sheet.WorkbookReader} {naming : Naming} {tree tree' : Tree} {input : String}
  {configuration : Configuration}

theorem Reads.of_opens {columns : Columns} {entries : List Entry}
    (opens : ∀ workbook, Opens reader tree input workbook → Opens reader tree' input workbook)
    (reads : Reads reader tree input configuration columns entries) :
    Reads reader tree' input configuration columns entries := by
  obtain ⟨header, rows, ⟨workbook, ⟨opened, named⟩, shown⟩, rest⟩ := reads
  exact ⟨header, rows, ⟨workbook, ⟨opens workbook opened, named⟩, shown⟩, rest⟩

/-- Writing another file leaves the workbook as it was. -/
theorem Opens.of_receives {path : Path} {content : ByteArray} {place : Place} {after : Tree}
    {workbook : Sheet.Workbook} (opens : Opens reader tree input workbook)
    (receives : Tree.Receives path content place tree after)
    (apart : tree.find (Path.ofText input) ≠ .ok (tree.leadsTo path)) :
    Opens reader after input workbook := by
  obtain ⟨data, before, decoded⟩ := opens.opened
  have later := receives.read_of_apart apart before
  obtain ⟨source, found, _⟩ := Tree.read_eq_ok_iff.mp later
  refine ⟨?_, data, later, decoded⟩
  rw [Tree.exists?, found]
  rfl

theorem readSheet_congr
    (exists_eq : tree'.exists? (Path.ofText input) = tree.exists? (Path.ofText input))
    (read_eq : tree'.read (Path.ofText input) = tree.read (Path.ofText input)) :
    readSheet reader tree' input configuration = readSheet reader tree input configuration := by
  simp only [readSheet, exists_eq, openWorkbook, read_eq]

variable {output : String} {refusals : Refusals}

/-- A report comes from units that were read and a module that was written. -/
theorem reads_and_written_of_report {report : Report}
    (told : (generate reader naming tree input output configuration refusals).result =
      .ok report) :
    ∃ columns entries after, Reads reader tree input configuration columns entries ∧
      tree.writeReplacing naming (Path.ofText output)
        (render entries configuration.aliases).text.toUTF8 refusals = (.ok (), after) := by
  rcases readFails_or_reads reader tree input configuration with ⟨failure, fails⟩ |
    ⟨columns, entries, reads⟩
  · rw [generate_of_readFails fails] at told
    cases told
  · cases written : tree.writeReplacing naming (Path.ofText output)
        (render entries configuration.aliases).text.toUTF8 refusals with
    | mk result after =>
      cases result with
      | error fault =>
        rw [generate_of_unwritten reads written] at told
        cases told
      | ok _ => exact ⟨columns, entries, after, reads, written⟩

theorem generate_again {report : Report}
    (apart : tree.find (Path.ofText input) ≠ .ok (tree.leadsTo (Path.ofText output)))
    (told : (generate reader naming tree input output configuration refusals).result =
      .ok report) (naming' : Naming) :
    let run := generate reader naming tree input output configuration refusals
    generate reader naming' run.tree input output configuration refusals = run := by
  intro run
  obtain ⟨columns, entries, after, reads, written⟩ := reads_and_written_of_report told
  have leaves := Tree.leavesBehind_writeReplacing naming tree (Path.ofText output)
    (render entries configuration.aliases).text.toUTF8 refusals
  rw [written] at leaves
  obtain ⟨place, receives⟩ := leaves
  -- The second run reads the workbook of the first, and so writes the same text.
  have reads' : Reads reader after input configuration columns entries :=
    reads.of_opens fun workbook opens => opens.of_receives receives apart
  have once := generate_of_written reads written
  have twice := generate_of_written reads' (Tree.writeReplacing_again written naming')
  rw [show run = _ from once]
  exact twice

theorem generate_over_other_content
    (apart : tree.find (Path.ofText input) ≠ .ok (tree.leadsTo (Path.ofText output)))
    (differ : Tree.DifferInFile (tree.leadsTo (Path.ofText output)) tree tree')
    (naming naming' : Naming) :
    let run := generate reader naming tree input output configuration refusals
    let run' := generate reader naming' tree' input output configuration refusals
    run'.result = run.result ∧ run'.events = run.events ∧
      ∀ report, run.result = .ok report → Tree.Same run.tree run'.tree := by
  intro run run'
  have exists_eq : tree'.exists? (Path.ofText input) = tree.exists? (Path.ofText input) := by
    rw [Tree.exists?, Tree.exists?, differ.find_eq]
  have read_alike : readSheet reader tree' input configuration =
      readSheet reader tree input configuration :=
    readSheet_congr exists_eq (differ.read_eq apart)
  have write_alike := fun data => differ.writeReplacing rfl data refusals naming naming'
  simp only [run, run', generate, read_alike]
  cases readSheet reader tree input configuration with
  | error failure => simp
  | ok sheet =>
    obtain ⟨columns, entries⟩ := sheet
    simp only
    obtain ⟨result_eq, same⟩ := write_alike (render entries configuration.aliases).text.toUTF8
    cases written : tree.writeReplacing naming (Path.ofText output)
        (render entries configuration.aliases).text.toUTF8 refusals with
    | mk result after =>
      cases written' : tree'.writeReplacing naming' (Path.ofText output)
          (render entries configuration.aliases).text.toUTF8 refusals with
      | mk result' after' =>
        simp only [written, written'] at result_eq same
        obtain rfl := result_eq
        cases result' with
        | error fault => simp
        | ok _ => exact ⟨rfl, rfl, fun _ _ => same rfl⟩

/-- If the output is not the workbook itself, then a run that gives a report has nothing left to do:
a second run gives the report again, tells the same and leaves the tree as it is. And what a file at
the output held before makes no difference to the result, to what is told, or to the tree that a
report comes with. Each run may choose its temporary names in its own way. -/
theorem regeneration_is_fixpoint (reader : Sheet.WorkbookReader) (tree : Tree)
    (input output : String) (configuration : Configuration) (refusals : Refusals)
    (apart : tree.find (Path.ofText input) ≠ .ok (tree.leadsTo (Path.ofText output))) :
    let run := fun (naming : Naming) (tree : Tree) =>
      generate reader naming tree input output configuration refusals
    (∀ naming naming' report, (run naming tree).result = .ok report →
      run naming' (run naming tree).tree = run naming tree) ∧
    ∀ naming naming' other, Tree.DifferInFile (tree.leadsTo (Path.ofText output)) tree other →
      (run naming' other).result = (run naming tree).result ∧
      (run naming' other).events = (run naming tree).events ∧
      ∀ report, (run naming tree).result = .ok report →
        Tree.Same (run naming tree).tree (run naming' other).tree := by
  intro run
  refine ⟨?_, ?_⟩
  · intro naming naming' report told
    exact generate_again apart told naming'
  · intro naming naming' other differ
    exact generate_over_other_content apart differ naming naming'

/-- The rows of a workbook with one unit. -/
def metreRows : List Sheet.Row :=
  [[.text "Name", .text "Common\nCode", .text "Symbol"], [.text "metre", .text "MTR", .text "m"]]

/-- A working directory with a workbook of one unit, and with something at the output. -/
def metreTree (old : ByteArray) : Tree :=
  Tree.put ⟨["work"], [(["work"], .directory),
    (["work", "units.xlsx"], .file "PK".toUTF8)]⟩ ["work", "module.txt"] (.file old)

/-- Temporary names that are longer than all other names. -/
def otherNaming : Naming where
  name tree _ := tree.unusedName
  fresh := Tree.node?_unusedName

theorem metre_module_generated_again :
    let run := fun (naming : Naming) (tree : Tree) => generate
      (.single "PK".toUTF8 "Units" metreRows) naming tree "units.xlsx" "new/../module.txt"
      { sheetName := "Units" } {}
    let tree := metreTree "old".toUTF8
    let other := metreTree "older".toUTF8
    (run .sample tree).result = .ok { units := 1 } ∧
      run otherNaming (run .sample tree).tree = run .sample tree ∧
      (run otherNaming other).result = .ok { units := 1 } ∧
      Tree.Same (run .sample tree).tree (run otherNaming other).tree := by
  intro run tree other
  have reported : (run .sample tree).result = .ok { units := 1 } := by decide +kernel
  have leads : tree.leadsTo (Path.ofText "new/../module.txt") = ["work", "module.txt"] := by
    decide +kernel
  have apart : tree.find (Path.ofText "units.xlsx") ≠
      .ok (tree.leadsTo (Path.ofText "new/../module.txt")) := by decide +kernel
  have differ : Tree.DifferInFile (tree.leadsTo (Path.ofText "new/../module.txt")) tree other := by
    rw [leads]
    exact Tree.differInFile_put _ (by decide) _ _
  obtain ⟨again, over_old⟩ := regeneration_is_fixpoint (.single "PK".toUTF8 "Units" metreRows) tree
    "units.xlsx" "new/../module.txt" { sheetName := "Units" } {} apart
  obtain ⟨result_eq, _, same⟩ := over_old .sample otherNaming other differ
  exact ⟨reported, again _ _ _ reported, result_eq.trans reported, same _ reported⟩

end UnitCatalogue

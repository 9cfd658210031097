import UnitCatalogue.Generation
import UnitCatalogue.Proofs.FileReplacement
import UnitCatalogue.Proofs.SheetReading

/-!
# What a run leaves behind

A run that cannot read its units leaves the tree alone and tells the first stage that failed. A run
that cannot write them adds at most directories above the output. Any other run puts the rendered
module at the output and changes nothing else. What a workbook holds is for its reader to say.
-/

namespace UnitCatalogue

open Directory

variable {reader : Sheet.WorkbookReader} {naming : Naming} {tree : Tree} {input : String}
  {configuration : Configuration}

/-- The input is there, and its bytes are those of this workbook. -/
structure Opens (reader : Sheet.WorkbookReader) (tree : Tree) (input : String)
    (workbook : Sheet.Workbook) : Prop where
  input_exists : tree.exists? (Path.ofText input) = true
  opened : ∃ data, tree.read (Path.ofText input) = .ok data ∧
    reader.decode input data = .ok workbook

/-- The workbook opens and has a sheet of the configured name. -/
structure Selects (reader : Sheet.WorkbookReader) (tree : Tree) (input : String)
    (configuration : Configuration) (workbook : Sheet.Workbook) : Prop where
  opens : Opens reader tree input workbook
  named : configuration.sheetName ∈ workbook.sheetNames

/-- The rows of the configured sheet. -/
def ShowsRows (reader : Sheet.WorkbookReader) (tree : Tree) (input : String)
    (configuration : Configuration) (rows : List Sheet.Row) : Prop :=
  ∃ workbook, Selects reader tree input configuration workbook ∧
    workbook.rows configuration.sheetName = .ok rows

/-- Each stage can fail only if those before it have succeeded. -/
inductive ReadFails (reader : Sheet.WorkbookReader) (tree : Tree) (input : String)
    (configuration : Configuration) : Failure → Prop where
  | inputMissing : tree.exists? (Path.ofText input) = false →
      ReadFails reader tree input configuration (.inputMissing input)
  | unreadable {fault : Fault} : tree.exists? (Path.ofText input) = true →
      tree.read (Path.ofText input) = .error fault →
      ReadFails reader tree input configuration
        (.sheet (.unreadableWorkbook (input ++ ": " ++ reader.refusal input fault)))
  | undecoded {data : ByteArray} {detail : String} : tree.exists? (Path.ofText input) = true →
      tree.read (Path.ofText input) = .ok data → reader.decode input data = .error detail →
      ReadFails reader tree input configuration
        (.sheet (.unreadableWorkbook (input ++ ": " ++ detail)))
  | sheetMissing {workbook : Sheet.Workbook} : Opens reader tree input workbook →
      configuration.sheetName ∉ workbook.sheetNames →
      ReadFails reader tree input configuration
        (.sheet (.sheetMissing configuration.sheetName workbook.sheetNames))
  | damaged {workbook : Sheet.Workbook} {detail : String} :
      Selects reader tree input configuration workbook →
      workbook.rows configuration.sheetName = .error detail →
      ReadFails reader tree input configuration
        (.sheet (.unreadableWorkbook (configuration.sheetName ++ ": " ++ detail)))
  | noHeader : ShowsRows reader tree input configuration [] →
      ReadFails reader tree input configuration (.sheet .noHeader)
  | columnMissing {header : Sheet.Row} {rows : List Sheet.Row} {label : String} :
      ShowsRows reader tree input configuration (header :: rows) →
      [configuration.columns.name, configuration.columns.code, configuration.columns.suffix].find?
        (Sheet.Cell.text · ∉ header) = some label →
      ReadFails reader tree input configuration (.sheet (.columnMissing label))

/-- The units of the configured sheet, one for each row behind its header. -/
def Reads (reader : Sheet.WorkbookReader) (tree : Tree) (input : String)
    (configuration : Configuration) (columns : Columns) (entries : List Entry) : Prop :=
  ∃ header rows, ShowsRows reader tree input configuration (header :: rows) ∧
    Sheet.findColumns header configuration.columns = .ok columns ∧
    entries = rows.map (Sheet.entryOf columns)

theorem readSheet_of_opens {workbook : Sheet.Workbook}
    (opens : Opens reader tree input workbook) : readSheet reader tree input configuration =
      ((workbook.block configuration.sheetName).mapError .sheet).bind fun rows =>
        (Sheet.readUnits rows configuration.columns).mapError .sheet := by
  obtain ⟨data, read, decoded⟩ := opens.opened
  rw [readSheet, if_pos opens.input_exists, openWorkbook, read]
  simp only [decoded]
  rfl

theorem readSheet_of_selects {workbook : Sheet.Workbook}
    (selects : Selects reader tree input configuration workbook) :
    readSheet reader tree input configuration =
      ((workbook.rows configuration.sheetName).mapError fun detail =>
        .sheet (.unreadableWorkbook (configuration.sheetName ++ ": " ++ detail))).bind fun rows =>
          (Sheet.readUnits rows configuration.columns).mapError .sheet := by
  rw [readSheet_of_opens selects.opens, Sheet.Workbook.block, if_pos selects.named]
  cases workbook.rows configuration.sheetName with
  | error detail => rfl
  | ok rows => rfl

theorem readSheet_of_shows {rows : List Sheet.Row}
    (shows : ShowsRows reader tree input configuration rows) :
    readSheet reader tree input configuration =
      (Sheet.readUnits rows configuration.columns).mapError .sheet := by
  obtain ⟨workbook, selects, shown⟩ := shows
  rw [readSheet_of_selects selects, shown]
  rfl

theorem readSheet_of_readFails {failure : Failure}
    (fails : ReadFails reader tree input configuration failure) :
    readSheet reader tree input configuration = .error failure := by
  cases fails with
  | inputMissing missing => rw [readSheet, if_neg (by simp [missing])]
  | unreadable stands failed =>
    rw [readSheet, if_pos stands, openWorkbook, failed]
    rfl
  | undecoded stands read failed =>
    rw [readSheet, if_pos stands, openWorkbook, read]
    simp only [failed]
    rfl
  | sheetMissing opens missing =>
    rw [readSheet_of_opens opens, Sheet.Workbook.block, if_neg missing]
    rfl
  | damaged selects refused =>
    rw [readSheet_of_selects selects, refused]
    rfl
  | noHeader shows =>
    rw [readSheet_of_shows shows, Sheet.readUnits_nil]
    rfl
  | @columnMissing header rows label shows first =>
    have columns := Sheet.findColumns_cases header configuration.columns
    rw [first] at columns
    simp only at columns
    rw [readSheet_of_shows shows, Sheet.readUnits_cons, columns]
    rfl

theorem readSheet_of_reads {columns : Columns} {entries : List Entry}
    (reads : Reads reader tree input configuration columns entries) :
    readSheet reader tree input configuration = .ok (columns, entries) := by
  obtain ⟨header, rows, shows, found, rfl⟩ := reads
  rw [readSheet_of_shows shows, Sheet.readUnits_cons, found]
  rfl

/-- Some stage fails, or the units are read. -/
theorem readFails_or_reads (reader : Sheet.WorkbookReader) (tree : Tree) (input : String)
    (configuration : Configuration) :
    (∃ failure, ReadFails reader tree input configuration failure) ∨
      ∃ columns entries, Reads reader tree input configuration columns entries := by
  cases stands : tree.exists? (Path.ofText input) with
  | false => exact Or.inl ⟨_, .inputMissing stands⟩
  | true =>
    cases read : tree.read (Path.ofText input) with
    | error fault => exact Or.inl ⟨_, .unreadable stands read⟩
    | ok data =>
      cases decoded : reader.decode input data with
      | error detail => exact Or.inl ⟨_, .undecoded stands read decoded⟩
      | ok workbook =>
        have opens : Opens reader tree input workbook := ⟨stands, data, read, decoded⟩
        by_cases named : configuration.sheetName ∈ workbook.sheetNames
        · have selects : Selects reader tree input configuration workbook := ⟨opens, named⟩
          cases shown : workbook.rows configuration.sheetName with
          | error detail => exact Or.inl ⟨_, .damaged selects shown⟩
          | ok sheet =>
            cases sheet with
            | nil => exact Or.inl ⟨_, .noHeader ⟨workbook, selects, shown⟩⟩
            | cons header rows =>
              have columns := Sheet.findColumns_cases header configuration.columns
              split at columns
              · next label first =>
                exact Or.inl ⟨_, .columnMissing ⟨workbook, selects, shown⟩ first⟩
              · obtain ⟨columns, found⟩ := columns
                exact Or.inr ⟨columns, _, header, rows, ⟨workbook, selects, shown⟩, found, rfl⟩
        · exact Or.inl ⟨_, .sheetMissing opens named⟩

theorem Reads.not_readFails {columns : Columns} {entries : List Entry}
    (reads : Reads reader tree input configuration columns entries) (failure : Failure) :
    ¬ReadFails reader tree input configuration failure := by
  intro fails
  have both := (readSheet_of_readFails fails).symm.trans (readSheet_of_reads reads)
  cases both

theorem ReadFails.unique {failure failure' : Failure}
    (fails : ReadFails reader tree input configuration failure)
    (fails' : ReadFails reader tree input configuration failure') : failure = failure' := by
  have both := (readSheet_of_readFails fails).symm.trans (readSheet_of_readFails fails')
  cases both
  rfl

theorem generate_of_readFails {failure : Failure}
    (fails : ReadFails reader tree input configuration failure) (naming : Naming)
    (output : String) (refusals : Refusals) :
    generate reader naming tree input output configuration refusals =
      ⟨.error failure, tree, []⟩ := by
  rw [generate, readSheet_of_readFails fails]

section Written

variable {columns : Columns} {entries : List Entry} {output : String} {refusals : Refusals}
  {after : Tree}

theorem generate_of_unwritten {fault : Fault}
    (reads : Reads reader tree input configuration columns entries)
    (failed : tree.writeReplacing naming (Path.ofText output)
      (render entries configuration.aliases).text.toUTF8 refusals = (.error fault, after)) :
    generate reader naming tree input output configuration refusals =
      ⟨.error (.output fault), after,
        .columnsFound columns :: (render entries configuration.aliases).events⟩ := by
  rw [generate, readSheet_of_reads reads]
  simp only [failed]

theorem generate_of_written (reads : Reads reader tree input configuration columns entries)
    (written : tree.writeReplacing naming (Path.ofText output)
      (render entries configuration.aliases).text.toUTF8 refusals = (.ok (), after)) :
    let rendering := render entries configuration.aliases
    generate reader naming tree input output configuration refusals =
      ⟨.ok rendering.report, after,
        .columnsFound columns :: rendering.events ++ [.moduleWritten rendering.report output]⟩ := by
  rw [generate, readSheet_of_reads reads]
  simp only [written]

end Written

/-- The three outcomes of a run. -/
theorem generate_cases (reader : Sheet.WorkbookReader) (naming : Naming) (tree : Tree)
    (input output : String) (configuration : Configuration) (refusals : Refusals) :
    let run := generate reader naming tree input output configuration refusals
    (∃ failure, ReadFails reader tree input configuration failure ∧
      run.result = .error failure ∧ run.tree = tree) ∨
    ∃ columns entries, Reads reader tree input configuration columns entries ∧
      ((∃ fault, run.result = .error (.output fault) ∧
        Tree.Grows (·.IsAbove (Path.ofText output)) tree run.tree) ∨
      ∃ place, run.result = .ok (render entries configuration.aliases).report ∧
        Tree.Receives (Path.ofText output)
          (render entries configuration.aliases).text.toUTF8 place tree run.tree) := by
  intro run
  rcases readFails_or_reads reader tree input configuration with ⟨failure, fails⟩ |
    ⟨columns, entries, reads⟩
  · refine Or.inl ⟨failure, fails, ?_⟩
    rw [show run = _ from generate_of_readFails fails naming output refusals]
    exact ⟨rfl, rfl⟩
  · refine Or.inr ⟨columns, entries, reads, ?_⟩
    have leaves := Tree.leavesBehind_writeReplacing naming tree (Path.ofText output)
      (render entries configuration.aliases).text.toUTF8 refusals
    cases written : tree.writeReplacing naming (Path.ofText output)
        (render entries configuration.aliases).text.toUTF8 refusals with
    | mk result after =>
      rw [written] at leaves
      cases result with
      | error fault =>
        rw [show run = _ from generate_of_unwritten reads written]
        exact Or.inl ⟨fault, rfl, leaves⟩
      | ok _ =>
        rw [show run = _ from generate_of_written reads written]
        obtain ⟨place, receives⟩ := leaves
        exact Or.inr ⟨place, rfl, receives⟩

/-- Whatever the reader makes of the input, a stage that fails before the output is written is told,
whatever the output, and leaves the tree alone. A failure to write adds at most directories above
the output. A report means that the module of the units read is at the output, and that nothing else
is new but directories above it. There is no other outcome. -/
theorem generate_all_or_nothing (reader : Sheet.WorkbookReader) (naming : Naming) (tree : Tree)
    (input output : String) (configuration : Configuration) (refusals : Refusals) :
    let run := generate reader naming tree input output configuration refusals
    (∀ failure, ReadFails reader tree input configuration failure →
      run.result = .error failure ∧ run.tree = tree) ∧
    (∀ failure, run.result = .error failure →
      ReadFails reader tree input configuration failure ∨ ∃ fault, failure = .output fault) ∧
    (∀ fault, run.result = .error (.output fault) →
      Tree.Grows (·.IsAbove (Path.ofText output)) tree run.tree) ∧
    ∀ report, run.result = .ok report → ∃ columns entries place,
      Reads reader tree input configuration columns entries ∧
      report = (render entries configuration.aliases).report ∧
      run.tree.read (Path.ofText output) =
        .ok (render entries configuration.aliases).text.toUTF8 ∧
      Tree.Receives (Path.ofText output)
        (render entries configuration.aliases).text.toUTF8 place tree run.tree := by
  intro run
  rcases generate_cases reader naming tree input output configuration refusals with
    ⟨failure, fails, failed, same_tree⟩ | ⟨columns, entries, reads, unwritten | written⟩
  · refine ⟨?_, ?_, ?_, ?_⟩
    · intro other fails'
      rw [fails'.unique fails]
      exact ⟨failed, same_tree⟩
    · intro other told
      cases failed.symm.trans told
      exact Or.inl fails
    · intro fault told
      cases failed.symm.trans told
      cases fails
    · intro report told
      cases failed.symm.trans told
  · obtain ⟨fault, failed, grows⟩ := unwritten
    refine ⟨fun failure fails => absurd fails (reads.not_readFails failure), ?_, ?_, ?_⟩
    · intro failure told
      cases failed.symm.trans told
      exact Or.inr ⟨fault, rfl⟩
    · intro _ _
      exact grows
    · intro report told
      cases failed.symm.trans told
  · obtain ⟨place, reported, receives⟩ := written
    refine ⟨fun failure fails => absurd fails (reads.not_readFails failure), ?_, ?_, ?_⟩
    · intro failure told
      cases reported.symm.trans told
    · intro fault told
      cases reported.symm.trans told
    · intro report told
      cases reported.symm.trans told
      exact ⟨columns, entries, place, reads, rfl, receives.read_eq, receives⟩

end UnitCatalogue

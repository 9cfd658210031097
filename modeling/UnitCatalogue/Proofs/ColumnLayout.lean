import Mathlib.Logic.Equiv.Basic
import Mathlib.Logic.Relation
import UnitCatalogue.Proofs.Regeneration
import UnitCatalogue.Proofs.RowByRow

/-!
# The layout of the columns

What is read from a sheet is decided by the cells below the three labels. If each label stands in
one column, then the columns can change their places, other columns can come and go, and the cells
below other titles can hold anything: the units stay, and so do the module and its report.
-/

namespace UnitCatalogue.Sheet

variable {labels : Labels} {label : String} {sheet sheet' : List Row} {header header' row : Row}
  {rows rows' : List Row} {column : ℕ}

/-- The columns in another order, all rows filled up to one width. -/
def reordered {width : ℕ} (order : Equiv.Perm (Fin width)) (row : Row) : Row :=
  List.ofFn fun column => cellAt row (order column)

/-- One more cell before a column. A row that ends earlier is filled up. -/
def insertedAt (column : ℕ) (cell : Cell) (row : Row) : Row :=
  (row.rightpad column .empty).insertIdx column cell

def IsUnlabelled (labels : Labels) (title : Cell) : Prop :=
  ∀ label ∈ labels.inOrder, title ≠ .text label

instance (labels : Labels) (title : Cell) : Decidable (IsUnlabelled labels title) :=
  inferInstanceAs (Decidable (∀ label ∈ labels.inOrder, title ≠ .text label))

/-- The changes act on all rows at once, and columns with a label are neither added, taken out nor
overwritten. -/
inductive LayoutStep (labels : Labels) : List Row → List Row → Prop where
  | reorder {sheet : List Row} {width : ℕ} (order : Equiv.Perm (Fin width)) :
      (∀ row ∈ sheet, row.length ≤ width) →
      LayoutStep labels sheet (sheet.map (reordered order))
  | insert {header : Row} {rows rows' : List Row} {title : Cell} (column : ℕ) :
      IsUnlabelled labels title →
      List.Forall₂ (fun row row' => ∃ cell, row' = insertedAt column cell row) rows rows' →
      LayoutStep labels (header :: rows) (insertedAt column title header :: rows')
  | delete {header : Row} {rows : List Row} (column : ℕ) :
      IsUnlabelled labels (cellAt header column) →
      LayoutStep labels (header :: rows) ((header :: rows).map (·.eraseIdx column))
  | overwrite {header : Row} {rows rows' : List Row} :
      List.Forall₂ (fun row row' => ∀ column, ¬IsUnlabelled labels (cellAt header column) →
        cellAt row' column = cellAt row column) rows rows' →
      LayoutStep labels (header :: rows) (header :: rows')

theorem cellAt_reordered {width : ℕ} (order : Equiv.Perm (Fin width)) (row : Row) (column : ℕ) :
    cellAt (reordered order row) column =
      if inside : column < width then cellAt row (order ⟨column, inside⟩) else .empty := by
  rw [reordered, cellAt, List.getElem?_ofFn]
  split
  · rfl
  · rfl

theorem cellAt_rightpad (row : Row) (width column : ℕ) :
    cellAt (row.rightpad width .empty) column = cellAt row column := by
  rw [cellAt, cellAt, List.rightpad, List.getElem?_append]
  split
  · rfl
  · next beyond =>
    rw [List.getElem?_replicate, List.getElem?_eq_none (Nat.le_of_not_lt beyond)]
    split
    · rfl
    · rfl

theorem cellAt_insertedAt (place : ℕ) (cell : Cell) (row : Row) (column : ℕ) :
    cellAt (insertedAt place cell row) column =
      if column < place then cellAt row column
      else if column = place then cell else cellAt row (column - 1) := by
  have filled : place ≤ (row.rightpad place .empty).length := by
    rw [List.length_rightpad]
    exact Nat.le_max_left _ _
  rw [← cellAt_rightpad row place column, ← cellAt_rightpad row place (column - 1), cellAt,
    insertedAt, List.getElem?_insertIdx]
  split
  · rfl
  · split
    · next same =>
      rw [same, if_pos filled]
      rfl
    · rfl

theorem cellAt_eraseIdx (place : ℕ) (row : Row) (column : ℕ) :
    cellAt (row.eraseIdx place) column =
      if column < place then cellAt row column else cellAt row (column + 1) := by
  rw [cellAt, List.getElem?_eraseIdx]
  split
  · rfl
  · rfl

/-- One text cell of the header, and no other, is the label. -/
def StandsOnce (header : Row) (label : String) : Prop :=
  ∃! column : ℕ, header[column]? = some (.text label)

/-- The label stands in one column alone, and these cells stand below it. -/
def StandBelow (sheet : List Row) (label : String) (cells : List Cell) : Prop :=
  ∃ header rows column, sheet = header :: rows ∧
    (∀ other, cellAt header other = .text label ↔ other = column) ∧
    rows.map (cellAt · column) = cells

/-- A change of the layout has to bring the column of the label to another place in every row, and
the label to no other place. -/
theorem standBelow_of_moved {from_column to_column : ℕ}
    (title : cellAt header' to_column = .text label)
    (no_other : ∀ other, cellAt header' other = .text label → other = to_column)
    (moved : List.Forall₂ (fun row row' => cellAt row' to_column = cellAt row from_column)
      rows rows') :
    StandBelow (header' :: rows') label (rows.map (cellAt · from_column)) := by
  refine ⟨header', rows', to_column, rfl, fun other => ⟨no_other other, ?_⟩, ?_⟩
  · rintro rfl
    exact title
  · rw [← List.forall₂_eq_eq_eq, List.forall₂_map_left_iff, List.forall₂_map_right_iff]
    exact moved.flip

section Steps

variable {cells : List Cell}

theorem StandBelow.reorder {width : ℕ} (order : Equiv.Perm (Fin width))
    (narrow : ∀ row ∈ sheet, row.length ≤ width) (stand : StandBelow sheet label cells) :
    StandBelow (sheet.map (reordered order)) label cells := by
  obtain ⟨header, rows, column, rfl, only, rfl⟩ := stand
  have title := (only column).mpr rfl
  have inside : column < width := by
    have in_header := (List.getElem?_eq_some_iff.mp (cellAt_eq_text_iff.mp title)).1
    have header_narrow := narrow header List.mem_cons_self
    omega
  -- The label is inside the width, so the order brings its column to one place in every row.
  have moved : ∀ row, cellAt (reordered order row) (order.symm ⟨column, inside⟩) =
      cellAt row column := by
    intro row
    rw [cellAt_reordered, dif_pos (Fin.is_lt _), Fin.eta, Equiv.apply_symm_apply]
  refine standBelow_of_moved ((moved header).trans title) ?_ ?_
  · intro other stands
    rw [cellAt_reordered] at stands
    split at stands
    · next inside' =>
      have same : order ⟨other, inside'⟩ = ⟨column, inside⟩ := Fin.ext ((only _).mp stands)
      rw [← same, Equiv.symm_apply_apply]
    · cases stands
  · rw [List.forall₂_map_right_iff, List.forall₂_same]
    exact fun row _ => moved row

theorem StandBelow.insert {place : ℕ} {title : Cell} (unlabelled : IsUnlabelled labels title)
    (added : List.Forall₂ (fun row row' => ∃ cell, row' = insertedAt place cell row) rows rows')
    (member : label ∈ labels.inOrder) (stand : StandBelow (header :: rows) label cells) :
    StandBelow (insertedAt place title header :: rows') label cells := by
  obtain ⟨_, _, column, same, only, rfl⟩ := stand
  cases same
  have title_label := (only column).mpr rfl
  have moved : ∀ cell row, cellAt (insertedAt place cell row)
      (if column < place then column else column + 1) = cellAt row column := by
    intro cell row
    rw [cellAt_insertedAt]
    by_cases before : column < place
    · rw [if_pos before, if_pos before]
    · rw [if_neg before, if_neg (by omega), if_neg (by omega), Nat.add_sub_cancel]
  refine standBelow_of_moved ((moved title header).trans title_label) ?_ ?_
  · intro other stands
    rw [cellAt_insertedAt] at stands
    split at stands
    · next before =>
      obtain rfl := (only other).mp stands
      rw [if_pos before]
    · split at stands
      · exact absurd stands (unlabelled label member)
      · have same := (only (other - 1)).mp stands
        rw [if_neg (by omega)]
        omega
  · refine added.imp fun row row' added => ?_
    obtain ⟨cell, rfl⟩ := added
    exact moved cell row

theorem StandBelow.delete {place : ℕ} (unlabelled : IsUnlabelled labels (cellAt header place))
    (member : label ∈ labels.inOrder) (stand : StandBelow (header :: rows) label cells) :
    StandBelow ((header :: rows).map (·.eraseIdx place)) label cells := by
  obtain ⟨_, _, column, same, only, rfl⟩ := stand
  cases same
  have title := (only column).mpr rfl
  have elsewhere : column ≠ place := by
    rintro rfl
    exact unlabelled label member title
  have moved : ∀ row : Row, cellAt (row.eraseIdx place)
      (if column < place then column else column - 1) = cellAt row column := by
    intro row
    rw [cellAt_eraseIdx]
    by_cases before : column < place
    · rw [if_pos before, if_pos before]
    · rw [if_neg before, if_neg (by omega), Nat.sub_add_cancel (by omega)]
  refine standBelow_of_moved ((moved header).trans title) ?_ ?_
  · intro other stands
    rw [cellAt_eraseIdx] at stands
    split at stands
    · next before =>
      obtain rfl := (only other).mp stands
      rw [if_pos before]
    · have same := (only (other + 1)).mp stands
      rw [if_neg (by omega)]
      omega
  · rw [List.forall₂_map_right_iff, List.forall₂_same]
    exact fun row _ => moved row

theorem StandBelow.overwrite
    (kept : List.Forall₂ (fun row row' => ∀ column, ¬IsUnlabelled labels (cellAt header column) →
      cellAt row' column = cellAt row column) rows rows')
    (member : label ∈ labels.inOrder) (stand : StandBelow (header :: rows) label cells) :
    StandBelow (header :: rows') label cells := by
  obtain ⟨_, _, column, same, only, rfl⟩ := stand
  cases same
  have title := (only column).mpr rfl
  refine standBelow_of_moved title (fun other => (only other).mp) (kept.imp fun row row' kept => ?_)
  exact kept column fun unlabelled => unlabelled label member title

theorem LayoutStep.standBelow (step : LayoutStep labels sheet sheet')
    (member : label ∈ labels.inOrder) (stand : StandBelow sheet label cells) :
    StandBelow sheet' label cells := by
  cases step with
  | reorder order narrow => exact stand.reorder order narrow
  | insert place unlabelled added => exact stand.insert unlabelled added member
  | delete place unlabelled => exact stand.delete unlabelled member
  | overwrite kept => exact stand.overwrite kept member

theorem standBelow_of_steps (steps : Relation.ReflTransGen (LayoutStep labels) sheet sheet')
    (member : label ∈ labels.inOrder) (stand : StandBelow sheet label cells) :
    StandBelow sheet' label cells := by
  induction steps with
  | refl => exact stand
  | tail _ step ih => exact step.standBelow member ih

end Steps

/-- The unit of three cells. -/
def unitOf (name code suffix : Cell) : Entry := ⟨name.text?.getD "", code.text?, suffix.text?⟩

theorem map_entryOf (columns : Columns) (rows : List Row) :
    rows.map (entryOf columns) = List.zipWith3 unitOf (rows.map (cellAt · columns.name))
      (rows.map (cellAt · columns.code)) (rows.map (cellAt · columns.suffix)) := by
  induction rows with
  | nil => rfl
  | cons row rest ih =>
    rw [List.map_cons, ih, entryOf, textAt?_eq, textAt?_eq, textAt?_eq]
    rfl

theorem isLastLabel_of_only (only : ∀ other, cellAt header other = .text label ↔ other = column) :
    IsLastLabel header label column where
  labelled := cellAt_eq_text_iff.mp ((only column).mpr rfl)
  last other stands := Nat.le_of_eq ((only other).mp (cellAt_eq_text_iff.mpr stands))

/-- What is read is decided by the cells below the labels. -/
theorem readUnits_of_standBelow {names codes suffixes : List Cell}
    (name : StandBelow sheet labels.name names) (code : StandBelow sheet labels.code codes)
    (suffix : StandBelow sheet labels.suffix suffixes) : ∃ columns,
      readUnits sheet labels = .ok (columns, List.zipWith3 unitOf names codes suffixes) := by
  obtain ⟨header, rows, first, rfl, only_name, rfl⟩ := name
  obtain ⟨_, _, second, same, only_code, rfl⟩ := code
  obtain ⟨_, _, third, same', only_suffix, rfl⟩ := suffix
  cases same
  cases same'
  have found : findColumns header labels = .ok ⟨first, second, third⟩ :=
    findColumns_of_areLastLabels ⟨isLastLabel_of_only only_name, isLastLabel_of_only only_code,
      isLastLabel_of_only only_suffix⟩
  refine ⟨⟨first, second, third⟩, readUnits_eq_ok_iff.mpr ⟨header, rows, rfl, found, ?_⟩⟩
  rw [map_entryOf]

theorem exists_standBelow (once : StandsOnce header label) (rows : List Row) :
    ∃ cells, StandBelow (header :: rows) label cells := by
  obtain ⟨column, stands, only⟩ := once
  refine ⟨_, header, rows, column, rfl, fun other => ?_, rfl⟩
  rw [cellAt_eq_text_iff]
  refine ⟨only other, ?_⟩
  rintro rfl
  exact stands

/-- The units of a sheet do not depend on its layout. -/
theorem readUnits_of_steps
    (once : ∀ label ∈ labels.inOrder, StandsOnce header label)
    (steps : Relation.ReflTransGen (LayoutStep labels) (header :: rows) sheet') :
    ∃ columns columns' entries, readUnits (header :: rows) labels = .ok (columns, entries) ∧
      readUnits sheet' labels = .ok (columns', entries) := by
  have name_member : labels.name ∈ labels.inOrder := by simp [Labels.inOrder]
  have code_member : labels.code ∈ labels.inOrder := by simp [Labels.inOrder]
  have suffix_member : labels.suffix ∈ labels.inOrder := by simp [Labels.inOrder]
  obtain ⟨names, name⟩ := exists_standBelow (once _ name_member) rows
  obtain ⟨codes, code⟩ := exists_standBelow (once _ code_member) rows
  obtain ⟨suffixes, suffix⟩ := exists_standBelow (once _ suffix_member) rows
  obtain ⟨columns, read⟩ := readUnits_of_standBelow name code suffix
  obtain ⟨columns', read'⟩ := readUnits_of_standBelow (standBelow_of_steps steps name_member name)
    (standBelow_of_steps steps code_member code) (standBelow_of_steps steps suffix_member suffix)
  exact ⟨columns, columns', _, read, read'⟩

end UnitCatalogue.Sheet

namespace UnitCatalogue

open Directory

/-- Some run is shown these rows, gives the report, and leaves the content at its output. -/
def Produces (configuration : Configuration) (sheet : List Sheet.Row) (report : Report)
    (content : Except Fault ByteArray) : Prop :=
  ∃ reader naming tree input output refusals,
    ShowsRows reader tree input configuration sheet ∧
    (generate reader naming tree input output configuration refusals).result = .ok report ∧
    (generate reader naming tree input output configuration refusals).tree.read
      (Path.ofText output) = content

/-- The report and the content are those of the units that the rows hold. -/
theorem Produces.eq {configuration : Configuration} {sheet : List Sheet.Row} {report : Report}
    {content : Except Fault ByteArray} {columns : Columns} {entries : List Entry}
    (produced : Produces configuration sheet report content)
    (read : Sheet.readUnits sheet configuration.columns = .ok (columns, entries)) :
    report = (render entries configuration.aliases).report ∧
      content = .ok (render entries configuration.aliases).text.toUTF8 := by
  obtain ⟨reader, naming, tree, input, output, refusals, shows, told, rfl⟩ := produced
  obtain ⟨columns', entries', after, reads, written⟩ := reads_and_written_of_report told
  have same : entries' = entries := by
    have both := (readSheet_of_reads reads).symm.trans (readSheet_of_shows shows)
    rw [read] at both
    cases both
    rfl
  subst same
  have leaves := Tree.leavesBehind_writeReplacing naming tree (Path.ofText output)
    (render entries' configuration.aliases).text.toUTF8 refusals
  rw [written] at leaves
  obtain ⟨place, receives⟩ := leaves
  rw [generate_of_written reads written] at told ⊢
  exact ⟨(Except.ok.inj told).symm, receives.read_eq⟩

/-- If each label stands once in the header, then changes of the layout, one after the other, have
no effect on the units: there is one for each row, with the texts below the labels. The rendering is
the same, and so are the reports of all runs on the two sheets and the modules that they leave. -/
theorem column_layout_irrelevant {labels : Labels} {header : Sheet.Row}
    {rows sheet' : List Sheet.Row}
    (once : ∀ label ∈ labels.inOrder, Sheet.StandsOnce header label)
    (relaid : Relation.ReflTransGen (Sheet.LayoutStep labels) (header :: rows) sheet') :
    (∃ columns columns' entries,
      Sheet.readUnits (header :: rows) labels = .ok (columns, entries) ∧
      Sheet.readUnits sheet' labels = .ok (columns', entries) ∧
      List.Forall₂ (Sheet.Shows columns) rows entries) ∧
    (∀ aliases, (Sheet.readUnits sheet' labels).map (fun read => render read.2 aliases) =
      (Sheet.readUnits (header :: rows) labels).map fun read => render read.2 aliases) ∧
    ∀ configuration : Configuration, configuration.columns = labels →
      ∀ report report' content content',
        Produces configuration (header :: rows) report content →
        Produces configuration sheet' report' content' →
          report' = report ∧ content' = content := by
  obtain ⟨columns, columns', entries, read, read'⟩ := Sheet.readUnits_of_steps once relaid
  refine ⟨⟨columns, columns', entries, read, read', ?_⟩, ?_, ?_⟩
  · obtain ⟨_, _, same, _, rfl⟩ := Sheet.readUnits_eq_ok_iff.mp read
    cases same
    exact Sheet.forall₂_shows columns _
  · intro aliases
    rw [read, read']
    rfl
  · rintro configuration rfl report report' content content' produced produced'
    obtain ⟨rfl, rfl⟩ := produced.eq read
    exact produced'.eq read'

/-- A column is taken out, one is put in, their order is changed, and a cell is overwritten. -/
theorem metre_sheet_relaid :
    let sheet : List Sheet.Row :=
      [[.text "Status", .text "Name", .text "Common\nCode", .text "Symbol"],
        [.empty, .text "metre", .text "MTR", .text "m"], [.text "X", .text "gram"]]
    let sheet' : List Sheet.Row :=
      [[.text "Symbol", .text "Remark", .text "Common\nCode", .text "Name"],
        [.text "m", .truth true, .text "MTR", .text "metre"],
        [.empty, .integer 1, .empty, .text "gram"]]
    let units : List Entry := [⟨"metre", some "MTR", some "m"⟩, ⟨"gram", none, none⟩]
    (∃ columns, Sheet.readUnits sheet {} = .ok (columns, units)) ∧
      ∃ columns, Sheet.readUnits sheet' {} = .ok (columns, units) := by
  intro sheet sheet' units
  have once : ∀ label ∈ Labels.inOrder {}, Sheet.StandsOnce
      [.text "Status", .text "Name", .text "Common\nCode", .text "Symbol"] label := by
    simp only [Labels.inOrder, List.forall_mem_cons]
    refine ⟨⟨1, rfl, ?_⟩, ⟨2, rfl, ?_⟩, ⟨3, rfl, ?_⟩, fun _ none => by cases none⟩
    all_goals
      rintro column stands
      rcases column with _ | _ | _ | _ | column
      all_goals simp at stands ⊢
  let plain : List Sheet.Row := [[.text "Name", .text "Common\nCode", .text "Symbol"],
    [.text "metre", .text "MTR", .text "m"], [.text "gram"]]
  let wide : List Sheet.Row :=
    [[.text "Name", .text "Remark", .text "Common\nCode", .text "Symbol"],
      [.text "metre", .truth true, .text "MTR", .text "m"], [.text "gram", .empty]]
  have taken_out : Sheet.LayoutStep {} sheet plain := .delete 0 (by decide +kernel)
  have put_in : Sheet.LayoutStep {} plain wide :=
    .insert 1 (by decide +kernel) (.cons ⟨.truth true, rfl⟩ (.cons ⟨.empty, rfl⟩ .nil))
  have swapped : Sheet.LayoutStep {} wide (wide.map (Sheet.reordered (Equiv.swap (0 : Fin 4) 3))) :=
    .reorder _ (by decide +kernel)
  have overwritten : Sheet.LayoutStep {}
      (wide.map (Sheet.reordered (Equiv.swap (0 : Fin 4) 3))) sheet' := by
    refine .overwrite (.cons (fun _ _ => rfl) (.cons ?_ .nil))
    intro column labelled
    rcases column with _ | _ | _ | _ | column
    · rfl
    · exact absurd (by decide +kernel) labelled
    · rfl
    · rfl
    · rfl
  have relaid := (((Relation.ReflTransGen.single taken_out).tail put_in).tail swapped).tail
    overwritten
  obtain ⟨⟨columns, columns', entries, read, read', _⟩, _⟩ := column_layout_irrelevant once relaid
  have known : Sheet.readUnits sheet {} = .ok (⟨1, 2, 3⟩, units) := rfl
  obtain ⟨rfl, rfl⟩ := Prod.mk.inj (Except.ok.inj (known.symm.trans read))
  exact ⟨⟨_, known⟩, columns', read'⟩

end UnitCatalogue

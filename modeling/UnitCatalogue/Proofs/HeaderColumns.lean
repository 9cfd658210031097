import UnitCatalogue.Proofs.SheetReading

/-!
# The columns of a header

A label stands at the last text cell that equals it, and cells of other kinds count for nothing. A
reader opens exactly when all three labels are in the header; otherwise the first one that is not is
told, and a source without rows has no header.
-/

namespace UnitCatalogue

/-- The labels in the order in which they are looked for. -/
def Labels.inOrder (labels : Labels) : List String := [labels.name, labels.code, labels.suffix]

namespace Sheet

variable {header : Row} {label : String} {labels : Labels} {column : Nat} {columns : Columns}

structure IsLastLabel (header : Row) (label : String) (column : Nat) : Prop where
  labelled : header[column]? = some (.text label)
  last : ∀ other, header[other]? = some (.text label) → other ≤ column

theorem IsLastLabel.lt_length (last : IsLastLabel header label column) :
    column < header.length := (List.getElem?_eq_some_iff.mp last.labelled).1

theorem IsLastLabel.mem (last : IsLastLabel header label column) : Cell.text label ∈ header :=
  List.mem_of_getElem? last.labelled

/-- The columns of the three labels. -/
structure AreLastLabels (header : Row) (labels : Labels) (columns : Columns) : Prop where
  name : IsLastLabel header labels.name columns.name
  code : IsLastLabel header labels.code columns.code
  suffix : IsLastLabel header labels.suffix columns.suffix

/-- The label is the first one that the header lacks. -/
def IsFirstMissing (header : Row) (labels : Labels) (label : String) : Prop :=
  ∃ present later, labels.inOrder = present ++ label :: later ∧
    (∀ other ∈ present, Cell.text other ∈ header) ∧ Cell.text label ∉ header

/-- The two headers have the same text cells. -/
def SameTexts (header header' : Row) : Prop :=
  ∀ (column : Nat) (label : String),
    header'[column]? = some (.text label) ↔ header[column]? = some (.text label)

theorem last_of_lastIndex? {α : Type} {test : α → Bool} {list : List α} {index : Nat}
    (found : lastIndex? test list = some index) :
    (∃ a, list[index]? = some a ∧ test a = true) ∧
      ∀ other a, list[other]? = some a → test a = true → other ≤ index := by
  induction list generalizing index with
  | nil => cases found
  | cons first rest ih =>
    rw [lastIndex?] at found
    cases inner : lastIndex? test rest with
    | some deeper =>
      rw [inner] at found
      obtain rfl : deeper + 1 = index := Option.some.inj found
      obtain ⟨⟨a, stands, holds⟩, last⟩ := ih inner
      refine ⟨⟨a, stands, holds⟩, ?_⟩
      intro other b stands' holds'
      cases other with
      | zero => exact Nat.zero_le _
      | succ other => exact Nat.succ_le_succ (last other b stands' holds')
    | none =>
      -- No cell behind the first passes the test, so the first one does.
      have fails := lastIndex?_eq_none_iff.mp inner
      rw [inner] at found
      cases holds : test first with
      | false => simp [holds] at found
      | true =>
        obtain rfl : 0 = index := by simpa [holds] using found
        refine ⟨⟨first, rfl, holds⟩, ?_⟩
        intro other b stands' holds'
        cases other with
        | zero => exact Nat.le_refl _
        | succ other =>
          have behind := fails b (List.mem_of_getElem? stands')
          rw [behind] at holds'
          cases holds'

theorem isLastLabel_of_findColumn (found : findColumn header label = .ok column) :
    IsLastLabel header label column := by
  rw [findColumn] at found
  cases index : lastIndex? (Cell.isLabel label) header with
  | none =>
    rw [index] at found
    cases found
  | some last =>
    rw [index] at found
    obtain rfl : last = column := Except.ok.inj found
    obtain ⟨⟨cell, stands, holds⟩, largest⟩ := last_of_lastIndex? index
    refine ⟨?_, fun other stands' => largest other _ stands' (Cell.isLabel_iff.mpr rfl)⟩
    rw [stands, Cell.isLabel_iff.mp holds]

theorem findColumn_eq_ok_iff :
    findColumn header label = .ok column ↔ IsLastLabel header label column := by
  refine ⟨isLastLabel_of_findColumn, fun last => ?_⟩
  obtain ⟨found, is_found⟩ := exists_findColumn last.mem
  have last' := isLastLabel_of_findColumn is_found
  rw [is_found, Nat.le_antisymm (last.last found last'.labelled) (last'.last column last.labelled)]

theorem findColumns_of_areLastLabels (last : AreLastLabels header labels columns) :
    findColumns header labels = .ok columns := by
  rw [findColumns, findColumn_eq_ok_iff.mpr last.name, findColumn_eq_ok_iff.mpr last.code,
    findColumn_eq_ok_iff.mpr last.suffix]
  rfl

theorem findColumns_of_isFirstMissing (missing : IsFirstMissing header labels label) :
    findColumns header labels = .error (.columnMissing label) := by
  obtain ⟨present, later, split, earlier, absent⟩ := missing
  have first : labels.inOrder.find? (Cell.text · ∉ header) = some label := by
    rw [List.find?_eq_some_iff_append]
    refine ⟨by simpa using absent, present, later, split, fun other member => ?_⟩
    simpa using earlier other member
  have decided := findColumns_cases header labels
  rw [Labels.inOrder] at first
  rw [first] at decided
  exact decided

theorem exists_areLastLabels_iff : (∃ columns, AreLastLabels header labels columns) ↔
    ∀ label ∈ labels.inOrder, Cell.text label ∈ header := by
  simp only [Labels.inOrder, List.forall_mem_cons, List.not_mem_nil, false_imp_iff,
    implies_true, and_true]
  constructor
  · rintro ⟨columns, name, code, suffix⟩
    exact ⟨name.mem, code.mem, suffix.mem⟩
  · rintro ⟨name, code, suffix⟩
    obtain ⟨first, is_name⟩ := exists_findColumn name
    obtain ⟨second, is_code⟩ := exists_findColumn code
    obtain ⟨third, is_suffix⟩ := exists_findColumn suffix
    exact ⟨⟨first, second, third⟩, isLastLabel_of_findColumn is_name,
      isLastLabel_of_findColumn is_code, isLastLabel_of_findColumn is_suffix⟩

/-- Every label has a last cell, or one of them is the first to have none. -/
theorem areLastLabels_or_isFirstMissing (header : Row) (labels : Labels) :
    (∃ columns, AreLastLabels header labels columns) ∨
      ∃ label, IsFirstMissing header labels label := by
  cases first : labels.inOrder.find? (Cell.text · ∉ header) with
  | some label =>
    obtain ⟨absent, present, later, split, earlier⟩ := List.find?_eq_some_iff_append.mp first
    refine Or.inr ⟨label, present, later, split, fun other member => ?_, by simpa using absent⟩
    simpa using earlier other member
  | none =>
    refine Or.inl (exists_areLastLabels_iff.mpr fun label member => ?_)
    simpa using List.find?_eq_none.mp first label member

theorem findColumns_eq_ok_iff :
    findColumns header labels = .ok columns ↔ AreLastLabels header labels columns := by
  refine ⟨fun found => ?_, findColumns_of_areLastLabels⟩
  obtain ⟨columns', last⟩ | ⟨label, missing⟩ := areLastLabels_or_isFirstMissing header labels
  · rw [findColumns_of_areLastLabels last] at found
    obtain rfl := Except.ok.inj found
    exact last
  · rw [findColumns_of_isFirstMissing missing] at found
    cases found

theorem findColumns_eq_error_iff {failure : Failure} : findColumns header labels = .error failure ↔
    ∃ label, IsFirstMissing header labels label ∧ failure = .columnMissing label := by
  constructor
  · intro failed
    obtain ⟨columns, last⟩ | ⟨label, missing⟩ := areLastLabels_or_isFirstMissing header labels
    · rw [findColumns_of_areLastLabels last] at failed
      cases failed
    · rw [findColumns_of_isFirstMissing missing] at failed
      exact ⟨label, missing, (Except.error.inj failed).symm⟩
  · rintro ⟨label, missing, rfl⟩
    exact findColumns_of_isFirstMissing missing

section Opened

variable {rows : List Row} {taken : Nat}

theorem start_eq_ok_iff {reader : UnitReader} :
    (UnitReader.start ⟨header :: rows, taken⟩ labels).1 = .ok reader ↔
      AreLastLabels header labels reader.columns ∧ reader.source = ⟨rows, taken + 1⟩ := by
  rw [UnitReader.start_cons, ← findColumns_eq_ok_iff]
  obtain ⟨columns, source⟩ := reader
  cases findColumns header labels with
  | error failure => simp [Except.map]
  | ok found => simp [Except.map, eq_comm]

theorem start_eq_error_iff {failure : Failure} :
    (UnitReader.start ⟨header :: rows, taken⟩ labels).1 = .error failure ↔
      ∃ label, IsFirstMissing header labels label ∧ failure = .columnMissing label := by
  rw [UnitReader.start_cons, ← findColumns_eq_error_iff]
  cases findColumns header labels with
  | error told => simp [Except.map]
  | ok found => simp [Except.map]

end Opened

section SameTexts

variable {header' : Row} (same : SameTexts header header')

include same

theorem SameTexts.mem_iff : Cell.text label ∈ header' ↔ Cell.text label ∈ header := by
  rw [List.mem_iff_getElem?, List.mem_iff_getElem?]
  exact exists_congr fun column => same column label

theorem SameTexts.isLastLabel (last : IsLastLabel header label column) :
    IsLastLabel header' label column where
  labelled := (same column label).mpr last.labelled
  last other stands := last.last other ((same other label).mp stands)

theorem SameTexts.findColumns_eq : findColumns header' labels = findColumns header labels := by
  obtain ⟨columns, name, code, suffix⟩ | ⟨label, present, later, split, earlier, absent⟩ :=
    areLastLabels_or_isFirstMissing header labels
  · rw [findColumns_of_areLastLabels ⟨name, code, suffix⟩]
    exact findColumns_of_areLastLabels
      ⟨same.isLastLabel name, same.isLastLabel code, same.isLastLabel suffix⟩
  · rw [findColumns_of_isFirstMissing ⟨present, later, split, earlier, absent⟩]
    refine findColumns_of_isFirstMissing ⟨present, later, split, fun other member => ?_, ?_⟩
    · exact same.mem_iff.mpr (earlier other member)
    · exact fun stands => absent (same.mem_iff.mp stands)

end SameTexts

/-- A reader opens exactly when the header has a text cell for every label. Each column is then the
last one of its label, and lies inside the header. Otherwise the first missing label is told, and a
missing header exactly if there are no rows. Cells that are no texts make no difference. -/
theorem header_resolved_exactly (source : RowSource) (labels : Labels) :
    let opened := (UnitReader.start source labels).1
    (opened = .error .noHeader ↔ source.rest = []) ∧
    ∀ header rows, source.rest = header :: rows →
      ((∃ reader, opened = .ok reader) ↔ ∀ label ∈ labels.inOrder, Cell.text label ∈ header) ∧
      (∀ columns, (∃ reader, opened = .ok reader ∧ reader.columns = columns) ↔
        AreLastLabels header labels columns) ∧
      (∀ reader, opened = .ok reader → ∀ column ∈
        [reader.columns.name, reader.columns.code, reader.columns.suffix],
          column < header.length) ∧
      (∀ failure, opened = .error failure ↔
        ∃ label, IsFirstMissing header labels label ∧ failure = .columnMissing label) ∧
      ∀ header', SameTexts header header' →
        (UnitReader.start ⟨header' :: rows, source.taken⟩ labels).1 = opened := by
  obtain ⟨rest, taken⟩ := source
  intro opened
  cases rest with
  | nil =>
    refine ⟨iff_of_true rfl rfl, ?_⟩
    intro header rows rest
    cases rest
  | cons header rows =>
    have has_header : opened ≠ .error .noHeader := by
      intro failed
      obtain ⟨label, _, other⟩ := start_eq_error_iff.mp failed
      cases other
    refine ⟨iff_of_false has_header (List.cons_ne_nil _ _), ?_⟩
    intro _ _ split
    cases split
    refine ⟨?_, fun columns => ?_, ?_, fun failure => start_eq_error_iff, ?_⟩
    · rw [← exists_areLastLabels_iff]
      constructor
      · rintro ⟨reader, ready⟩
        exact ⟨reader.columns, (start_eq_ok_iff.mp ready).1⟩
      · rintro ⟨columns, last⟩
        exact ⟨⟨columns, ⟨rows, taken + 1⟩⟩, start_eq_ok_iff.mpr ⟨last, rfl⟩⟩
    · constructor
      · rintro ⟨reader, ready, rfl⟩
        exact (start_eq_ok_iff.mp ready).1
      · intro last
        exact ⟨⟨columns, ⟨rows, taken + 1⟩⟩, start_eq_ok_iff.mpr ⟨last, rfl⟩, rfl⟩
    · intro reader ready
      obtain ⟨name, code, suffix⟩ := (start_eq_ok_iff.mp ready).1
      simp only [List.forall_mem_cons, List.not_mem_nil, false_imp_iff, implies_true, and_true]
      exact ⟨name.lt_length, code.lt_length, suffix.lt_length⟩
    · intro header' same
      rw [UnitReader.start_cons, same.findColumns_eq]
      rfl

/-- Cells that are displayed like a label are still no label. -/
example : findColumns [.text "Name", .integer 7, .number ⟨0x401C000000000000⟩, .momentText "7"]
    ⟨"Name", "7", "8"⟩ = .error (.columnMissing "7") := rfl

end Sheet

end UnitCatalogue

import UnitCatalogue.Proofs.FirstOccurrence
import UnitCatalogue.Proofs.ModuleItems

/-!
# The log of a rendering

Every row is counted once, under what became of it, and every row that is not added leaves one
record in the log, in row order; the aliases that are not kept follow in the order of the
configuration. The counts of the report are therefore those of the log and of the text.
-/

namespace UnitCatalogue

/-- An event as the log shows it. -/
structure LogRecord where
  level : Level
  message : String
  fields : List (String × String)
deriving DecidableEq

def Event.record (event : Event) : LogRecord := ⟨event.level, event.message, event.fields⟩

/-- The record of a row at an index of the input. The header is row one. -/
def rowRecord? (outcome : Outcome) (entry : Entry) (index : Nat) : Option LogRecord :=
  match outcome with
  | .added _ => none
  | .blank => some ⟨.debug, "skipping row without a name", [("row", toString (index + 2))]⟩
  | .unusable _ =>
    some ⟨.warn, "unit name has no usable identifier, skipping", [("name", entry.name)]⟩
  | .duplicate identifier kept =>
    some ⟨.warn, "duplicate unit identifier, keeping first occurrence",
      [("identifier", identifier), ("kept", kept), ("dropped", entry.name)]⟩

def aliasRecord? (verdict : Verdict) (a : Alias) : Option LogRecord :=
  match verdict with
  | .kept => none
  | .targetMissing =>
    some ⟨.warn, "alias target not generated, skipping", [("alias", a.name), ("target", a.target)]⟩
  | .nameTaken => some ⟨.warn, "alias name already in use, skipping", [("alias", a.name)]⟩

/-- Here the outcome is an answer to the row, so that `unusable` carries the name of the row. -/
theorem record_rowEvent (c : Catalogue) (entry : Entry) (index : Nat) :
    ((c.outcome entry).event? entry index).map Event.record =
      rowRecord? (c.outcome entry) entry index := by
  cases answer : c.outcome entry with
  | added identifier => rfl
  | duplicate identifier kept => rfl
  | blank => rfl
  | unusable name =>
    obtain ⟨rfl, _⟩ := (c.outcome_eq_unusable_iff entry name).mp answer
    rfl

theorem records_rowEvents (c : Catalogue) (index : Nat) (entries : List Entry) :
    (rowEvents index (c.outcomes entries) entries).map Event.record =
      (((c.outcomes entries).zip entries).zipIdx index).filterMap
        fun ((outcome, entry), index) => rowRecord? outcome entry index := by
  induction entries generalizing c index with
  | nil => rfl
  | cons entry rest ih =>
    have head := record_rowEvent c entry index
    rw [Catalogue.outcomes, rowEvents, List.map_append, ih, List.zip_cons_cons, List.zipIdx_cons]
    simp only [List.filterMap_cons, ← head]
    cases (c.outcome entry).event? entry index with
    | none => rfl
    | some told => rfl

/-- The events of a kind are as many as the outcomes that they belong to. -/
theorem countP_rowEvents {told : Event → Bool} {told_of : Outcome → Bool}
    (agree : ∀ outcome entry index, (outcome.event? entry index).any told = told_of outcome)
    (index : Nat) {outcomes : List Outcome} {entries : List Entry}
    (same : outcomes.length = entries.length) :
    (rowEvents index outcomes entries).countP told = outcomes.countP told_of := by
  induction outcomes generalizing index entries with
  | nil => simp [rowEvents]
  | cons outcome outcomes ih =>
    cases entries with
    | nil => cases same
    | cons entry entries =>
      have head := agree outcome entry index
      have later := ih (index + 1) (Nat.succ.inj same)
      rw [rowEvents, List.countP_append, later, List.countP_cons, ← head]
      cases outcome.event? entry index with
      | none => simp
      | some event => simp [List.countP_cons, Nat.add_comm]

theorem rowEvents_append (index : Nat) {outcomes later : List Outcome}
    {entries after : List Entry} (same : outcomes.length = entries.length) :
    rowEvents index (outcomes ++ later) (entries ++ after) =
      rowEvents index outcomes entries ++ rowEvents (index + entries.length) later after := by
  induction outcomes generalizing index entries with
  | nil =>
    obtain rfl := List.eq_nil_of_length_eq_zero same.symm
    simp [rowEvents]
  | cons outcome outcomes ih =>
    cases entries with
    | nil => cases same
    | cons entry entries =>
      have shift : index + 1 + entries.length = index + (entries.length + 1) := by omega
      simp only [List.cons_append, rowEvents, ih (index + 1) (Nat.succ.inj same),
        List.append_assoc, List.length_cons, shift]

/-- The event of a row comes right after the events of the rows before it. -/
theorem events_render_at {before : List Entry} {entry : Entry} {event : Event}
    (told : ((Catalogue.addAll {} before).outcome entry).event? entry before.length = some event)
    (after : List Entry) (aliases : List Alias) :
    ∃ later, (render (before ++ entry :: after) aliases).events =
      rowEvents 0 (Catalogue.outcomes {} before) before ++ event :: later := by
  let rest := ((Catalogue.addAll {} before).add entry).outcomes after
  let verdicts := (Catalogue.addAll {} (before ++ entry :: after)).verdicts [] aliases
  refine ⟨rowEvents (before.length + 1) rest after ++ aliasEvents verdicts, ?_⟩
  have same := Catalogue.length_outcomes {} before
  rw [render, Catalogue.outcomes_append, rowEvents_append 0 same, Catalogue.outcomes, rowEvents,
    Nat.zero_add, told]
  simp [rest, verdicts]

theorem record_aliasEvent (verdict : Verdict) (a : Alias) :
    (verdict.event? a).map Event.record = aliasRecord? verdict a := by
  cases verdict <;> rfl

theorem records_aliasEvents (verdicts : List (Alias × Verdict)) :
    (aliasEvents verdicts).map Event.record =
      verdicts.filterMap fun (a, verdict) => aliasRecord? verdict a := by
  simp only [aliasEvents, List.map_filterMap, record_aliasEvent]

theorem aliases_verdicts (c : Catalogue) (earlier : List String) (aliases : List Alias) :
    (c.verdicts earlier aliases).map Prod.fst = aliases := by
  induction aliases generalizing earlier with
  | nil => rfl
  | cons a rest ih =>
    rw [Catalogue.verdicts]
    cases c.judge earlier a with
    | kept => rw [List.map_cons, ih]
    | targetMissing => rw [List.map_cons, ih]
    | nameTaken => rw [List.map_cons, ih]

theorem countP_aliasEvents {told : Event → Bool} {told_of : Verdict → Bool}
    (agree : ∀ (verdict : Verdict) a, (verdict.event? a).any told = told_of verdict)
    (verdicts : List (Alias × Verdict)) :
    (aliasEvents verdicts).countP told = verdicts.countP fun pair => told_of pair.2 := by
  rw [aliasEvents, List.countP_filterMap]
  refine List.countP_congr ?_
  rintro ⟨a, verdict⟩ _
  rw [← agree verdict a]
  cases event : verdict.event? a <;> simp [event]

/-- A kind that depends on the row alone is counted over the rows, whatever the catalogue. -/
theorem Catalogue.countP_outcomes {kind : Outcome → Bool} {of_row : Entry → Bool}
    (agree : ∀ (c : Catalogue) entry, kind (c.outcome entry) = of_row entry) (c : Catalogue)
    (entries : List Entry) : (c.outcomes entries).countP kind = entries.countP of_row := by
  induction entries generalizing c with
  | nil => rfl
  | cons entry rest ih => rw [outcomes, List.countP_cons, List.countP_cons, ih, agree]

/-- Every outcome is of one of the four kinds, and of no other. -/
theorem countP_kinds (outcomes : List Outcome) :
    outcomes.countP Outcome.isAdded + outcomes.countP Outcome.isDuplicate +
      outcomes.countP Outcome.isBlank + outcomes.countP Outcome.isUnusable = outcomes.length := by
  induction outcomes with
  | nil => rfl
  | cons outcome rest ih =>
    have one : ((if outcome.isAdded then 1 else 0) + (if outcome.isDuplicate then 1 else 0) +
        (if outcome.isBlank then 1 else 0) + if outcome.isUnusable then 1 else 0) = 1 := by
      cases outcome <;> rfl
    simp only [List.countP_cons, List.length_cons]
    omega

theorem length_keptOf {outcomes : List Outcome} {entries : List Entry}
    (same : outcomes.length = entries.length) :
    (keptOf outcomes entries).length = outcomes.countP Outcome.isAdded := by
  induction outcomes generalizing entries with
  | nil => rfl
  | cons outcome outcomes ih =>
    cases entries with
    | nil => cases same
    | cons entry entries =>
      have later := ih (Nat.succ.inj same)
      cases outcome with
      | added identifier =>
        rw [keptOf, List.length_cons, later, List.countP_cons_of_pos rfl]
      | duplicate _ _ => simpa [keptOf, Outcome.isAdded] using later
      | blank => simpa [keptOf, Outcome.isAdded] using later
      | unusable _ => simpa [keptOf, Outcome.isAdded] using later

theorem length_keptRows (entries : List Entry) (aliases : List Alias) :
    (keptRows entries).length = (render entries aliases).report.units :=
  length_keptOf (Catalogue.length_outcomes {} entries)

theorem countP_events {told : Event → Bool} {of_row : Outcome → Bool} {of_alias : Verdict → Bool}
    (rows : ∀ outcome entry index, (outcome.event? entry index).any told = of_row outcome)
    (names : ∀ (verdict : Verdict) a, (verdict.event? a).any told = of_alias verdict)
    (entries : List Entry) (aliases : List Alias) :
    (render entries aliases).events.countP told =
      (Catalogue.outcomes {} entries).countP of_row +
        ((Catalogue.addAll {} entries).verdicts [] aliases).countP fun pair => of_alias pair.2 := by
  have same := Catalogue.length_outcomes {} entries
  rw [render, List.countP_append, countP_rowEvents rows 0 same, countP_aliasEvents names]

/-- The messages of aliases that are not kept. -/
def aliasMessages : List String :=
  ["alias target not generated, skipping", "alias name already in use, skipping"]

theorem message_aliasEvent {verdict : Verdict} {a : Alias} {event : Event}
    (told : verdict.event? a = some event) : event.message ∈ aliasMessages := by
  cases verdict with
  | kept => cases told
  | targetMissing =>
    obtain rfl := Option.some.inj told
    exact List.mem_cons_self
  | nameTaken =>
    obtain rfl := Option.some.inj told
    exact List.mem_cons_of_mem _ List.mem_cons_self

/-- The events with a message that only the rows of one kind have. -/
theorem countP_row_message {message : String} {of_row : Outcome → Bool}
    (rows : ∀ outcome entry index,
      (outcome.event? entry index).any (·.message == message) = of_row outcome)
    (other : message ∉ aliasMessages) (entries : List Entry) (aliases : List Alias) :
    (render entries aliases).events.countP (·.message == message) =
      (Catalogue.outcomes {} entries).countP of_row := by
  have names : ∀ (verdict : Verdict) a,
      (verdict.event? a).any (·.message == message) = false := by
    intro verdict a
    cases event : verdict.event? a with
    | none => rfl
    | some told =>
      refine beq_eq_false_iff_ne.mpr ?_
      rintro rfl
      exact other (message_aliasEvent event)
  rw [countP_events rows names, List.countP_false, Function.const_apply, Nat.add_zero]

theorem countP_aliases (entries : List Entry) (aliases : List Alias) :
    (render entries aliases).report.aliases +
      (render entries aliases).events.countP (aliasMessages.contains ·.message) =
        aliases.length := by
  let verdicts := (Catalogue.addAll {} entries).verdicts [] aliases
  have rows : ∀ (outcome : Outcome) entry index,
      (outcome.event? entry index).any (aliasMessages.contains ·.message) = false := by
    intro outcome entry index
    cases outcome <;> simp [Outcome.event?, aliasMessages, Event.message]
  have names : ∀ (verdict : Verdict) a,
      (verdict.event? a).any (aliasMessages.contains ·.message) = !(verdict == .kept) := by
    intro verdict a
    cases verdict <;> simp [Verdict.event?, aliasMessages, Event.message]
  have kept : (render entries aliases).report.aliases = verdicts.countP (·.2 == .kept) := by
    rw [List.countP_eq_length_filter, ← List.length_map Prod.fst]
    rfl
  have all : verdicts.length = aliases.length := by
    rw [← List.length_map Prod.fst, aliases_verdicts]
  have split := List.length_eq_countP_add_countP (l := verdicts) (·.2 == .kept)
  simp only [decide_not, Bool.decide_eq_true] at split
  rw [countP_events rows names, List.countP_false, Function.const_apply, Nat.zero_add, kept, ← all]
  exact split.symm

/-- The counts of a report are those of the rows, of the text and of the log, and the log tells what
became of each row that was not added, and then of each alias that was not kept. If the kept aliases
have legal names, then the items that the text declares are as many as the report counts. -/
theorem nothing_lost_without_trace (entries : List Entry) (aliases : List Alias) :
    let rendering := render entries aliases
    let report := rendering.report
    let outcomes := Catalogue.outcomes {} entries
    let verdicts := (Catalogue.addAll {} entries).verdicts [] aliases
    let kept := (verdicts.filter (·.2 == .kept)).map Prod.fst
    let told := fun message => rendering.events.countP (·.message == message)
    outcomes.length = entries.length ∧ verdicts.map Prod.fst = aliases ∧
    report.units + report.duplicates + report.blankRows + report.unusableRows = entries.length ∧
    (constantLines rendering.text).take sentinels.length = sentinels.map Declared.line ∧
    ((constantLines rendering.text).drop sentinels.length).length = report.units ∧
    (arrayLines rendering.text).length = report.units + sentinels.length ∧
    rendering.text = lines (unitPart rendering.text ++ [arrayEnd]) ++
      (lines (aliasLines kept) ++ closing) ∧
    report.aliases = kept.length ∧
    (∀ letters, (∀ a ∈ kept, IsLegalName letters a.name) →
      let names := (textLines rendering.text).filterMap itemName?
      names = itemNames ((sentinels ++ keptRows entries).map Declared.identifier)
        (kept.map Alias.name) ∧
      names.length = sentinels.length + report.units + report.aliases +
        (reservedIdentifiers ++ ["unit"]).length) ∧
    rendering.events.map Event.record =
      ((outcomes.zip entries).zipIdx.filterMap
        fun ((outcome, entry), index) => rowRecord? outcome entry index) ++
      verdicts.filterMap (fun (a, verdict) => aliasRecord? verdict a) ∧
    told "skipping row without a name" = report.blankRows ∧
    told "unit name has no usable identifier, skipping" = report.unusableRows ∧
    told "duplicate unit identifier, keeping first occurrence" = report.duplicates ∧
    report.aliases + rendering.events.countP (aliasMessages.contains ·.message) =
      aliases.length := by
  intro rendering report outcomes verdicts kept told
  have units : (keptRows entries).length = report.units := length_keptRows entries aliases
  have same : outcomes.length = entries.length := Catalogue.length_outcomes {} entries
  refine ⟨same, aliases_verdicts _ _ _, (countP_kinds outcomes).trans same, ?_, ?_, ?_, ?_, ?_, ?_,
    ?_, ?_, ?_, ?_, countP_aliases entries aliases⟩
  · rw [constantLines_render, List.map_append, List.take_left' (List.length_map _)]
  · rw [constantLines_render, List.map_append, List.drop_left' (List.length_map _),
      List.length_map, units]
  · rw [arrayLines_render, List.length_map, List.length_append, units, Nat.add_comm]
  · rw [unitPart_render, text_render, aliasSection_eq]
    rfl
  · rfl
  · intro letters legal
    obtain ⟨_, named⟩ := textLines_render_of_legal legal
    refine ⟨named, ?_⟩
    have count_kept : ((Catalogue.addAll {} entries).keptAliases aliases).length =
        report.aliases := rfl
    rw [named, (itemNames_perm _ _).length_eq, ← units, ← count_kept]
    simp only [List.length_append, List.length_map]
    omega
  · rw [show rendering.events = rowEvents 0 outcomes entries ++ aliasEvents verdicts from rfl,
      List.map_append, records_rowEvents, records_aliasEvents]
  · refine countP_row_message ?_ (by decide) entries aliases
    intro outcome entry index
    cases outcome <;> simp [Outcome.event?, Event.message, Outcome.isBlank]
  · refine countP_row_message ?_ (by decide) entries aliases
    intro outcome entry index
    cases outcome <;> simp [Outcome.event?, Event.message, Outcome.isUnusable]
  · refine countP_row_message ?_ (by decide) entries aliases
    intro outcome entry index
    cases outcome <;> simp [Outcome.event?, Event.message, Outcome.isDuplicate]

end UnitCatalogue

import UnitCatalogue.Proofs.RenderingLog

/-!
# Rows left out

A row that is not added leaves the catalogue as it is, so that the rows behind it get the answers
that they would get without it. Any of these rows can be left out, wherever they stand: the module
stays the same, and each count falls by the number of rows of its kind that were left out.
-/

namespace UnitCatalogue

variable {α : Type}

/-- The list without what stands at the marked positions, counted from zero. -/
def leaveOut (marked : Nat → Bool) : List α → List α
  | [] => []
  | x :: rest =>
    if marked 0 then leaveOut (fun index => marked (index + 1)) rest
    else x :: leaveOut (fun index => marked (index + 1)) rest

/-- What stands at the marked positions. -/
def pickOut (marked : Nat → Bool) : List α → List α := leaveOut fun index => !marked index

/-- No row at a marked position is added. -/
def MarksDropped (c : Catalogue) (marked : Nat → Bool) (entries : List Entry) : Prop :=
  ∀ index, marked index = true → (c.outcomes entries)[index]?.any Outcome.isAdded = false

theorem countP_leaveOut (kind : α → Bool) (marked : Nat → Bool) (xs : List α) :
    (leaveOut marked xs).countP kind + (pickOut marked xs).countP kind = xs.countP kind := by
  induction xs generalizing marked with
  | nil => rfl
  | cons x rest ih =>
    have later := ih fun index => marked (index + 1)
    rw [pickOut] at later ⊢
    cases first : marked 0 with
    | true =>
      simp only [leaveOut, first, Bool.not_true, if_true, Bool.false_eq_true, if_false,
        List.countP_cons]
      omega
    | false =>
      simp only [leaveOut, first, Bool.not_false, if_true, Bool.false_eq_true, if_false,
        List.countP_cons]
      omega

theorem exists_marked_of_mem_pickOut {marked : Nat → Bool} {xs : List α} {x : α}
    (picked : x ∈ pickOut marked xs) : ∃ index, marked index = true ∧ xs[index]? = some x := by
  induction xs generalizing marked with
  | nil => cases picked
  | cons y rest ih =>
    have later : x ∈ pickOut (fun index => marked (index + 1)) rest →
        ∃ index, marked index = true ∧ (y :: rest)[index]? = some x := by
      intro further
      obtain ⟨index, mark, stands⟩ := ih further
      exact ⟨index + 1, mark, by rwa [List.getElem?_cons_succ]⟩
    cases first : marked 0 with
    | true =>
      simp only [pickOut, leaveOut, first, Bool.not_true, Bool.false_eq_true, if_false,
        List.mem_cons] at picked
      rcases picked with rfl | further
      · exact ⟨0, first, rfl⟩
      · exact later further
    | false =>
      simp only [pickOut, leaveOut, first, Bool.not_false, if_true] at picked
      exact later picked

/-- To leave out what fails a test is to keep what passes it. -/
theorem leaveOut_failing (test : α → Bool) (xs : List α) :
    leaveOut (fun index => !xs[index]?.any test) xs = xs.filter test := by
  induction xs with
  | nil => rfl
  | cons x rest ih =>
    cases passes : test x <;> simp [leaveOut, passes, ih]

theorem leaveOut_not_added {outcomes : List Outcome} {entries : List Entry}
    (same : outcomes.length = entries.length) :
    leaveOut (fun index => !outcomes[index]?.any Outcome.isAdded) entries =
      (keptOf outcomes entries).map Declared.entry := by
  induction outcomes generalizing entries with
  | nil =>
    obtain rfl := List.eq_nil_of_length_eq_zero same.symm
    rfl
  | cons outcome outcomes ih =>
    cases entries with
    | nil => cases same
    | cons entry entries =>
      have later := ih (Nat.succ.inj same)
      cases outcome with
      | added identifier => simpa [leaveOut, keptOf, Outcome.isAdded] using later
      | duplicate _ _ => simpa [leaveOut, keptOf, Outcome.isAdded] using later
      | blank => simpa [leaveOut, keptOf, Outcome.isAdded] using later
      | unusable _ => simpa [leaveOut, keptOf, Outcome.isAdded] using later

theorem Outcome.isAdded_eq_false_iff {outcome : Outcome} :
    outcome.isAdded = false ↔ ∀ identifier, outcome ≠ .added identifier := by
  cases outcome <;> simp [isAdded]

section Runs

variable {c : Catalogue} {marked : Nat → Bool} {entries : List Entry}

theorem MarksDropped.tail {entry : Entry} (marks : MarksDropped c marked (entry :: entries)) :
    MarksDropped (c.add entry) (fun index => marked (index + 1)) entries := by
  intro index mark
  have dropped := marks (index + 1) mark
  rwa [Catalogue.outcomes, List.getElem?_cons_succ] at dropped

/-- With and without the rows, the two runs pass through the same catalogues. -/
theorem run_leaveOut (marks : MarksDropped c marked entries) :
    c.outcomes (leaveOut marked entries) = leaveOut marked (c.outcomes entries) ∧
      c.addAll (leaveOut marked entries) = c.addAll entries := by
  induction entries generalizing c marked with
  | nil => exact ⟨rfl, rfl⟩
  | cons entry rest ih =>
    obtain ⟨outcomes, catalogue⟩ := ih marks.tail
    cases first : marked 0 with
    | true =>
      have dropped := marks 0 first
      rw [Catalogue.outcomes, List.getElem?_cons_zero, Option.any_some,
        Outcome.isAdded_eq_false_iff] at dropped
      have unchanged := Catalogue.add_of_not_added dropped
      rw [unchanged] at outcomes catalogue
      constructor
      · simp only [leaveOut, Catalogue.outcomes, first, if_true, unchanged, outcomes]
      · simp only [leaveOut, first, if_true, catalogue]
        rw [Catalogue.addAll, Catalogue.addAll, List.foldl_cons, unchanged]
    | false =>
      constructor
      · simp only [leaveOut, Catalogue.outcomes, first, Bool.false_eq_true, if_false, outcomes]
      · simp only [leaveOut, first, Bool.false_eq_true, if_false]
        exact catalogue

theorem addAll_of_dropped
    (dropped : ∀ entry ∈ entries, ∀ identifier, c.outcome entry ≠ .added identifier) :
    c.addAll entries = c := by
  induction entries with
  | nil => rfl
  | cons entry rest ih =>
    have unchanged := Catalogue.add_of_not_added (dropped entry List.mem_cons_self)
    have later := ih fun other member => dropped other (List.mem_cons_of_mem _ member)
    rw [Catalogue.addAll] at later ⊢
    rw [List.foldl_cons, unchanged, later]

/-- A row that has been seen is not added again, because its identifier is held. -/
theorem not_added_of_mem {entry : Entry} (member : entry ∈ entries) (identifier : String) :
    (Catalogue.addAll {} entries).outcome entry ≠ .added identifier := by
  intro added
  have tells := Catalogue.tellsHolders_addAll entries
  obtain ⟨rfl, _, fresh⟩ := (tells.outcome_eq_added_iff entry identifier).mp added
  exact fresh entry member rfl

theorem addAll_append_copies {copies : List Entry} (included : copies ⊆ entries) :
    Catalogue.addAll {} (entries ++ copies) = Catalogue.addAll {} entries := by
  have split : Catalogue.addAll {} (entries ++ copies) =
      (Catalogue.addAll {} entries).addAll copies := List.foldl_append
  rw [split]
  exact addAll_of_dropped fun entry copied => not_added_of_mem (included copied)

end Runs

section Renderings

variable {marked : Nat → Bool} {entries : List Entry}

/-- The text asks for nothing but the catalogue at the end of the run. -/
theorem text_render_congr {other : List Entry}
    (same : Catalogue.addAll {} other = Catalogue.addAll {} entries) (aliases : List Alias) :
    (render other aliases).text = (render entries aliases).text := by
  rw [render, render, same]

theorem countP_outcomes_leaveOut (marks : MarksDropped {} marked entries) (kind : Outcome → Bool) :
    (Catalogue.outcomes {} (leaveOut marked entries)).countP kind +
      (pickOut marked (Catalogue.outcomes {} entries)).countP kind =
        (Catalogue.outcomes {} entries).countP kind := by
  rw [(run_leaveOut marks).1, countP_leaveOut]

theorem countP_isAdded_leaveOut (marks : MarksDropped {} marked entries) :
    (Catalogue.outcomes {} (leaveOut marked entries)).countP Outcome.isAdded =
      (Catalogue.outcomes {} entries).countP Outcome.isAdded := by
  have none : (pickOut marked (Catalogue.outcomes {} entries)).countP Outcome.isAdded = 0 := by
    rw [List.countP_eq_zero]
    intro outcome picked
    obtain ⟨index, mark, stands⟩ := exists_marked_of_mem_pickOut picked
    have dropped := marks index mark
    rw [stands, Option.any_some] at dropped
    simp [dropped]
  have all := countP_outcomes_leaveOut marks Outcome.isAdded
  omega

theorem marksDropped_not_added (entries : List Entry) :
    MarksDropped {} (fun index => !(Catalogue.outcomes {} entries)[index]?.any Outcome.isAdded)
      entries := by
  intro index mark
  simpa using mark

/-- The kept rows alone lead to the same catalogue, and every one of them is added. -/
theorem run_keptRows (entries : List Entry) :
    Catalogue.outcomes {} ((keptRows entries).map Declared.entry) =
        (Catalogue.outcomes {} entries).filter Outcome.isAdded ∧
      Catalogue.addAll {} ((keptRows entries).map Declared.entry) =
        Catalogue.addAll {} entries := by
  have run := run_leaveOut (marksDropped_not_added entries)
  rwa [leaveOut_not_added (Catalogue.length_outcomes {} entries), leaveOut_failing] at run

theorem report_render_keptRows (entries : List Entry) (aliases : List Alias) :
    (render ((keptRows entries).map Declared.entry) aliases).report =
      { units := (render entries aliases).report.units
        aliases := (render entries aliases).report.aliases } := by
  obtain ⟨outcomes, catalogue⟩ := run_keptRows entries
  have added : ((Catalogue.outcomes {} entries).filter Outcome.isAdded).countP Outcome.isAdded =
      (Catalogue.outcomes {} entries).countP Outcome.isAdded := by
    simp only [List.countP_filter, Bool.and_self]
  have none : ∀ kind : Outcome → Bool, (∀ identifier, kind (.added identifier) = false) →
      ((Catalogue.outcomes {} entries).filter Outcome.isAdded).countP kind = 0 := by
    intro kind other
    rw [List.countP_eq_zero]
    intro outcome member
    have is_added := (List.mem_filter.mp member).2
    cases outcome with
    | added identifier => simp [other]
    | duplicate _ _ => cases is_added
    | blank => cases is_added
    | unusable _ => cases is_added
  simp only [render, countOutcomes, outcomes, catalogue, added,
    none Outcome.isDuplicate fun _ => rfl, none Outcome.isBlank fun _ => rfl,
    none Outcome.isUnusable fun _ => rfl]

end Renderings

/-- Rows that are not added can be left out at any positions: the text stays the same, and the
report loses exactly the counts of what was left out. The kept rows alone have the same text, with a
report that counts nothing else, and copies of rows at the end do not change the text. -/
theorem dropped_rows_invisible {marked : Nat → Bool} {entries : List Entry}
    (marks : MarksDropped {} marked entries) (aliases : List Alias) :
    let rendering := render entries aliases
    let shorter := render (leaveOut marked entries) aliases
    let kept_only := render ((keptRows entries).map Declared.entry) aliases
    let left_out := pickOut marked (Catalogue.outcomes {} entries)
    shorter.text = rendering.text ∧
    shorter.report.units = rendering.report.units ∧
    shorter.report.duplicates + left_out.countP Outcome.isDuplicate =
      rendering.report.duplicates ∧
    shorter.report.blankRows + left_out.countP Outcome.isBlank = rendering.report.blankRows ∧
    shorter.report.unusableRows + left_out.countP Outcome.isUnusable =
      rendering.report.unusableRows ∧
    shorter.report.aliases = rendering.report.aliases ∧
    kept_only.text = rendering.text ∧
    kept_only.report =
      { units := rendering.report.units, duplicates := 0, blankRows := 0, unusableRows := 0
        aliases := rendering.report.aliases } ∧
    ∀ copies, copies ⊆ entries → (render (entries ++ copies) aliases).text = rendering.text := by
  intro rendering shorter kept_only left_out
  have catalogue := (run_leaveOut marks).2
  refine ⟨text_render_congr catalogue aliases, countP_isAdded_leaveOut marks,
    countP_outcomes_leaveOut marks Outcome.isDuplicate,
    countP_outcomes_leaveOut marks Outcome.isBlank,
    countP_outcomes_leaveOut marks Outcome.isUnusable, ?_,
    text_render_congr (run_keptRows entries).2 aliases, report_render_keptRows entries aliases, ?_⟩
  · simp only [shorter, rendering, render, countOutcomes, catalogue]
  · intro copies included
    exact text_render_congr (addAll_append_copies included) aliases

/-- A row of each kind is dropped here; the second one and the blank one are left out. -/
theorem two_dropped_rows_left_out :
    let entries : List Entry := [⟨"metre", some "MTR", some "m"⟩, ⟨"Metre", none, none⟩,
      ⟨"", none, some "x"⟩, ⟨"-", none, none⟩, ⟨"gram", some "GRM", some "g"⟩]
    let marked : Nat → Bool := fun index => index == 1 || index == 2
    MarksDropped {} marked entries ∧
    leaveOut marked entries = [⟨"metre", some "MTR", some "m"⟩, ⟨"-", none, none⟩,
      ⟨"gram", some "GRM", some "g"⟩] ∧
    (render (leaveOut marked entries) []).text = (render entries []).text := by
  intro entries marked
  have outcomes : Catalogue.outcomes {} entries = [.added "METRE", .duplicate "METRE" "metre",
      .blank, .unusable "-", .added "GRAM"] := by decide +kernel
  have marks : MarksDropped {} marked entries := by
    intro index mark
    rw [outcomes]
    rcases Bool.or_eq_true_iff.mp mark with second | third
    · rw [beq_iff_eq.mp second]
      rfl
    · rw [beq_iff_eq.mp third]
      rfl
  exact ⟨marks, rfl, (dropped_rows_invisible marks []).1⟩

end UnitCatalogue

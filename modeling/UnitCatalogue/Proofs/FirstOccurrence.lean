import Mathlib.Data.List.Induction
import UnitCatalogue.Proofs.CatalogueRuns

/-!
# The first row of an identifier

A row claims the identifier of its name, and the first row with a claim gets it. Who holds an
identifier is told by the rows before it, without the catalogue; every catalogue that a run
reaches gives the same answer, and adding a row changes it for one identifier at most.
-/

namespace UnitCatalogue

/-- Neither empty nor made of underscores only. -/
def IsUsable (identifier : String) : Prop := ∃ c ∈ identifier.toList, c ≠ '_'

/-- An identifier that a row can get, if it comes first. -/
structure IsClaimable (identifier : String) : Prop where
  usable : IsUsable identifier
  not_sentinel : identifier ∉ sentinels.map Declared.identifier
  not_table : identifier ∉ reservedIdentifiers

/-- Who holds an identifier after some rows, under the name that a duplicate is told. -/
inductive HeldBy (rows : List Entry) (identifier : String) : String → Prop where
  | sentinel {unit : Declared} : unit ∈ sentinels → unit.identifier = identifier →
      HeldBy rows identifier unit.entry.name
  | table : identifier ∈ reservedIdentifiers → HeldBy rows identifier "generated lookup table"
  | row {first : Entry} : IsClaimable identifier →
      rows.find? (Identifier.ofName ·.name == identifier) = some first →
        HeldBy rows identifier first.name

theorem isUsable_iff (identifier : String) :
    IsUsable identifier ↔ Identifier.isUnusable identifier = false := by
  simp [IsUsable, Identifier.isUnusable]

theorem IsUsable.ne_empty {identifier : String} (usable : IsUsable identifier) :
    identifier ≠ "" := by
  rintro rfl
  obtain ⟨c, member, _⟩ := usable
  simp at member

instance (identifier : String) : Decidable (IsUsable identifier) :=
  decidable_of_iff _ (isUsable_iff identifier).symm

instance (identifier : String) : Decidable (IsClaimable identifier) :=
  decidable_of_iff
    (IsUsable identifier ∧ identifier ∉ sentinels.map Declared.identifier ∧
      identifier ∉ reservedIdentifiers)
    ⟨fun ⟨usable, sentinel, table⟩ => ⟨usable, sentinel, table⟩,
      fun claimable => ⟨claimable.usable, claimable.not_sentinel, claimable.not_table⟩⟩

theorem not_table_of_sentinel :
    ∀ unit ∈ sentinels, unit.identifier ∉ reservedIdentifiers := by
  decide

theorem sentinels_distinct : ∀ unit ∈ sentinels, ∀ other ∈ sentinels,
    unit.identifier = other.identifier → unit = other := by
  decide

variable {rows : List Entry} {identifier kept : String}

theorem HeldBy.unique {kept' : String} (first : HeldBy rows identifier kept)
    (second : HeldBy rows identifier kept') : kept = kept' := by
  cases first with
  | @sentinel unit member same =>
    cases second with
    | @sentinel other member' same' =>
      rw [sentinels_distinct unit member other member' (same.trans same'.symm)]
    | table reserved => exact absurd (same ▸ reserved) (not_table_of_sentinel unit member)
    | row claimable _ => exact absurd (List.mem_map.mpr ⟨unit, member, same⟩) claimable.not_sentinel
  | table reserved =>
    cases second with
    | @sentinel other member' same' =>
      exact absurd (same' ▸ reserved) (not_table_of_sentinel other member')
    | table _ => rfl
    | row claimable _ => exact absurd reserved claimable.not_table
  | row claimable found =>
    cases second with
    | @sentinel other member' same' =>
      exact absurd (List.mem_map.mpr ⟨other, member', same'⟩) claimable.not_sentinel
    | table reserved => exact absurd reserved claimable.not_table
    | row _ found' => rw [Option.some.inj (found.symm.trans found')]

theorem exists_heldBy_iff : (∃ kept, HeldBy rows identifier kept) ↔
    identifier ∈ sentinels.map Declared.identifier ∨ identifier ∈ reservedIdentifiers ∨
      IsClaimable identifier ∧ ∃ row ∈ rows, Identifier.ofName row.name = identifier := by
  constructor
  · rintro ⟨kept, held⟩
    cases held with
    | @sentinel unit member same => exact Or.inl (List.mem_map.mpr ⟨unit, member, same⟩)
    | table reserved => exact Or.inr (Or.inl reserved)
    | @row first claimable found =>
      refine Or.inr (Or.inr ⟨claimable, first, List.mem_of_find?_eq_some found, ?_⟩)
      simpa using List.find?_some found
  · rintro (sentinel | reserved | ⟨claimable, row, member, same⟩)
    · obtain ⟨unit, member, same⟩ := List.mem_map.mp sentinel
      exact ⟨_, .sentinel member same⟩
    · exact ⟨_, .table reserved⟩
    · cases found : rows.find? (Identifier.ofName ·.name == identifier) with
      | some first => exact ⟨_, .row claimable found⟩
      | none => simpa [same] using List.find?_eq_none.mp found row member

/-- A further row is a holder only if nobody held its identifier. -/
theorem heldBy_append_singleton_iff (entry : Entry) :
    HeldBy (rows ++ [entry]) identifier kept ↔ HeldBy rows identifier kept ∨
      IsClaimable identifier ∧ (∀ row ∈ rows, Identifier.ofName row.name ≠ identifier) ∧
        Identifier.ofName entry.name = identifier ∧ kept = entry.name := by
  constructor
  · intro held
    cases held with
    | sentinel member same => exact Or.inl (.sentinel member same)
    | table reserved => exact Or.inl (.table reserved)
    | @row first claimable found =>
      rw [List.find?_append] at found
      cases earlier : rows.find? (Identifier.ofName ·.name == identifier) with
      | some row =>
        rw [earlier, Option.some_or] at found
        exact Or.inl (.row claimable (earlier.trans found))
      | none =>
        rw [earlier, Option.none_or] at found
        obtain rfl := List.mem_singleton.mp (List.mem_of_find?_eq_some found)
        refine Or.inr ⟨claimable, ?_, by simpa using List.find?_some found, rfl⟩
        simpa using earlier
  · rintro (held | ⟨claimable, fresh, same, rfl⟩)
    · cases held with
      | sentinel member same => exact .sentinel member same
      | table reserved => exact .table reserved
      | row claimable found =>
        refine .row claimable ?_
        rw [List.find?_append, found, Option.some_or]
    · refine .row claimable ?_
      have absent : rows.find? (Identifier.ofName ·.name == identifier) = none := by
        simpa using fresh
      rw [List.find?_append, absent, Option.none_or]
      simp [same]

namespace Catalogue

theorem outcomes_append (c : Catalogue) (before after : List Entry) :
    c.outcomes (before ++ after) = c.outcomes before ++ (c.addAll before).outcomes after := by
  induction before generalizing c with
  | nil => rfl
  | cons entry rest ih =>
    have step : c.addAll (entry :: rest) = (c.add entry).addAll rest := rfl
    rw [List.cons_append, outcomes, outcomes, ih, step, List.cons_append]

theorem length_outcomes (c : Catalogue) (entries : List Entry) :
    (c.outcomes entries).length = entries.length := by
  induction entries generalizing c with
  | nil => rfl
  | cons entry rest ih => rw [outcomes, List.length_cons, List.length_cons, ih]

/-- The four answers, each with the condition under which it is given. -/
theorem outcome_cases (c : Catalogue) (entry : Entry) :
    let identifier := Identifier.ofName entry.name
    identifier = "" ∧ c.outcome entry = .blank ∨
    identifier ≠ "" ∧ ¬IsUsable identifier ∧ c.outcome entry = .unusable entry.name ∨
    (IsUsable identifier ∧ ∃ kept, c.holder? identifier = some kept ∧
      c.outcome entry = .duplicate identifier kept) ∨
    IsUsable identifier ∧ c.holder? identifier = none ∧ c.outcome entry = .added identifier := by
  intro identifier
  by_cases empty : identifier = ""
  · exact Or.inl ⟨empty, if_pos empty⟩
  · refine Or.inr ?_
    have open_outcome : c.outcome entry = _ := if_neg empty
    by_cases usable : IsUsable identifier
    · refine Or.inr ?_
      rw [(isUsable_iff identifier).mp usable, if_neg Bool.false_ne_true] at open_outcome
      cases held : c.holder? identifier with
      | some kept =>
        rw [held] at open_outcome
        exact Or.inl ⟨usable, kept, rfl, open_outcome⟩
      | none =>
        rw [held] at open_outcome
        exact Or.inr ⟨usable, rfl, open_outcome⟩
    · have unusable : Identifier.isUnusable identifier = true := by
        simpa [isUsable_iff] using usable
      rw [if_pos unusable] at open_outcome
      exact Or.inl ⟨empty, usable, open_outcome⟩

theorem outcome_eq_blank_iff (c : Catalogue) (entry : Entry) :
    c.outcome entry = .blank ↔ Identifier.ofName entry.name = "" := by
  rcases c.outcome_cases entry with ⟨empty, same⟩ | ⟨nonempty, _, same⟩ | ⟨usable, _, _, same⟩ |
    ⟨usable, _, same⟩
  · simp [empty, same]
  · simp [nonempty, same]
  · simp [usable.ne_empty, same]
  · simp [usable.ne_empty, same]

theorem outcome_eq_unusable_iff (c : Catalogue) (entry : Entry) (name : String) :
    c.outcome entry = .unusable name ↔ name = entry.name ∧
      Identifier.ofName entry.name ≠ "" ∧ ¬IsUsable (Identifier.ofName entry.name) := by
  rcases c.outcome_cases entry with ⟨empty, same⟩ | ⟨nonempty, unusable, same⟩ |
    ⟨usable, _, _, same⟩ | ⟨usable, _, same⟩
  · simp [empty, same]
  · simp [nonempty, unusable, same, eq_comm]
  · simp [usable, same]
  · simp [usable, same]

theorem outcome_eq_duplicate_iff (c : Catalogue) (entry : Entry) (identifier kept : String) :
    c.outcome entry = .duplicate identifier kept ↔ identifier = Identifier.ofName entry.name ∧
      IsUsable identifier ∧ c.holder? identifier = some kept := by
  rcases c.outcome_cases entry with ⟨empty, same⟩ | ⟨_, unusable, same⟩ | ⟨usable, _, held, same⟩ |
    ⟨_, free, same⟩
  · rw [same]
    constructor
    · intro blank
      cases blank
    · rintro ⟨rfl, usable, _⟩
      exact absurd empty usable.ne_empty
  · rw [same]
    constructor
    · intro dropped
      cases dropped
    · rintro ⟨rfl, usable, _⟩
      exact absurd usable unusable
  · rw [same]
    constructor
    · rintro ⟨⟩
      exact ⟨rfl, usable, held⟩
    · rintro ⟨rfl, _, found⟩
      rw [Option.some.inj (held.symm.trans found)]
  · rw [same]
    constructor
    · intro added
      cases added
    · rintro ⟨rfl, _, found⟩
      cases free.symm.trans found

/-- The catalogue tells the holders that the rows tell. -/
def TellsHolders (c : Catalogue) (rows : List Entry) : Prop :=
  ∀ identifier kept, c.holder? identifier = some kept ↔ HeldBy rows identifier kept

variable {c : Catalogue}

theorem tellsHolders_empty : TellsHolders {} [] := by
  intro identifier kept
  rw [inStep_empty, holderAmong, List.append_nil]
  cases found : sentinels.find? (·.identifier == identifier) with
  | some unit =>
    obtain ⟨member, named⟩ := find?_identifier_eq_some found
    have held : HeldBy [] identifier unit.entry.name := .sentinel member named
    constructor
    · intro same
      obtain rfl : unit.entry.name = kept := by simpa using same
      exact held
    · intro other
      exact congrArg some (held.unique other)
  | none =>
    have absent := find?_identifier_eq_none_iff.mp found
    constructor
    · intro same
      by_cases reserved : identifier ∈ reservedIdentifiers
      · obtain rfl : tableHolder = kept := by simpa [reserved] using same
        exact .table reserved
      · simp [reserved] at same
    · intro held
      cases held with
      | @sentinel unit member same => exact absurd (List.mem_map.mpr ⟨unit, member, same⟩) absent
      | table reserved =>
        simp [reserved, tableHolder]
      | row _ found' => cases found'

namespace TellsHolders

theorem isTaken_iff (tells : c.TellsHolders rows) (identifier : String) :
    c.isTaken identifier = true ↔ identifier ∈ sentinels.map Declared.identifier ∨
      identifier ∈ reservedIdentifiers ∨
        IsClaimable identifier ∧ ∃ row ∈ rows, Identifier.ofName row.name = identifier := by
  rw [isTaken, Option.isSome_iff_exists, ← exists_heldBy_iff]
  simp only [tells identifier]

theorem outcome_eq_added_iff (tells : c.TellsHolders rows) (entry : Entry)
    (identifier : String) : c.outcome entry = .added identifier ↔
      identifier = Identifier.ofName entry.name ∧ IsClaimable identifier ∧
        ∀ row ∈ rows, Identifier.ofName row.name ≠ identifier := by
  rw [Catalogue.outcome_eq_added_iff, ← isUsable_iff, ← Bool.not_eq_true, tells.isTaken_iff]
  constructor
  · rintro ⟨named, _, usable, free⟩
    obtain ⟨sentinel, table, earlier⟩ := by simpa only [not_or] using free
    have claimable : IsClaimable identifier := ⟨usable, sentinel, table⟩
    exact ⟨named, claimable, fun row member same => earlier ⟨claimable, row, member, same⟩⟩
  · rintro ⟨named, claimable, fresh⟩
    refine ⟨named, claimable.usable.ne_empty, claimable.usable, ?_⟩
    rintro (sentinel | table | ⟨_, row, member, same⟩)
    · exact claimable.not_sentinel sentinel
    · exact claimable.not_table table
    · exact fresh row member same

theorem add (tells : c.TellsHolders rows) (entry : Entry) :
    (c.add entry).TellsHolders (rows ++ [entry]) := by
  intro other kept
  rw [heldBy_append_singleton_iff]
  rcases c.add_cases entry with ⟨identifier, added⟩ | ⟨dropped, unchanged⟩
  · obtain ⟨rfl, claimable, fresh⟩ := (tells.outcome_eq_added_iff entry identifier).mp added
    rw [holder?_add_of_added added]
    by_cases same : other = Identifier.ofName entry.name
    · subst same
      have unheld : ¬HeldBy rows (Identifier.ofName entry.name) kept := by
        intro held
        obtain sentinel | table | ⟨_, row, member, same⟩ := exists_heldBy_iff.mp ⟨kept, held⟩
        · exact claimable.not_sentinel sentinel
        · exact claimable.not_table table
        · exact fresh row member same
      rw [if_pos rfl]
      constructor
      · intro holder
        exact Or.inr ⟨claimable, fresh, rfl, (Option.some.inj holder).symm⟩
      · rintro (held | ⟨_, _, _, rfl⟩)
        · exact absurd held unheld
        · rfl
    · rw [if_neg same, tells]
      constructor
      · exact Or.inl
      · rintro (held | ⟨_, _, same', _⟩)
        · exact held
        · exact absurd same'.symm same
  · rw [unchanged, tells]
    constructor
    · exact Or.inl
    · rintro (held | ⟨claimable, fresh, rfl, _⟩)
      · exact held
      · have added := (tells.outcome_eq_added_iff entry _).mpr ⟨rfl, claimable, fresh⟩
        exact absurd added (dropped _)

theorem addAll (tells : c.TellsHolders rows) (entries : List Entry) :
    (c.addAll entries).TellsHolders (rows ++ entries) := by
  induction entries generalizing c rows with
  | nil => rwa [List.append_nil]
  | cons entry rest ih =>
    have split : rows ++ entry :: rest = rows ++ [entry] ++ rest := by simp
    rw [split]
    exact ih (tells.add entry)

end TellsHolders

theorem tellsHolders_addAll (entries : List Entry) : (addAll {} entries).TellsHolders entries :=
  tellsHolders_empty.addAll entries

/-- The identifiers that were given out are those that some row could claim. -/
theorem added_mem_outcomes_iff (entries : List Entry) (identifier : String) :
    .added identifier ∈ outcomes {} entries ↔
      IsClaimable identifier ∧ ∃ row ∈ entries, Identifier.ofName row.name = identifier := by
  induction entries using List.reverseRecOn with
  | nil => simp [outcomes]
  | append_singleton before entry ih =>
    have last : (addAll {} before).outcomes [entry] = [(addAll {} before).outcome entry] := rfl
    rw [outcomes_append, List.mem_append, ih, last, List.mem_singleton,
      @eq_comm _ (Outcome.added identifier), (tellsHolders_addAll before).outcome_eq_added_iff]
    constructor
    · rintro (⟨claimable, row, member, same⟩ | ⟨rfl, claimable, _⟩)
      · exact ⟨claimable, row, List.mem_append_left _ member, same⟩
      · exact ⟨claimable, entry, by simp, rfl⟩
    · rintro ⟨claimable, row, member, same⟩
      by_cases earlier : ∃ row ∈ before, Identifier.ofName row.name = identifier
      · exact Or.inl ⟨claimable, earlier⟩
      · rcases List.mem_append.mp member with before | last
        · exact absurd ⟨row, before, same⟩ earlier
        · obtain rfl := List.mem_singleton.mp last
          exact Or.inr ⟨same.symm, claimable, fun other inside same' =>
            earlier ⟨other, inside, same'⟩⟩

theorem isTaken_addAll_iff (entries : List Entry) (identifier : String) :
    (addAll {} entries).isTaken identifier = true ↔
      identifier ∈ sentinels.map Declared.identifier ∨ identifier ∈ reservedIdentifiers ∨
        .added identifier ∈ outcomes {} entries := by
  rw [(tellsHolders_addAll entries).isTaken_iff, added_mem_outcomes_iff]

theorem isDeclared_addAll_iff (entries : List Entry) (identifier : String) :
    (addAll {} entries).isDeclared identifier = true ↔
      identifier ∈ sentinels.map Declared.identifier ∨
        .added identifier ∈ outcomes {} entries := by
  have apart : identifier ∈ sentinels.map Declared.identifier ∨
      .added identifier ∈ outcomes {} entries → identifier ∉ reservedIdentifiers := by
    rintro (sentinel | added)
    · obtain ⟨unit, member, rfl⟩ := List.mem_map.mp sentinel
      exact not_table_of_sentinel unit member
    · exact ((added_mem_outcomes_iff entries identifier).mp added).1.not_table
  rw [isDeclared, Bool.and_eq_true, isTaken_addAll_iff]
  simp only [Bool.not_eq_true', List.contains_eq_mem, decide_eq_false_iff_not]
  constructor
  · rintro ⟨sentinel | table | added, unreserved⟩
    · exact Or.inl sentinel
    · exact absurd table unreserved
    · exact Or.inr added
  · rintro (sentinel | added)
    · exact ⟨Or.inl sentinel, apart (Or.inl sentinel)⟩
    · exact ⟨Or.inr (Or.inr added), apart (Or.inr added)⟩

end Catalogue

def sameIdentifier (first second : Entry) : Bool :=
  Identifier.ofName first.name == Identifier.ofName second.name

/-- Of the rows that can claim an identifier, the first one for each identifier. -/
def firstClaims (entries : List Entry) : List Entry :=
  (entries.filter fun entry => IsClaimable (Identifier.ofName entry.name)).eraseDupsBy
    sameIdentifier

/-- The row can claim its identifier, and none of these rows has the same. -/
def ClaimsAfter (rows : List Entry) (entry : Entry) : Prop :=
  IsClaimable (Identifier.ofName entry.name) ∧
    ∀ row ∈ rows, Identifier.ofName row.name ≠ Identifier.ofName entry.name

instance (rows : List Entry) (entry : Entry) : Decidable (ClaimsAfter rows entry) :=
  inferInstanceAs (Decidable (_ ∧ _))

theorem claimsAfter_append_singleton_iff (entry other : Entry) :
    ClaimsAfter (rows ++ [entry]) other ↔
      sameIdentifier other entry = false ∧ ClaimsAfter rows other := by
  simp only [ClaimsAfter, sameIdentifier, List.mem_append, List.mem_singleton, beq_eq_false_iff_ne]
  constructor
  · rintro ⟨claimable, fresh⟩
    exact ⟨(fresh entry (Or.inr rfl)).symm, claimable, fun row member => fresh row (Or.inl member)⟩
  · rintro ⟨differs, claimable, fresh⟩
    refine ⟨claimable, ?_⟩
    rintro row (member | rfl)
    · exact fresh row member
    · exact differs.symm

/-- The rows before a run take their identifiers out of it; within the run the first ones count. -/
theorem entries_keptOf {c : Catalogue} (tells : c.TellsHolders rows) (entries : List Entry) :
    (keptOf (c.outcomes entries) entries).map Declared.entry =
      (entries.filter fun entry => ClaimsAfter rows entry).eraseDupsBy sameIdentifier := by
  induction entries generalizing c rows with
  | nil => rfl
  | cons entry rest ih =>
    have later := ih (tells.add entry)
    rw [Catalogue.outcomes]
    by_cases claims : ClaimsAfter rows entry
    · -- From here on its identifier is claimed, which takes out the rows that share it.
      have added := (tells.outcome_eq_added_iff entry _).mpr ⟨rfl, claims⟩
      have left_over : (rest.filter fun other => ClaimsAfter (rows ++ [entry]) other) =
          (rest.filter fun other => ClaimsAfter rows other).filter
            fun other => sameIdentifier other entry = false := by
        rw [List.filter_filter]
        refine List.filter_congr fun other _ => ?_
        simp [claimsAfter_append_singleton_iff]
      rw [added, keptOf, List.map_cons, later, left_over, List.filter_cons,
        if_pos (decide_eq_true claims), List.eraseDupsBy_cons]
    · -- If this row cannot claim its identifier, then no later row with the same one can.
      have dropped : ∀ identifier, c.outcome entry ≠ .added identifier := by
        intro identifier added
        obtain ⟨rfl, claims'⟩ := (tells.outcome_eq_added_iff entry identifier).mp added
        exact claims claims'
      have left_over : (rest.filter fun other => ClaimsAfter (rows ++ [entry]) other) =
          rest.filter fun other => ClaimsAfter rows other := by
        refine List.filter_congr fun other _ => decide_eq_decide.mpr ?_
        rw [claimsAfter_append_singleton_iff, and_iff_right_iff_imp]
        intro claims'
        refine beq_eq_false_iff_ne.mpr fun same => claims ?_
        rwa [ClaimsAfter, ← same]
      rw [Catalogue.keptOf_cons_of_not_added _ _ _ dropped, later, left_over,
        List.filter_cons_of_neg (by simpa using claims)]

theorem entries_keptRows (entries : List Entry) :
    (keptRows entries).map Declared.entry = firstClaims entries := by
  have claims : ∀ entry : Entry,
      ClaimsAfter [] entry ↔ IsClaimable (Identifier.ofName entry.name) := by
    simp [ClaimsAfter]
  simp only [keptRows, entries_keptOf Catalogue.tellsHolders_empty, firstClaims, claims]

theorem identifier_of_mem_keptRows {entries : List Entry} {unit : Declared}
    (kept : unit ∈ keptRows entries) : unit.identifier = Identifier.ofName unit.entry.name := by
  rw [← Catalogue.units_addAll_empty] at kept
  exact ((Catalogue.sound_addAll entries).named unit kept).1

/-- The first row with an identifier gets it, and a later one is told who holds it; whatever is not
added changes neither the units nor the claims, and an added row is entered once in both. The units
are the added rows in order, which are the first rows of their identifiers; the claims are in step
with the units, and what is taken or declared follows from them. -/
theorem first_row_gets_identifier (before : List Entry) (entry : Entry) :
    let catalogue := Catalogue.addAll {} before
    let identifier := Identifier.ofName entry.name
    (∀ given, catalogue.outcome entry = .added given ↔ given = identifier ∧
      IsUsable identifier ∧ identifier ∉ sentinels.map Declared.identifier ∧
        identifier ∉ reservedIdentifiers ∧
          ∀ row ∈ before, Identifier.ofName row.name ≠ identifier) ∧
    (∀ given kept, catalogue.outcome entry = .duplicate given kept ↔ given = identifier ∧
      IsUsable identifier ∧ HeldBy before identifier kept) ∧
    ((∀ given, catalogue.outcome entry ≠ .added given) → catalogue.add entry = catalogue) ∧
    (∀ given, catalogue.outcome entry = .added given →
      (catalogue.add entry).units = catalogue.units ++ [⟨given, entry⟩] ∧
      ∀ other, (catalogue.add entry).holder? other =
        if other = given then some entry.name else catalogue.holder? other) ∧
    catalogue.items = (keptRows before).map (fun unit =>
      { identifier := Identifier.ofName unit.entry.name
        name := unit.entry.name
        declaration := declaration (Identifier.ofName unit.entry.name) unit.entry
        registration := registration (Identifier.ofName unit.entry.name) }) ∧
    (keptRows before).map Declared.entry = firstClaims before ∧
    (∀ other, catalogue.holder? other = Catalogue.holderAmong (keptRows before) other) ∧
    (∀ other, catalogue.isTaken other = true ↔ other ∈ sentinels.map Declared.identifier ∨
      other ∈ reservedIdentifiers ∨ .added other ∈ Catalogue.outcomes {} before) ∧
    (∀ other, catalogue.isDeclared other = true ↔ other ∈ sentinels.map Declared.identifier ∨
      .added other ∈ Catalogue.outcomes {} before) := by
  intro catalogue identifier
  have tells := Catalogue.tellsHolders_addAll before
  refine ⟨?_, ?_, Catalogue.add_of_not_added, ?_, ?_, entries_keptRows before, ?_,
    Catalogue.isTaken_addAll_iff before, Catalogue.isDeclared_addAll_iff before⟩
  · intro given
    rw [tells.outcome_eq_added_iff]
    constructor
    · rintro ⟨rfl, ⟨usable, sentinel, table⟩, fresh⟩
      exact ⟨rfl, usable, sentinel, table, fresh⟩
    · rintro ⟨rfl, usable, sentinel, table, fresh⟩
      exact ⟨rfl, ⟨usable, sentinel, table⟩, fresh⟩
  · intro given kept
    rw [Catalogue.outcome_eq_duplicate_iff, tells]
    constructor
    · rintro ⟨rfl, usable, held⟩
      exact ⟨rfl, usable, held⟩
    · rintro ⟨rfl, usable, held⟩
      exact ⟨rfl, usable, held⟩
  · intro given added
    exact ⟨by rw [Catalogue.add_of_added added], Catalogue.holder?_add_of_added added⟩
  · rw [Catalogue.items_addAll]
    refine List.map_congr_left fun unit kept => ?_
    have named := identifier_of_mem_keptRows kept
    rw [Declared.item, named]
  · intro other
    rw [(Catalogue.sound_addAll before).inStep, Catalogue.units_addAll_empty]

end UnitCatalogue

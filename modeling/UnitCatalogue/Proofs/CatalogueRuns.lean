import Mathlib.Data.List.Nodup
import UnitCatalogue.Catalogue
import UnitCatalogue.Proofs.LegalNames

/-!
# Runs of the catalogue

The units of a catalogue are the rows with the outcome `added`, in row order. Along every run the
claims stay in step with the units: an identifier is claimed exactly when a unit or a table has it,
and with the name of that unit. So the identifiers stay distinct, legal, and apart from those that
are taken for the tables.
-/

namespace UnitCatalogue

/-- The rows that were added, each under the identifier that its outcome tells. -/
def keptOf : List Outcome → List Entry → List Declared
  | .added identifier :: outcomes, entry :: entries =>
    ⟨identifier, entry⟩ :: keptOf outcomes entries
  | _ :: outcomes, _ :: entries => keptOf outcomes entries
  | _, _ => []

/-- The rows that a rendering keeps. -/
def keptRows (entries : List Entry) : List Declared :=
  keptOf (Catalogue.outcomes {} entries) entries

namespace Catalogue

def identifiers (c : Catalogue) : List String := c.declared.map Declared.identifier

/-- Who holds an identifier beside these units, told by the units and without the claims. -/
def holderAmong (units : List Declared) (identifier : String) : Option String :=
  match (sentinels ++ units).find? (·.identifier == identifier) with
  | some unit => some unit.entry.name
  | none => if identifier ∈ reservedIdentifiers then some tableHolder else none

/-- The claims tell what the units tell. -/
def InStep (c : Catalogue) : Prop :=
  ∀ identifier, c.holder? identifier = holderAmong c.units identifier

theorem lookup_units (units : List Declared) (identifier : String) :
    (units.map fun unit => (unit.identifier, unit.entry.name)).lookup identifier =
      (units.find? (·.identifier == identifier)).map fun unit => unit.entry.name := by
  induction units with
  | nil => rfl
  | cons unit rest ih =>
    rw [List.map_cons, List.lookup_cons, List.find?_cons, ih]
    by_cases same : unit.identifier = identifier
    · simp [same]
    · have differs : (identifier == unit.identifier) = false := by simpa using Ne.symm same
      have differs' : (unit.identifier == identifier) = false := by simpa using same
      rw [differs, differs']

theorem lookup_tables (tables : List String) (identifier : String) :
    (tables.map fun table => (table, tableHolder)).lookup identifier =
      if identifier ∈ tables then some tableHolder else none := by
  induction tables with
  | nil => rfl
  | cons table rest ih =>
    rw [List.map_cons, List.lookup_cons, ih]
    by_cases same : identifier = table
    · simp [same]
    · have differs : (identifier == table) = false := by simpa using same
      simp [same, differs]

theorem inStep_empty : InStep {} := by
  intro identifier
  have seeded : holder? {} identifier = Claims.seed.lookup identifier := rfl
  rw [seeded, Claims.seed, List.lookup_append, lookup_units, lookup_tables, holderAmong,
    List.append_nil]
  cases sentinels.find? (·.identifier == identifier) with
  | some unit => rfl
  | none => rfl

theorem find?_identifier_eq_none_iff {units : List Declared} {identifier : String} :
    units.find? (·.identifier == identifier) = none ↔
      identifier ∉ units.map Declared.identifier := by
  simp [List.find?_eq_none]

theorem find?_identifier_eq_some {units : List Declared} {identifier : String} {unit : Declared}
    (found : units.find? (·.identifier == identifier) = some unit) :
    unit ∈ units ∧ unit.identifier = identifier :=
  ⟨List.mem_of_find?_eq_some found, by simpa using List.find?_some found⟩

/-- A further unit holds its identifier if nothing else did, and no other one. -/
theorem holderAmong_append_singleton {units : List Declared} (unit : Declared)
    (free : holderAmong units unit.identifier = none) (identifier : String) :
    holderAmong (units ++ [unit]) identifier =
      if identifier = unit.identifier then some unit.entry.name
      else holderAmong units identifier := by
  rw [holderAmong, ← List.append_assoc, List.find?_append]
  by_cases same : identifier = unit.identifier
  · subst same
    cases found : (sentinels ++ units).find? (·.identifier == unit.identifier) with
    | some other => simp [holderAmong, found] at free
    | none => simp
  · have differs : (unit.identifier == identifier) = false := by simpa using Ne.symm same
    have absent : [unit].find? (·.identifier == identifier) = none := by simp [Ne.symm same]
    rw [absent, Option.or_none, if_neg same, holderAmong]

theorem holderAmong_isSome_iff (units : List Declared) (identifier : String) :
    (holderAmong units identifier).isSome = true ↔
      identifier ∈ (sentinels ++ units).map Declared.identifier ∨
        identifier ∈ reservedIdentifiers := by
  rw [holderAmong]
  cases found : (sentinels ++ units).find? (·.identifier == identifier) with
  | some unit =>
    have member := List.mem_map.mpr ⟨unit, find?_identifier_eq_some found⟩
    exact iff_of_true rfl (Or.inl member)
  | none =>
    rw [or_iff_right (find?_identifier_eq_none_iff.mp found)]
    by_cases reserved : identifier ∈ reservedIdentifiers <;> simp [reserved]

theorem InStep.isTaken_iff {c : Catalogue} (inStep : c.InStep) (identifier : String) :
    c.isTaken identifier = true ↔
      identifier ∈ c.identifiers ∨ identifier ∈ reservedIdentifiers := by
  rw [isTaken, inStep, holderAmong_isSome_iff]
  rfl

/-- The only row that a catalogue adds has a usable identifier that nothing holds. -/
theorem outcome_eq_added_iff (c : Catalogue) (entry : Entry) (identifier : String) :
    c.outcome entry = .added identifier ↔
      identifier = Identifier.ofName entry.name ∧ identifier ≠ "" ∧
        Identifier.isUnusable identifier = false ∧ c.isTaken identifier = false := by
  simp only [outcome, isTaken]
  by_cases empty : Identifier.ofName entry.name = ""
  · simp only [if_pos empty]
    constructor
    · intro blank
      cases blank
    · rintro ⟨rfl, nonempty, _⟩
      exact absurd empty nonempty
  · rw [if_neg empty]
    by_cases unusable : Identifier.isUnusable (Identifier.ofName entry.name) = true
    · simp only [if_pos unusable]
      constructor
      · intro dropped
        cases dropped
      · rintro ⟨rfl, _, usable, _⟩
        simp [unusable] at usable
    · rw [if_neg unusable]
      cases held : c.holder? (Identifier.ofName entry.name) with
      | some kept =>
        constructor
        · intro duplicate
          cases duplicate
        · rintro ⟨rfl, _, _, free⟩
          simp [held] at free
      | none =>
        constructor
        · intro same
          obtain rfl : Identifier.ofName entry.name = identifier := by simpa using same
          exact ⟨rfl, empty, by simpa using unusable, by simp [held]⟩
        · rintro ⟨rfl, _⟩
          rfl

theorem add_of_added {c : Catalogue} {entry : Entry} {identifier : String}
    (added : c.outcome entry = .added identifier) :
    c.add entry =
      ⟨c.units ++ [⟨identifier, entry⟩], c.seen.claim identifier entry.name⟩ := by
  rw [add, added]

/-- An added row claims its own identifier; all else keeps its holder. -/
theorem holder?_add_of_added {c : Catalogue} {entry : Entry} {identifier : String}
    (added : c.outcome entry = .added identifier) (other : String) :
    (c.add entry).holder? other =
      if other = identifier then some entry.name else c.holder? other := by
  rw [add_of_added added, holder?, Claims.claim, Claims.holder?, List.lookup_cons]
  by_cases same : other = identifier
  · simp [same]
  · have differs : (other == identifier) = false := by simpa using same
    rw [differs, if_neg same]
    rfl

theorem add_of_not_added {c : Catalogue} {entry : Entry}
    (dropped : ∀ identifier, c.outcome entry ≠ .added identifier) : c.add entry = c := by
  rw [add]
  split
  · next identifier added => exact absurd added (dropped identifier)
  · rfl

/-- A row is added, or the catalogue stays as it is. -/
theorem add_cases (c : Catalogue) (entry : Entry) :
    (∃ identifier, c.outcome entry = .added identifier) ∨
      (∀ identifier, c.outcome entry ≠ .added identifier) ∧ c.add entry = c := by
  by_cases added : ∃ identifier, c.outcome entry = .added identifier
  · exact Or.inl added
  · have dropped := not_exists.mp added
    exact Or.inr ⟨dropped, add_of_not_added dropped⟩

theorem keptOf_cons_of_not_added {outcome : Outcome} (outcomes : List Outcome) (entry : Entry)
    (entries : List Entry) (dropped : ∀ identifier, outcome ≠ .added identifier) :
    keptOf (outcome :: outcomes) (entry :: entries) = keptOf outcomes entries := by
  cases outcome with
  | added identifier => exact absurd rfl (dropped identifier)
  | duplicate _ _ => rfl
  | blank => rfl
  | unusable _ => rfl

/-- Each row of a run either appends its unit or leaves the catalogue as it is. -/
theorem units_addAll (c : Catalogue) (entries : List Entry) :
    (c.addAll entries).units = c.units ++ keptOf (c.outcomes entries) entries := by
  induction entries generalizing c with
  | nil => simp [addAll, outcomes, keptOf]
  | cons entry rest ih =>
    have step : c.addAll (entry :: rest) = (c.add entry).addAll rest := rfl
    rw [step, ih, outcomes]
    rcases c.add_cases entry with ⟨identifier, added⟩ | ⟨dropped, same⟩
    · rw [added, add_of_added added, keptOf]
      simp
    · rw [keptOf_cons_of_not_added _ _ _ dropped, same]

theorem units_addAll_empty (entries : List Entry) :
    (addAll {} entries).units = keptRows entries := by
  rw [units_addAll]
  rfl

theorem declared_addAll (entries : List Entry) :
    (addAll {} entries).declared = sentinels ++ keptRows entries := by
  rw [declared, units_addAll_empty]

theorem items_addAll (entries : List Entry) :
    (addAll {} entries).items = (keptRows entries).map Declared.item := by
  rw [items, units_addAll_empty]

theorem InStep.add {c : Catalogue} (inStep : c.InStep) (entry : Entry) : (c.add entry).InStep := by
  rcases c.add_cases entry with ⟨identifier, added⟩ | ⟨_, same⟩
  · obtain ⟨_, _, _, free⟩ := (c.outcome_eq_added_iff entry identifier).mp added
    have unheld : holderAmong c.units identifier = none := by
      rw [← inStep]
      simpa [isTaken] using free
    intro other
    rw [holder?_add_of_added added, add_of_added added, inStep]
    exact (holderAmong_append_singleton ⟨identifier, entry⟩ unheld other).symm
  · rwa [same]

/-- What every run keeps. -/
structure Sound (c : Catalogue) : Prop where
  inStep : c.InStep
  distinct : c.identifiers.Nodup
  unreserved : ∀ identifier ∈ c.identifiers, identifier ∉ reservedIdentifiers
  named : ∀ unit ∈ c.units, unit.identifier = Identifier.ofName unit.entry.name ∧
    unit.identifier ≠ "" ∧ Identifier.isUnusable unit.identifier = false

theorem sound_empty : Sound {} where
  inStep := inStep_empty
  distinct := by decide
  unreserved := by decide
  named := by
    intro unit member
    cases member

theorem identifiers_append (c : Catalogue) (unit : Declared) (seen : Claims) :
    identifiers ⟨c.units ++ [unit], seen⟩ = c.identifiers ++ [unit.identifier] := by
  simp [identifiers, declared]

theorem Sound.add {c : Catalogue} (sound : c.Sound) (entry : Entry) : (c.add entry).Sound := by
  rcases c.add_cases entry with ⟨identifier, added⟩ | ⟨_, same⟩
  · obtain ⟨named, nonempty, usable, free⟩ := (c.outcome_eq_added_iff entry identifier).mp added
    have fresh : identifier ∉ c.identifiers ∧ identifier ∉ reservedIdentifiers := by
      rw [← not_or, ← sound.inStep.isTaken_iff, free]
      exact Bool.false_ne_true
    have inStep := sound.inStep.add entry
    rw [add_of_added added] at inStep ⊢
    refine ⟨inStep, ?_, ?_, ?_⟩
    · rw [identifiers_append]
      exact sound.distinct.append (List.nodup_singleton _)
        (List.disjoint_singleton.mpr fresh.1)
    · rw [identifiers_append]
      intro other member
      rcases List.mem_append.mp member with before | last
      · exact sound.unreserved other before
      · obtain rfl := List.mem_singleton.mp last
        exact fresh.2
    · intro unit member
      rcases List.mem_append.mp member with before | last
      · exact sound.named unit before
      · obtain rfl := List.mem_singleton.mp last
        exact ⟨named, nonempty, usable⟩
  · rwa [same]

theorem Sound.addAll {c : Catalogue} (sound : c.Sound) (entries : List Entry) :
    (c.addAll entries).Sound := by
  induction entries generalizing c with
  | nil => exact sound
  | cons entry rest ih => exact ih (sound.add entry)

theorem sound_addAll (entries : List Entry) : (addAll {} entries).Sound :=
  sound_empty.addAll entries

theorem Sound.isDeclared_iff {c : Catalogue} (sound : c.Sound) (identifier : String) :
    c.isDeclared identifier = true ↔ identifier ∈ c.identifiers := by
  rw [isDeclared, Bool.and_eq_true, sound.inStep.isTaken_iff]
  simp only [Bool.not_eq_true', List.contains_eq_mem, decide_eq_false_iff_not]
  constructor
  · rintro ⟨member | reserved, unreserved⟩
    · exact member
    · exact absurd reserved unreserved
  · intro member
    exact ⟨Or.inl member, sound.unreserved identifier member⟩

/-- The identifiers of the sentinels are such as a row could have. -/
theorem sentinel_named : ∀ unit ∈ sentinels, unit.identifier = Identifier.ofName unit.identifier ∧
    unit.identifier ≠ "" ∧ Identifier.isUnusable unit.identifier = false := by
  decide +kernel

theorem Sound.exists_name {c : Catalogue} (sound : c.Sound) :
    ∀ unit ∈ c.declared, ∃ name, unit.identifier = Identifier.ofName name ∧
      unit.identifier ≠ "" ∧ Identifier.isUnusable unit.identifier = false := by
  intro unit member
  rcases List.mem_append.mp member with sentinel | added
  · exact ⟨unit.identifier, sentinel_named unit sentinel⟩
  · exact ⟨unit.entry.name, sound.named unit added⟩

theorem Sound.isLegalName {c : Catalogue} (sound : c.Sound) (letters : Char → Bool) :
    ∀ unit ∈ c.declared, IsLegalName letters unit.identifier := by
  intro unit member
  obtain ⟨name, named, nonempty, usable⟩ := sound.exists_name unit member
  exact Identifier.isLegalName_of_eq named nonempty usable

end Catalogue

end UnitCatalogue

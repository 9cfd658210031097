import UnitCatalogue.Proofs.CollidingSpellings
import UnitCatalogue.Proofs.FirstOccurrence
import UnitCatalogue.Proofs.IdentifierGrammar

/-!
# Identifiers as display names

An identifier holds nothing that a substitution looks for, since no later step brings two digits
together, and so it is its own identifier. A row that is named by the identifier of a declared unit
is therefore a duplicate of that unit.
-/

namespace UnitCatalogue

namespace Identifier

open Text

/-- An identifier in which no substitution finds anything. -/
structure IsSettled (text : List Char) : Prop extends IsWellFormed text where
  no_eight : '8' ∉ text
  no_fifteen : ¬['1', '5'] <:+: text
  no_thirty : ¬['3', '0'] <:+: text

/-- The digits that a substitution looks for. -/
def soughtDigits : List Char := ['0', '1', '3', '5', '8']

theorem scanCharacter_of_unsought {c : Char}
    (absent : c ∉ substitutions.flatMap Substitution.pattern) :
    scanCharacter c = maskOthers (upperChar c) := by
  have patterns : substitutions.flatMap Substitution.pattern = [' ', ',', '.', '-', '/', '%',
    '[', ']', '(', ')', '\'', '8', '1', '5', '3', '0', '\\', '\u00a0', '\u00b0', '\u00ba',
    '\u2013'] := rfl
  rw [patterns] at absent
  simp only [List.mem_cons, List.not_mem_nil, or_false, not_or] at absent
  simp [scanCharacter, separators, absent, maskOthers, isPart]

theorem scanCharacter_of_isPart {c : Char} (part : isPart c = true) (not_eight : c ≠ '8') :
    scanCharacter c = [c] := by
  by_cases sought : c ∈ substitutions.flatMap Substitution.pattern
  · have told : (substitutions.flatMap Substitution.pattern).all (fun c =>
        isPart c = true → c ≠ '8' → scanCharacter c = [c]) = true := by
      decide +kernel
    exact List.all_iff_forall_prop.mp told c sought part not_eight
  · rw [scanCharacter_of_unsought sought, upperChar_of_isPart part]
    simp [maskOthers, part]

/-- A digit that is sought stands for itself, and an eight for nothing. -/
theorem eq_of_digit_mem_scanCharacter {c digit : Char} (listed : digit ∈ soughtDigits)
    (member : digit ∈ scanCharacter c) : c = digit ∧ c ≠ '8' := by
  by_cases sought : c ∈ substitutions.flatMap Substitution.pattern
  · have told : (substitutions.flatMap Substitution.pattern).all (fun c =>
        soughtDigits.all fun digit => digit ∈ scanCharacter c → c = digit ∧ c ≠ '8') = true := by
      decide +kernel
    have each := List.all_eq_true.mp told c sought
    exact List.all_iff_forall_prop.mp each digit listed member
  · have digits : soughtDigits.all (fun digit => isCaseless digit ∧ digit ≠ '_' ∧
        digit ∈ substitutions.flatMap Substitution.pattern) = true := by
      decide +kernel
    obtain ⟨caseless, not_underscore, among⟩ := List.all_iff_forall_prop.mp digits digit listed
    rw [scanCharacter_of_unsought sought] at member
    obtain ⟨u, inside, same⟩ := List.mem_map.mp member
    split at same
    · subst same
      rw [eq_of_mem_upperChar caseless inside] at among
      exact absurd among sought
    · exact absurd same.symm not_underscore

theorem scanCharacter_ne_nil (c : Char) : scanCharacter c ≠ [] := by
  by_cases sought : c ∈ substitutions.flatMap Substitution.pattern
  · have told : (substitutions.flatMap Substitution.pattern).all (fun c =>
        scanCharacter c ≠ []) = true := by
      decide +kernel
    exact List.all_iff_forall_prop.mp told c sought
  · rw [scanCharacter_of_unsought sought]
    simp [maskOthers, upperChar, upperCodes_ne_nil]

theorem eight_not_mem_scan (text : List Char) : '8' ∉ scan text := by
  have eight : '8' ∈ soughtDigits := by decide
  induction text using scan.induct with
  | case1 => simp [scan]
  | case2 rest ih => simp [scan, fifteen, ih]
  | case3 rest ih => simp [scan, thirty, ih]
  | case4 c rest not_fifteen not_thirty ih =>
    rw [scan_cons (no_pair_of_ne not_fifteen) (no_pair_of_ne not_thirty), List.mem_append, not_or]
    refine ⟨fun member => ?_, ih⟩
    obtain ⟨same, differs⟩ := eq_of_digit_mem_scanCharacter eight member
    exact differs same

theorem head?_scan {digit : Char} (listed : digit ∈ soughtDigits) {text : List Char}
    (head : (scan text).head? = some digit) : text.head? = some digit := by
  have letters : 'F' ∉ soughtDigits ∧ 'T' ∉ soughtDigits := by decide
  cases text using scan.fun_cases with
  | case1 => exact head
  | case2 rest =>
    obtain rfl : 'F' = digit := by simpa [scan, fifteen] using head
    exact absurd listed letters.1
  | case3 rest =>
    obtain rfl : 'T' = digit := by simpa [scan, thirty] using head
    exact absurd listed letters.2
  | case4 c rest not_fifteen not_thirty =>
    obtain ⟨first, more, shape⟩ := List.exists_cons_of_ne_nil (scanCharacter_ne_nil c)
    rw [scan_cons (no_pair_of_ne not_fifteen) (no_pair_of_ne not_thirty), shape] at head
    obtain rfl : first = digit := by simpa using head
    have member : first ∈ scanCharacter c := by simp [shape]
    rw [(eq_of_digit_mem_scanCharacter listed member).1, List.head?_cons]

theorem pair_infix_append_of_not_mem {c d : Char} {front rest : List Char} (absent : c ∉ front) :
    [c, d] <:+: front ++ rest ↔ [c, d] <:+: rest := by
  induction front with
  | nil => rfl
  | cons x front ih =>
    rw [List.mem_cons, not_or] at absent
    rw [List.cons_append, pair_infix_cons_iff, ih absent.2, or_iff_right]
    exact fun pair => absent.1 pair.1.symm

/-- The two digits of a pair that is replaced. -/
inductive IsPair : Char → Char → Prop where
  | fifteen : IsPair '1' '5'
  | thirty : IsPair '3' '0'

theorem no_pair_scan {c d : Char} (pair : IsPair c d) (text : List Char) :
    ¬[c, d] <:+: scan text := by
  have digits : c ∈ soughtDigits ∧ d ∈ soughtDigits := by cases pair <;> decide
  have words : c ∉ fifteen ∧ c ∉ thirty := by cases pair <;> decide
  induction text using scan.induct with
  | case1 => simp [scan]
  | case2 rest ih => rwa [scan, pair_infix_append_of_not_mem words.1]
  | case3 rest ih => rwa [scan, pair_infix_append_of_not_mem words.2]
  | case4 x rest not_fifteen not_thirty ih =>
    have no_fifteen := no_pair_of_ne not_fifteen
    have no_thirty := no_pair_of_ne not_thirty
    rw [scan_cons no_fifteen no_thirty]
    by_cases same : x = c
    · have apart : ¬(x = c ∧ rest.head? = some d) := by
        cases pair
        · exact no_fifteen
        · exact no_thirty
      have kept : scanCharacter c = [c] := by cases pair <;> rfl
      rw [same, kept, List.singleton_append, pair_infix_cons_iff, not_or]
      refine ⟨?_, ih⟩
      rintro ⟨_, head⟩
      exact apart ⟨same, head?_scan digits.2 head⟩
    · rw [pair_infix_append_of_not_mem]
      · exact ih
      · exact fun member => same (eq_of_digit_mem_scanCharacter digits.1 member).1

theorem pair_infix_of_collapse {c d : Char} {text : List Char}
    (inside : [c, d] <:+: collapse text) : [c, d] <:+: text := by
  induction text with
  | nil => exact inside
  | cons x rest ih =>
    rw [collapse] at inside
    rw [pair_infix_cons_iff]
    split at inside
    · exact Or.inr (ih inside)
    · rw [pair_infix_cons_iff, head?_collapse] at inside
      exact inside.imp_right ih

theorem pair_infix_of_guardDigit {c d : Char} (digit : c ≠ '_') {text : List Char}
    (inside : [c, d] <:+: guardDigit text) : [c, d] <:+: text := by
  cases text with
  | nil => exact inside
  | cons x rest =>
    rw [guardDigit] at inside
    split at inside
    · rcases pair_infix_cons_iff.mp inside with front | later
      · exact absurd front.1.symm digit
      · exact later
    · exact inside

theorem isSettled_key (name : List Char) : IsSettled (key name) := by
  cases named : allBlank name with
  | true =>
    have empty : key name = [] := if_pos named
    refine ⟨isWellFormed_key name, ?_, ?_, ?_⟩ <;> simp [empty]
  | false =>
    have scanned := key_eq_scan named
    have no_pair : ∀ c d, IsPair c d → ¬[c, d] <:+: key name := by
      intro c d pair inside
      rw [scanned] at inside
      have digit : c ≠ '_' := by cases pair <;> decide
      exact no_pair_scan pair _ (pair_infix_of_collapse (pair_infix_of_guardDigit digit inside))
    refine ⟨isWellFormed_key name, ?_, no_pair _ _ .fifteen, no_pair _ _ .thirty⟩
    intro member
    rw [scanned] at member
    rcases mem_guardDigit member with same | inside
    · exact absurd same (by decide)
    · exact eight_not_mem_scan _ (mem_of_mem_collapse inside)

theorem scan_of_no_pair {text : List Char} (parts : ∀ c ∈ text, isPart c = true)
    (no_eight : '8' ∉ text) (no_fifteen : ¬['1', '5'] <:+: text)
    (no_thirty : ¬['3', '0'] <:+: text) : scan text = text := by
  induction text with
  | nil => rfl
  | cons c rest ih =>
    rw [pair_infix_cons_iff, not_or] at no_fifteen no_thirty
    rw [List.mem_cons, not_or] at no_eight
    rw [scan_cons no_fifteen.1 no_thirty.1,
      scanCharacter_of_isPart (parts c List.mem_cons_self) (Ne.symm no_eight.1),
      ih (fun x member => parts x (List.mem_cons_of_mem _ member)) no_eight.2 no_fifteen.2
        no_thirty.2]
    rfl

theorem not_isBlank_of_isPart {c : Char} (part : isPart c = true) : isBlank c = false := by
  have bounds := toNat_of_isPart part
  have apart : ∀ span ∈ blankSpans, span.2 < '0'.toNat ∨ 'a'.toNat ≤ span.1 := by decide
  rw [Bool.eq_false_iff, ne_eq, isBlank_iff]
  rintro ⟨span, listed, low, high⟩
  have outside := apart span listed
  omega

/-- Every step leaves a settled text as it is. -/
theorem IsSettled.key_eq {text : List Char} (settled : IsSettled text) : key text = text := by
  have parts : ∀ c ∈ text, isPart c = true :=
    fun c member => (isPart_iff c).mpr (settled.characters c member)
  cases text with
  | nil => rfl
  | cons c rest =>
    have named : allBlank (c :: rest) = false :=
      allBlank_of_mem List.mem_cons_self (not_isBlank_of_isPart (parts c List.mem_cons_self))
    have unmarked : withoutMarks (c :: rest) = c :: rest := by
      rw [withoutMarks, List.filter_eq_self]
      intro x member
      have unpart : ∀ mark ∈ deletedCharacters, ¬isPart mark = true :=
        List.all_iff_forall_prop.mp (by decide)
      simpa using fun mark => unpart x mark (parts x member)
    rw [key_eq_scan named, unmarked, scan_of_no_pair parts settled.no_eight settled.no_fifteen
      settled.no_thirty, collapse_of_no_run settled.no_run, guardDigit_of_begins settled.begins]

theorem ofName_ofName (name : String) : ofName (ofName name) = ofName name := by
  have again := (isSettled_key name.toList).key_eq
  rw [ofName, ofName, String.toList_ofList, again]

/-- The digits that stand around a replaced pair are apart for good. -/
example : ofName "3(15)0" = "_3FIFTEEN0" ∧ ofName "_3FIFTEEN0" = "_3FIFTEEN0" := by
  decide +kernel

end Identifier

namespace Catalogue

theorem Sound.eq_of_identifier {c : Catalogue} (sound : c.Sound) {unit other : Declared}
    (declared : unit ∈ c.declared) (declared' : other ∈ c.declared)
    (same : other.identifier = unit.identifier) : other = unit :=
  List.inj_on_of_nodup_map sound.distinct declared' declared same

theorem Sound.holder?_identifier {c : Catalogue} (sound : c.Sound) {unit : Declared}
    (declared : unit ∈ c.declared) : c.holder? unit.identifier = some unit.entry.name := by
  rw [sound.inStep, holderAmong]
  cases found : (sentinels ++ c.units).find? (·.identifier == unit.identifier) with
  | none =>
    have absent := find?_identifier_eq_none_iff.mp found
    exact absurd (List.mem_map_of_mem declared) absent
  | some other =>
    obtain ⟨member, same⟩ := find?_identifier_eq_some found
    rw [sound.eq_of_identifier declared member same]

/-- A row named by the identifier of a declared unit is a duplicate of that unit. -/
theorem Sound.outcome_identifier {c : Catalogue} (sound : c.Sound) {unit : Declared}
    (declared : unit ∈ c.declared) (code suffix : Option String) :
    c.outcome ⟨unit.identifier, code, suffix⟩ =
      .duplicate unit.identifier unit.entry.name := by
  obtain ⟨name, named, _, usable⟩ := sound.exists_name unit declared
  rw [outcome_eq_duplicate_iff]
  refine ⟨?_, (isUsable_iff unit.identifier).mpr usable, sound.holder?_identifier declared⟩
  rw [named, Identifier.ofName_ofName]

end Catalogue

/-- An identifier is the identifier of itself, for it holds neither an eight nor one of the two
pairs of digits. So after any rows, a row that is named by the identifier of a unit changes nothing
and is a duplicate of the one unit that has this identifier. -/
theorem identifier_names_its_unit :
    (∀ name, Identifier.ofName (Identifier.ofName name) = Identifier.ofName name ∧
      '8' ∉ (Identifier.ofName name).toList ∧
      ¬['1', '5'] <:+: (Identifier.ofName name).toList ∧
      ¬['3', '0'] <:+: (Identifier.ofName name).toList) ∧
    ∀ (rows : List Entry), let catalogue := Catalogue.addAll {} rows
      ∀ unit ∈ catalogue.declared, ∀ code suffix,
        catalogue.outcome ⟨unit.identifier, code, suffix⟩ =
          .duplicate unit.identifier unit.entry.name ∧
        catalogue.add ⟨unit.identifier, code, suffix⟩ = catalogue ∧
        ∀ other ∈ catalogue.declared, other.identifier = unit.identifier → other = unit := by
  constructor
  · intro name
    have settled : Identifier.IsSettled (Identifier.ofName name).toList := by
      rw [Identifier.ofName, String.toList_ofList]
      exact Identifier.isSettled_key name.toList
    exact ⟨Identifier.ofName_ofName name, settled.no_eight, settled.no_fifteen, settled.no_thirty⟩
  · intro rows catalogue unit declared code suffix
    have sound := Catalogue.sound_addAll rows
    have outcome := sound.outcome_identifier declared code suffix
    refine ⟨outcome, ?_, fun other declared' same => sound.eq_of_identifier declared declared' same⟩
    apply Catalogue.add_of_not_added
    intro identifier added
    rw [outcome] at added
    cases added

end UnitCatalogue

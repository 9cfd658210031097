import UnitCatalogue.Text.Blank
import UnitCatalogue.Text.Uppercase

/-!
# Characters without case

Blank characters, digits and the punctuation of display names lie in stretches of code points that
the upper-case mapping neither changes nor reaches. The mapping is a table of runs and of single
code points, and a stretch is compared with a run by the ends of the two.
-/

namespace UnitCatalogue.Text

/-- The mapping changes no code point of the span. -/
def LeavesAlone (span : Span) : Prop :=
  (∀ expansion ∈ caseExpansions, expansion.1 < span.1 ∨ span.2 < expansion.1) ∧
  ∀ run ∈ caseRuns, run.last < span.1 ∨ span.2 < run.first

/-- The mapping leads from no other code point into the span. -/
def StaysOutside (span : Span) : Prop :=
  (∀ expansion ∈ caseExpansions, ∀ code ∈ expansion.2, code < span.1 ∨ span.2 < code) ∧
  ∀ run ∈ caseRuns, run.image run.last < span.1 ∨ span.2 < run.image run.first

instance (span : Span) : Decidable (LeavesAlone span) := by
  unfold LeavesAlone
  infer_instance

instance (span : Span) : Decidable (StaysOutside span) := by
  unfold StaysOutside
  infer_instance

/-- Stretches of code points that hold no character with two cases. -/
def caselessSpans : List Span :=
  [(0x0, 0x40), (0x5B, 0x60), (0x7B, 0xB4), (0xB6, 0xBF), (0x1680, 0x1680), (0x2000, 0x2131),
   (0x3000, 0x3000)]

theorem caselessSpans_ascending : ascendingFrom 0 caselessSpans = true := by decide +kernel

def isCaseless (c : Char) : Bool := spansContain caselessSpans c.toNat

theorem isCaseless_iff (c : Char) :
    isCaseless c = true ↔ ∃ span ∈ caselessSpans, span.1 ≤ c.toNat ∧ c.toNat ≤ span.2 :=
  spansContain_iff c.toNat caselessSpans_ascending

theorem leavesAlone_caselessSpans : ∀ span ∈ caselessSpans, LeavesAlone span := by
  decide +kernel

theorem staysOutside_caselessSpans : ∀ span ∈ caselessSpans, StaysOutside span := by
  decide +kernel

theorem CaseRun.bounds_of_covers {run : CaseRun} {code : Nat} (covered : run.covers code = true) :
    run.first ≤ code ∧ code ≤ run.last := by
  simp only [covers, Bool.and_eq_true, decide_eq_true_eq] at covered
  exact covered.1

theorem CaseRun.image_mono {run : CaseRun} {code other : Nat} (ordered : code ≤ other) :
    run.image code ≤ run.image other := by
  unfold image
  omega

/-- The table tells the upper case of a code point, or it is the code point itself. -/
theorem upperCodes_cases (code : Nat) :
    (∃ codes, (code, codes) ∈ caseExpansions ∧ upperCodes code = codes) ∨
    (∃ run ∈ caseRuns, run.covers code = true ∧ upperCodes code = [run.image code]) ∨
    upperCodes code = [code] := by
  unfold upperCodes
  cases expanded : caseExpansions.lookup code with
  | some codes =>
    obtain ⟨before, after, table, _⟩ := List.lookup_eq_some_iff.mp expanded
    exact Or.inl ⟨codes, by simp [table], rfl⟩
  | none =>
    refine Or.inr ?_
    cases covered : caseRuns.find? (·.covers code) with
    | some run =>
      refine Or.inl ⟨run, List.mem_of_find?_eq_some covered, ?_, rfl⟩
      simpa using List.find?_some covered
    | none => exact Or.inr rfl

theorem upperCodes_ne_nil (code : Nat) : upperCodes code ≠ [] := by
  have expansions : ∀ expansion ∈ caseExpansions, expansion.2 ≠ [] := by decide
  rcases upperCodes_cases code with ⟨codes, listed, same⟩ | ⟨run, _, _, same⟩ | same
  · rw [same]
    exact expansions _ listed
  · simp [same]
  · simp [same]

theorem expansions_valid : ∀ expansion ∈ caseExpansions, ∀ code ∈ expansion.2,
    code < 0xD800 := by
  decide +kernel

/-- No run leads across the gap in the code points of characters. -/
theorem runs_valid : ∀ run ∈ caseRuns, run.image run.last < 0xD800 ∨
    0xDFFF < run.image run.first ∧ run.image run.last < 0x110000 := by
  decide +kernel

theorem isValidChar_of_mem_upperCodes {code other : Nat} (valid : code.isValidChar)
    (member : other ∈ upperCodes code) : other.isValidChar := by
  rcases upperCodes_cases code with ⟨codes, listed, same⟩ | ⟨run, listed, covered, same⟩ | same
  · rw [same] at member
    exact Or.inl (expansions_valid _ listed other member)
  · rw [same, List.mem_singleton] at member
    have bounds := run.bounds_of_covers covered
    have low : run.image run.first ≤ other := member ▸ run.image_mono bounds.1
    have high : other ≤ run.image run.last := member ▸ run.image_mono bounds.2
    rcases runs_valid run listed with before | behind
    · exact Or.inl (by omega)
    · exact Or.inr ⟨by omega, by omega⟩
  · rw [same, List.mem_singleton] at member
    exact member ▸ valid

theorem toNat_mem_upperCodes {c u : Char} (member : u ∈ upperChar c) :
    u.toNat ∈ upperCodes c.toNat := by
  obtain ⟨code, inside, rfl⟩ := List.mem_map.mp member
  have valid := isValidChar_of_mem_upperCodes c.valid inside
  have kept : (Char.ofNat code).toNat = code := by
    rw [Char.ofNat, dif_pos valid]
    rfl
  rwa [kept]

theorem LeavesAlone.upperChar_eq {span : Span} (alone : LeavesAlone span) {c : Char}
    (low : span.1 ≤ c.toNat) (high : c.toNat ≤ span.2) : upperChar c = [c] := by
  have same : upperCodes c.toNat = [c.toNat] := by
    rcases upperCodes_cases c.toNat with ⟨codes, listed, _⟩ | ⟨run, listed, covered, _⟩ | same
    · have apart : c.toNat < span.1 ∨ span.2 < c.toNat := alone.1 _ listed
      omega
    · have apart := alone.2 run listed
      have bounds := run.bounds_of_covers covered
      omega
    · exact same
  rw [upperChar, same, List.map_singleton, Char.ofNat_toNat]

theorem StaysOutside.eq_of_mem {span : Span} (outside : StaysOutside span) {c u : Char}
    (low : span.1 ≤ u.toNat) (high : u.toNat ≤ span.2) (member : u ∈ upperChar c) : u = c := by
  have inside := toNat_mem_upperCodes member
  rcases upperCodes_cases c.toNat with ⟨codes, listed, same⟩ | ⟨run, listed, covered, same⟩ | same
  · have apart := outside.1 _ listed u.toNat (same ▸ inside)
    omega
  · rw [same, List.mem_singleton] at inside
    have apart := outside.2 run listed
    have bounds := run.bounds_of_covers covered
    have first : run.image run.first ≤ run.image c.toNat := run.image_mono bounds.1
    have last : run.image c.toNat ≤ run.image run.last := run.image_mono bounds.2
    omega
  · rw [same, List.mem_singleton] at inside
    exact Char.toNat_inj.mp inside

theorem upperChar_of_isCaseless {c : Char} (caseless : isCaseless c = true) :
    upperChar c = [c] := by
  obtain ⟨span, member, low, high⟩ := (isCaseless_iff c).mp caseless
  exact (leavesAlone_caselessSpans span member).upperChar_eq low high

theorem eq_of_mem_upperChar {c u : Char} (caseless : isCaseless u = true)
    (member : u ∈ upperChar c) : u = c := by
  obtain ⟨span, listed, low, high⟩ := (isCaseless_iff u).mp caseless
  exact (staysOutside_caselessSpans span listed).eq_of_mem low high member

/-- Up to the small letters nothing is changed. -/
theorem upperChar_of_lt {c : Char} (low : c.toNat < 'a'.toNat) : upperChar c = [c] := by
  have alone : LeavesAlone (0x0, 0x60) := by decide +kernel
  exact alone.upperChar_eq (Nat.zero_le _) (Nat.le_of_lt_succ low)

theorem isCaseless_of_isBlank {c : Char} (blank : isBlank c = true) : isCaseless c = true := by
  have within : ∀ span ∈ blankSpans, ∃ wide ∈ caselessSpans, wide.1 ≤ span.1 ∧ span.2 ≤ wide.2 := by
    decide
  obtain ⟨span, member, low, high⟩ := (isBlank_iff c).mp blank
  obtain ⟨wide, listed, below, above⟩ := within span member
  exact (isCaseless_iff c).mpr ⟨wide, listed, by omega, by omega⟩

theorem all_isBlank_upperChar (c : Char) : (upperChar c).all isBlank = isBlank c := by
  rw [Bool.eq_iff_iff, List.all_eq_true]
  constructor
  · intro blank
    obtain ⟨u, member⟩ : ∃ u, u ∈ upperChar c := by
      apply List.exists_mem_of_ne_nil
      simp [upperChar, upperCodes_ne_nil]
    have same := eq_of_mem_upperChar (isCaseless_of_isBlank (blank u member)) member
    exact same ▸ blank u member
  · intro blank u member
    rw [upperChar_of_isCaseless (isCaseless_of_isBlank blank), List.mem_singleton] at member
    exact member ▸ blank

/-- The upper case of a text is blank only if the text is. -/
theorem allBlank_upper (text : List Char) : allBlank (upper text) = allBlank text := by
  simp only [allBlank, upper, List.all_flatMap, all_isBlank_upperChar]

end UnitCatalogue.Text

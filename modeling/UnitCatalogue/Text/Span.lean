/-!
# Spans of code points

A property of characters is held as an ascending list of closed spans of code points. On such a
list the search may end early, and `spansContain_iff` says that it misses nothing.
-/

namespace UnitCatalogue.Text

/-- The first and the last code point of a span. -/
abbrev Span := Nat × Nat

/-- Whether a span of an ascending list holds the code point; the search ends at the first span
that begins beyond it. -/
def spansContain : List Span → Nat → Bool
  | [], _ => false
  | (first, last) :: rest, code =>
    if code < first then false else if code ≤ last then true else spansContain rest code

/-- Every span begins beyond a bound and ends before the next one begins. -/
def ascendingFrom : Nat → List Span → Bool
  | _, [] => true
  | bound, (first, last) :: rest => bound ≤ first && first ≤ last && ascendingFrom (last + 1) rest

theorem not_mem_span_of_ascendingFrom {spans : List Span} {bound code : Nat}
    (ascending : ascendingFrom bound spans = true) (below : code < bound) :
    ¬ ∃ span ∈ spans, span.1 ≤ code ∧ code ≤ span.2 := by
  induction spans generalizing bound with
  | nil => simp
  | cons span rest ih =>
    obtain ⟨first, last⟩ := span
    simp only [ascendingFrom, Bool.and_eq_true, decide_eq_true_eq] at ascending
    have later := ih ascending.2 (by omega)
    rintro ⟨span, member, low, high⟩
    rcases List.mem_cons.mp member with rfl | member
    · simp only at low
      omega
    · exact later ⟨span, member, low, high⟩

theorem spansContain_iff {spans : List Span} {bound : Nat} (code : Nat)
    (ascending : ascendingFrom bound spans = true) :
    spansContain spans code = true ↔ ∃ span ∈ spans, span.1 ≤ code ∧ code ≤ span.2 := by
  induction spans generalizing bound with
  | nil => simp [spansContain]
  | cons span rest ih =>
    obtain ⟨first, last⟩ := span
    simp only [ascendingFrom, Bool.and_eq_true, decide_eq_true_eq] at ascending
    have rest_iff := ih ascending.2
    by_cases before : code < first
    · have none := not_mem_span_of_ascendingFrom ascending.2 (show code < last + 1 by omega)
      simp only [spansContain, if_pos before, Bool.false_eq_true, List.mem_cons, false_iff]
      rintro ⟨span, rfl | member, low, high⟩
      · simp only at low
        omega
      · exact none ⟨span, member, low, high⟩
    · by_cases inside : code ≤ last
      · simp only [spansContain, if_neg before, if_pos inside, true_iff]
        exact ⟨(first, last), List.mem_cons_self, by simp only; omega, inside⟩
      · simp only [spansContain, if_neg before, if_neg inside, rest_iff, List.mem_cons]
        constructor
        · rintro ⟨span, member, bounds⟩
          exact ⟨span, Or.inr member, bounds⟩
        · rintro ⟨span, rfl | member, low, high⟩
          · simp only at high
            omega
          · exact ⟨span, member, low, high⟩

end UnitCatalogue.Text

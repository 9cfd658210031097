import UnitCatalogue.Proofs.UnderscoreRuns

/-!
# One scan for all substitutions

The substitutions are made one after the other, and yet a single scan from the left has the same
result once brackets and apostrophes are deleted. What they are deleted from may bring two digits
together, and these count as a pair.
-/

namespace UnitCatalogue.Identifier

open Text

/-- The text without brackets and apostrophes. -/
def withoutMarks (text : List Char) : List Char := text.filter fun c => c ∉ deletedCharacters

/-- The characters that separate words. -/
def separators : List Char := [' ', ',', '.', '-', '\\', '\u00a0', '\u2013']

/-- What stands for a character that is in no pair. -/
def scanCharacter (c : Char) : List Char :=
  if c = '8' then ['E', 'I', 'G', 'H', 'T']
  else if c = '/' then ['_', 'P', 'E', 'R', '_']
  else if c = '%' then ['P', 'E', 'R', 'C', 'E', 'N', 'T']
  else if c = '\u00b0' ∨ c = '\u00ba' then ['D', 'E', 'G', '_']
  else if c ∈ separators then ['_']
  else (upperChar c).map fun u => if u.isUpper || u.isDigit || u == '_' then u else '_'

def fifteen : List Char := ['F', 'I', 'F', 'T', 'E', 'E', 'N']

def thirty : List Char := ['T', 'H', 'I', 'R', 'T', 'Y']

/-- Reads a text once, from the left. -/
def scan : List Char → List Char
  | [] => []
  | '1' :: '5' :: rest => fifteen ++ scan rest
  | '3' :: '0' :: rest => thirty ++ scan rest
  | c :: rest => scanCharacter c ++ scan rest

def Substitution.isSingle : Substitution → Bool
  | .single _ _ => true
  | .pair _ _ _ => false

section Singles

variable {table : List Substitution}
  (singles : ∀ substitution ∈ table, substitution.isSingle = true)
include singles

theorem applyAll_parts (front rest : List Char) :
    applyAll table (front ++ rest) = applyAll table front ++ applyAll table rest := by
  induction table generalizing front rest with
  | nil => rfl
  | cons substitution more ih =>
    have later := ih fun other member => singles other (List.mem_cons_of_mem _ member)
    cases substitution with
    | single c replacement =>
      have here : replaceSingle c replacement (front ++ rest) =
          replaceSingle c replacement front ++ replaceSingle c replacement rest :=
        List.flatMap_append
      exact (congrArg (applyAll more) here).trans (later _ _)
    | pair c d replacement => cases singles _ List.mem_cons_self

/-- Substitutions of single characters act on each character by itself. -/
theorem applyAll_eq_flatMap (text : List Char) :
    applyAll table text = text.flatMap fun c => applyAll table [c] := by
  induction text with
  | nil => simpa using applyAll_parts singles [] []
  | cons c rest ih => rw [← List.singleton_append, applyAll_parts singles, ih]; rfl

end Singles

/-- A character that no substitution looks for stays. -/
theorem applyAll_singleton {table : List Substitution} {c : Char}
    (unsought : ∀ substitution ∈ table, c ∉ substitution.pattern) : applyAll table [c] = [c] := by
  induction table with
  | nil => rfl
  | cons substitution rest ih =>
    have here : substitution.apply [c] = [c] := by
      cases substitution with
      | single d replacement =>
        have differs : c ≠ d := by simpa [Substitution.pattern] using unsought _ List.mem_cons_self
        simp [Substitution.apply, replaceSingle, differs]
      | pair d e replacement => rfl
    rw [applyAll_cons, here]
    exact ih fun other member => unsought other (List.mem_cons_of_mem _ member)

section Pairs

variable {c d : Char} {replacement : List Char}

theorem replacePair_cons_of_head {x : Char} {rest : List Char}
    (apart : ¬(x = c ∧ rest.head? = some d)) :
    replacePair c d replacement (x :: rest) = x :: replacePair c d replacement rest := by
  cases rest with
  | nil => rfl
  | cons y rest =>
    rw [replacePair, if_neg]
    rintro ⟨rfl, rfl⟩
    exact apart ⟨rfl, rfl⟩

theorem replacePair_append_of_not_mem {front : List Char} (absent : c ∉ front)
    (rest : List Char) :
    replacePair c d replacement (front ++ rest) = front ++ replacePair c d replacement rest := by
  induction front with
  | nil => rfl
  | cons x front ih =>
    rw [List.mem_cons, not_or] at absent
    rw [List.cons_append, replacePair_cons_of_head fun same => absent.1 same.1.symm, ih absent.2]
    rfl

theorem head?_replacePair {x : Char} {text : List Char} (nonempty : replacement ≠ [])
    (foreign : x ∉ replacement)
    (head : (replacePair c d replacement text).head? = some x) : text.head? = some x := by
  match text with
  | [] => exact head
  | [y] => exact head
  | y :: z :: rest =>
    rw [replacePair] at head
    split at head
    · obtain ⟨first, more, rfl⟩ := List.exists_cons_of_ne_nil nonempty
      obtain rfl : first = x := by simpa using head
      exact absurd List.mem_cons_self foreign
    · exact head

end Pairs

/-- What becomes of a character before the pairs are replaced. -/
def early (c : Char) : List Char := applyAll (substitutions.take 12) [c]

/-- What becomes of a character after the pairs are replaced, capital letters included. -/
def late (c : Char) : List Char :=
  maskOthers (upper (applyAll (substitutions.drop 14) [c]))

/-- The two substitutions of pairs, in their order. -/
def replacePairs (text : List Char) : List Char :=
  replacePair '3' '0' thirty (replacePair '1' '5' fifteen text)

theorem maskOthers_upper_flatMap (f : Char → List Char) (text : List Char) :
    maskOthers (upper (text.flatMap f)) = text.flatMap fun c => maskOthers (upper (f c)) := by
  simp only [maskOthers, upper, List.flatMap_assoc, List.map_flatMap]

/-- The pairs stand between two groups of substitutions that look at one character each. -/
theorem maskOthers_upper_substituteAll (text : List Char) :
    maskOthers (upper (substituteAll text)) =
      (replacePairs (text.flatMap early)).flatMap late := by
  have table : substitutions = substitutions.take 12 ++
      ([.pair '1' '5' fifteen, .pair '3' '0' thirty] ++ substitutions.drop 14) := rfl
  have before : applyAll (substitutions.take 12) text = text.flatMap early :=
    applyAll_eq_flatMap (by decide) text
  have behind : ∀ middle, applyAll (substitutions.drop 14) middle =
      middle.flatMap fun c => applyAll (substitutions.drop 14) [c] :=
    applyAll_eq_flatMap (by decide)
  calc maskOthers (upper (substituteAll text))
      = maskOthers (upper (applyAll (substitutions.take 12 ++
          ([.pair '1' '5' fifteen, .pair '3' '0' thirty] ++ substitutions.drop 14)) text)) := by
        rw [← table, substituteAll_eq]
    _ = maskOthers (upper (applyAll (substitutions.drop 14)
          (replacePairs (text.flatMap early)))) := by
        rw [applyAll_append, applyAll_append, before]
        rfl
    _ = (replacePairs (text.flatMap early)).flatMap late := by
        rw [behind, maskOthers_upper_flatMap]
        rfl

theorem unsought {c : Char} (absent : c ∉ substitutions.flatMap Substitution.pattern) :
    ∀ substitution ∈ substitutions, c ∉ substitution.pattern := by
  intro substitution member inside
  exact absent (List.mem_flatMap.mpr ⟨substitution, member, inside⟩)

theorem early_of_unsought {c : Char}
    (absent : c ∉ substitutions.flatMap Substitution.pattern) : early c = [c] :=
  applyAll_singleton fun substitution member =>
    unsought absent substitution (List.mem_of_mem_take member)

/-- The digits of the pairs. -/
def isPaired (c : Char) : Bool := c ∈ ['1', '5', '3', '0']

/-- A character that is not deleted stays, or becomes a text without the digits of the pairs. -/
theorem early_cases {c : Char} (kept : c ∉ deletedCharacters) :
    early c = [c] ∨ early c ≠ [] ∧ (early c).any isPaired = false := by
  by_cases sought : c ∈ substitutions.flatMap Substitution.pattern
  · have told : (substitutions.flatMap Substitution.pattern).all (fun c =>
        c ∉ deletedCharacters →
          early c = [c] ∨ early c ≠ [] ∧ (early c).any isPaired = false) = true := by
      decide +kernel
    exact List.all_iff_forall_prop.mp told c sought kept
  · exact Or.inl (early_of_unsought sought)

theorem not_mem_of_isPaired {digit : Char} {text : List Char} (paired : isPaired digit = true)
    (free : text.any isPaired = false) : digit ∉ text :=
  fun inside => List.any_eq_false.mp free digit inside paired

theorem flatMap_late_early {c : Char} (kept : c ∉ deletedCharacters) :
    (early c).flatMap late = scanCharacter c := by
  by_cases sought : c ∈ substitutions.flatMap Substitution.pattern
  · have told : (substitutions.flatMap Substitution.pattern).all (fun c =>
        c ∉ deletedCharacters → (early c).flatMap late = scanCharacter c) = true := by
      decide +kernel
    exact List.all_iff_forall_prop.mp told c sought kept
  · have behind : applyAll (substitutions.drop 14) [c] = [c] :=
      applyAll_singleton fun substitution member =>
        unsought sought substitution (List.mem_of_mem_drop member)
    have patterns : substitutions.flatMap Substitution.pattern = [' ', ',', '.', '-', '/', '%',
      '[', ']', '(', ')', '\'', '8', '1', '5', '3', '0', '\\', '\u00a0', '\u00b0', '\u00ba',
      '\u2013'] := rfl
    have before := early_of_unsought sought
    rw [patterns] at sought
    simp only [List.mem_cons, List.not_mem_nil, or_false, not_or] at sought
    simp [before, late, behind, scanCharacter, separators, sought, maskOthers, upper, isPart]

theorem flatMap_early_withoutMarks (text : List Char) :
    (withoutMarks text).flatMap early = text.flatMap early := by
  have deleted : ∀ c ∈ deletedCharacters, early c = [] :=
    List.all_iff_forall_prop.mp (by decide)
  induction text with
  | nil => rfl
  | cons c rest ih =>
    by_cases mark : c ∈ deletedCharacters
    · rw [withoutMarks, List.filter_cons_of_neg (by simpa using mark), List.flatMap_cons,
        deleted c mark, List.nil_append]
      exact ih
    · rw [withoutMarks, List.filter_cons_of_pos (by simpa using mark), List.flatMap_cons,
        List.flatMap_cons]
      exact congrArg (early c ++ ·) ih

/-- Where no character is deleted, a digit in front has been there before. -/
theorem head?_flatMap_early {text : List Char} (kept : ∀ c ∈ text, c ∉ deletedCharacters)
    {digit : Char} (paired : isPaired digit = true)
    (head : (text.flatMap early).head? = some digit) : text.head? = some digit := by
  cases text with
  | nil => exact head
  | cons c rest =>
    rw [List.flatMap_cons] at head
    rcases early_cases (kept c List.mem_cons_self) with same | ⟨nonempty, free⟩
    · simpa only [same, List.singleton_append, List.head?_cons] using head
    · obtain ⟨first, more, shape⟩ := List.exists_cons_of_ne_nil nonempty
      rw [shape] at head
      obtain rfl : first = digit := by simpa using head
      exact absurd (by simp [shape]) (not_mem_of_isPaired paired free)

section Scan

variable {c : Char} {rest : List Char}

theorem no_pair_of_ne {first second : Char}
    (apart : ∀ more, c = first → rest = second :: more → False) :
    ¬(c = first ∧ rest.head? = some second) := by
  rintro ⟨same, head⟩
  obtain ⟨more, rfl⟩ := List.head?_eq_some_iff.mp head
  exact apart more same rfl

theorem scan_cons (no_fifteen : ¬(c = '1' ∧ rest.head? = some '5'))
    (no_thirty : ¬(c = '3' ∧ rest.head? = some '0')) :
    scan (c :: rest) = scanCharacter c ++ scan rest := by
  refine scan.eq_4 c rest ?_ ?_
  · intro more first second
    exact no_fifteen ⟨first, by rw [second]; rfl⟩
  · intro more first second
    exact no_thirty ⟨first, by rw [second]; rfl⟩

/-- The substitutions of pairs pass over a character that begins none. -/
theorem replacePairs_early_append (kept : ∀ x ∈ c :: rest, x ∉ deletedCharacters)
    (no_fifteen : ¬(c = '1' ∧ rest.head? = some '5'))
    (no_thirty : ¬(c = '3' ∧ rest.head? = some '0')) :
    replacePairs (early c ++ rest.flatMap early) =
      early c ++ replacePairs (rest.flatMap early) := by
  have kept_rest : ∀ x ∈ rest, x ∉ deletedCharacters :=
    fun x member => kept x (List.mem_cons_of_mem _ member)
  simp only [replacePairs]
  rcases early_cases (kept c List.mem_cons_self) with same | ⟨_, free⟩
  · rw [same, List.singleton_append, replacePair_cons_of_head, replacePair_cons_of_head,
      List.singleton_append]
    · rintro ⟨rfl, head⟩
      have earlier := head?_replacePair (by decide) (by decide) head
      exact no_thirty ⟨rfl, head?_flatMap_early kept_rest (by decide) earlier⟩
    · rintro ⟨rfl, head⟩
      exact no_fifteen ⟨rfl, head?_flatMap_early kept_rest (by decide) head⟩
  · -- An inserted text has no digit of a pair, and both substitutions pass over all of it.
    rw [replacePair_append_of_not_mem (not_mem_of_isPaired (by decide) free),
      replacePair_append_of_not_mem (not_mem_of_isPaired (by decide) free)]

theorem replacePairs_flatMap_early {text : List Char}
    (kept : ∀ c ∈ text, c ∉ deletedCharacters) :
    (replacePairs (text.flatMap early)).flatMap late = scan text := by
  -- The induction is on the scan. As nothing is deleted, two digits that are neighbours after the
  -- early substitutions have been neighbours before, so the scan and the pairs stop together.
  induction text using scan.induct with
  | case1 => rfl
  | case2 rest ih =>
    have digits : ('1' :: '5' :: rest).flatMap early = '1' :: '5' :: rest.flatMap early := rfl
    have letters : fifteen.flatMap late = fifteen := by decide +kernel
    rw [scan, ← ih fun c member => kept c (by simp [member]), digits, replacePairs, replacePair,
      if_pos ⟨rfl, rfl⟩, replacePair_append_of_not_mem (by decide), List.flatMap_append, letters,
      replacePairs]
  | case3 rest ih =>
    have digits : ('3' :: '0' :: rest).flatMap early = ['3', '0'] ++ rest.flatMap early := rfl
    have letters : thirty.flatMap late = thirty := by decide +kernel
    rw [scan, ← ih fun c member => kept c (by simp [member]), digits, replacePairs,
      replacePair_append_of_not_mem (by decide), List.cons_append, List.cons_append,
      List.nil_append, replacePair, if_pos ⟨rfl, rfl⟩, List.flatMap_append, letters, replacePairs]
  | case4 c rest not_fifteen not_thirty ih =>
    have no_fifteen := no_pair_of_ne not_fifteen
    have no_thirty := no_pair_of_ne not_thirty
    rw [List.flatMap_cons, replacePairs_early_append kept no_fifteen no_thirty,
      List.flatMap_append, flatMap_late_early (kept c List.mem_cons_self),
      ih fun x member => kept x (List.mem_cons_of_mem _ member), scan_cons no_fifteen no_thirty]

theorem maskOthers_upper_eq_scan (text : List Char) :
    maskOthers (upper (substituteAll text)) = scan (withoutMarks text) := by
  rw [maskOthers_upper_substituteAll, ← flatMap_early_withoutMarks]
  refine replacePairs_flatMap_early fun c member => ?_
  simpa using (List.mem_filter.mp member).2

theorem key_eq_scan {name : List Char} (named : allBlank name = false) :
    key name = guardDigit (collapse (scan (withoutMarks name))) := by
  rw [key, if_neg (by simp [named]), maskOthers_upper_eq_scan]

/-- The scan can be cut before a character that ends no pair. -/
theorem scan_append (not_five : c ≠ '5') (not_zero : c ≠ '0') (before : List Char) :
    scan (before ++ c :: rest) = scan before ++ scan (c :: rest) := by
  induction before using scan.induct with
  | case1 => rfl
  | case2 more ih => simp only [List.cons_append, scan, ih, List.append_assoc]
  | case3 more ih => simp only [List.cons_append, scan, ih, List.append_assoc]
  | case4 d more not_fifteen not_thirty ih =>
    have head_more : ∀ x, c ≠ x → (more ++ c :: rest).head? = some x → more.head? = some x := by
      intro x differs head
      cases more with
      | nil => exact absurd (by simpa using head) differs
      | cons y more => exact head
    have no_fifteen := no_pair_of_ne not_fifteen
    have no_thirty := no_pair_of_ne not_thirty
    rw [List.cons_append, scan_cons, scan_cons no_fifteen no_thirty, ih, List.append_assoc]
    · exact fun pair => no_fifteen ⟨pair.1, head_more '5' not_five pair.2⟩
    · exact fun pair => no_thirty ⟨pair.1, head_more '0' not_zero pair.2⟩

end Scan

/-- Digits between which only deleted characters stand are read as a pair. -/
theorem scan_digits_brought_together {marks : List Char}
    (all : ∀ c ∈ marks, c ∈ deletedCharacters) (before after : List Char) :
    scan (withoutMarks (before ++ '1' :: (marks ++ '5' :: after))) =
      scan (withoutMarks before) ++ (fifteen ++ scan (withoutMarks after)) ∧
    scan (withoutMarks (before ++ '3' :: (marks ++ '0' :: after))) =
      scan (withoutMarks before) ++ (thirty ++ scan (withoutMarks after)) := by
  have joined : ∀ c d : Char, c ∉ deletedCharacters → d ∉ deletedCharacters →
      withoutMarks (before ++ c :: (marks ++ d :: after)) =
        withoutMarks before ++ c :: d :: withoutMarks after := by
    intro c d first second
    simpa [withoutMarks, first, second] using all
  rw [joined '1' '5' (by decide) (by decide), joined '3' '0' (by decide) (by decide),
    scan_append (by decide) (by decide), scan_append (by decide) (by decide), scan, scan]
  exact ⟨rfl, rfl⟩

/-- The identifier of a name that is not blank is found by deleting brackets and apostrophes and one
scan from the left; then underscores are deleted beside others until no two are in a row, and one is
put in front of a digit. So digits between which only such characters stand are a pair, and at no
place of the table does a substitution look for a character that another one has put in. -/
theorem ofName_by_single_scan :
    (∀ name : String, allBlank name.toList = false →
      ofName name = String.ofList (guardDigit (collapse (scan (withoutMarks name.toList))))) ∧
    (∀ name identifier : String, allBlank name.toList = false → (ofName name = identifier ↔
      ∃ single, IsCollapsed (scan (withoutMarks name.toList)) single ∧
        Guards single identifier.toList)) ∧
    (∀ before marks after : List Char, (∀ c ∈ marks, c ∈ deletedCharacters) →
      scan (withoutMarks (before ++ '1' :: (marks ++ '5' :: after))) =
        scan (withoutMarks before) ++ (fifteen ++ scan (withoutMarks after)) ∧
      scan (withoutMarks (before ++ '3' :: (marks ++ '0' :: after))) =
        scan (withoutMarks before) ++ (thirty ++ scan (withoutMarks after))) ∧
    ∀ done next later, substitutions = done ++ next :: later → ∀ text : List Char,
      (traceAll done text).map Traced.character = applyAll done text ∧
      ∀ x ∈ traceAll done text, x.character ∈ next.pattern → x.inserted = false := by
  refine ⟨?_, ?_, ?_, ?_⟩
  · intro name named
    rw [ofName, key_eq_scan named]
  · intro name identifier named
    simp only [isCollapsed_iff, guards_iff, exists_eq_left']
    rw [← String.toList_inj, ofName, String.toList_ofList, key_eq_scan named]
  · intro before marks after all
    exact scan_digits_brought_together all before after
  · intro done next later table text
    exact ⟨map_character_traceAll done text, fun x member sought =>
      original_of_mem_pattern table member sought⟩

/-- Pairs that overlap, a pair behind a deleted bracket, and an eight behind a pair. -/
example : ofName "1155 1(5 158" = "_1FIFTEEN5_FIFTEEN_FIFTEENEIGHT" := by decide +kernel

end UnitCatalogue.Identifier

import Mathlib.Data.List.Basic
import UnitCatalogue.Proofs.SingleScan

/-!
# Spellings that collide

Names that differ in the case of their letters, in the characters between their words, in brackets
and apostrophes, or in a slash written out as a word have one identifier. Upper case can be taken
before the substitutions, and a run of separators leaves one underscore, however long it is.
-/

namespace UnitCatalogue.Identifier

open Text

/-- The substitution looks for characters without case and puts in capital letters. -/
structure Substitution.IgnoresCase (substitution : Substitution) : Prop where
  caseless : ∀ c ∈ substitution.pattern, isCaseless c = true
  capital : ∀ c ∈ substitution.replacement, isPart c = true

theorem ignoresCase_substitutions : ∀ substitution ∈ substitutions, substitution.IgnoresCase := by
  have told : ∀ substitution ∈ substitutions, substitution.pattern.all isCaseless = true ∧
      substitution.replacement.all isPart = true := by
    decide +kernel
  intro substitution member
  obtain ⟨caseless, capital⟩ := told substitution member
  exact ⟨List.all_eq_true.mp caseless, List.all_eq_true.mp capital⟩

theorem toNat_of_isPart {c : Char} (part : isPart c = true) :
    '0'.toNat ≤ c.toNat ∧ c.toNat < 'a'.toNat := by
  rcases (by simpa [isPart] using part : (c.isUpper = true ∨ c.isDigit = true) ∨ c = '_') with
    (upper | digit) | rfl
  · obtain ⟨low, high⟩ : 'A'.val ≤ c.val ∧ c.val ≤ 'Z'.val := of_decide_eq_true upper
    exact ⟨Nat.le_trans (by decide) low, Nat.lt_of_le_of_lt high (by decide)⟩
  · obtain ⟨low, high⟩ := Bool.and_eq_true_iff.mp digit
    exact ⟨of_decide_eq_true low, Nat.lt_of_le_of_lt (of_decide_eq_true high) (by decide)⟩
  · decide

theorem upperChar_of_isPart {c : Char} (part : isPart c = true) : upperChar c = [c] :=
  upperChar_of_lt (toNat_of_isPart part).2

theorem upper_cons (c : Char) (rest : List Char) : upper (c :: rest) = upperChar c ++ upper rest :=
  List.flatMap_cons

theorem upper_append (front rest : List Char) : upper (front ++ rest) = upper front ++ upper rest :=
  List.flatMap_append

theorem upper_of_isPart {text : List Char} (parts : ∀ c ∈ text, isPart c = true) :
    upper text = text := by
  induction text with
  | nil => rfl
  | cons c rest ih =>
    rw [upper_cons, upperChar_of_isPart (parts c List.mem_cons_self),
      ih fun x member => parts x (List.mem_cons_of_mem _ member)]
    rfl

/-- A caseless character in front of the upper case has been in front before. -/
theorem head?_upper {c : Char} (caseless : isCaseless c = true) {text : List Char}
    (head : (upper text).head? = some c) : text.head? = some c := by
  cases text with
  | nil => exact head
  | cons x rest =>
    obtain ⟨u, more, shape⟩ : ∃ u more, upperChar x = u :: more :=
      List.exists_cons_of_ne_nil (by simp [upperChar, upperCodes_ne_nil])
    rw [upper_cons, shape] at head
    obtain rfl : u = c := by simpa using head
    have same : u = x := eq_of_mem_upperChar caseless (by simp [shape])
    rw [same, List.head?_cons]

section Case

variable {c d : Char} {replacement : List Char} (caseless : isCaseless c = true)
include caseless

theorem upper_replaceSingle (capital : ∀ u ∈ replacement, isPart u = true) (text : List Char) :
    upper (replaceSingle c replacement text) = replaceSingle c replacement (upper text) := by
  simp only [upper, replaceSingle, List.flatMap_assoc]
  congr 1
  funext x
  by_cases same : x = c
  · subst same
    have kept : replacement.flatMap upperChar = replacement := upper_of_isPart capital
    simp [upperChar_of_isCaseless caseless, kept]
  · have absent : ∀ u ∈ upperChar x, (if u = c then replacement else [u]) = [u] := by
      intro u member
      apply if_neg
      rintro rfl
      exact same (eq_of_mem_upperChar caseless member).symm
    rw [if_neg same, List.flatMap_singleton, List.flatMap_congr absent, List.flatMap_singleton']

variable (caseless' : isCaseless d = true)
include caseless'

/-- The upper case of a character that begins no pair begins none. -/
theorem replacePair_upperChar_append {x : Char} {rest : List Char}
    (apart : ¬(x = c ∧ rest.head? = some d)) :
    replacePair c d replacement (upperChar x ++ upper rest) =
      upperChar x ++ replacePair c d replacement (upper rest) := by
  by_cases same : x = c
  · subst same
    rw [upperChar_of_isCaseless caseless, List.singleton_append, replacePair_cons_of_head,
      List.singleton_append]
    rintro ⟨_, head⟩
    exact apart ⟨rfl, head?_upper caseless' head⟩
  · apply replacePair_append_of_not_mem
    intro member
    exact same (eq_of_mem_upperChar caseless member).symm

theorem upper_replacePair (capital : ∀ u ∈ replacement, isPart u = true) (text : List Char) :
    upper (replacePair c d replacement text) = replacePair c d replacement (upper text) := by
  induction text using replacePair.induct c d with
  | case1 x y rest same ih =>
    obtain ⟨rfl, rfl⟩ := same
    have pair : upper (x :: y :: rest) = x :: y :: upper rest := by
      rw [upper_cons, upper_cons, upperChar_of_isCaseless caseless,
        upperChar_of_isCaseless caseless']
      rfl
    rw [pair, replacePair, if_pos ⟨rfl, rfl⟩, replacePair, if_pos ⟨rfl, rfl⟩, upper_append,
      upper_of_isPart capital, ih]
  | case2 x y rest differs ih =>
    have apart : ¬(x = c ∧ (y :: rest).head? = some d) := by simpa using differs
    rw [replacePair, if_neg differs, upper_cons, ih, upper_cons x,
      replacePair_upperChar_append caseless caseless' apart]
  | case3 text short =>
    rcases text with _ | ⟨x, _ | ⟨y, rest⟩⟩
    · rfl
    · have apart : ¬(x = c ∧ ([] : List Char).head? = some d) := by simp
      exact (replacePair_upperChar_append caseless caseless' apart).symm
    · exact absurd rfl (short x y rest)

end Case

theorem Substitution.IgnoresCase.upper_apply {substitution : Substitution}
    (ignores : substitution.IgnoresCase) (text : List Char) :
    upper (substitution.apply text) = substitution.apply (upper text) := by
  obtain ⟨caseless, capital⟩ := ignores
  cases substitution with
  | single c replacement =>
    exact upper_replaceSingle (caseless c (by simp [pattern])) capital text
  | pair c d replacement =>
    exact upper_replacePair (caseless c (by simp [pattern])) (caseless d (by simp [pattern]))
      capital text

theorem upper_applyAll {table : List Substitution}
    (ignore : ∀ substitution ∈ table, substitution.IgnoresCase) (text : List Char) :
    upper (applyAll table text) = applyAll table (upper text) := by
  induction table generalizing text with
  | nil => rfl
  | cons substitution rest ih =>
    rw [applyAll_cons, ih fun other member => ignore other (List.mem_cons_of_mem _ member),
      (ignore substitution List.mem_cons_self).upper_apply, applyAll_cons]

theorem upper_substituteAll (text : List Char) :
    upper (substituteAll text) = substituteAll (upper text) :=
  upper_applyAll ignoresCase_substitutions text

theorem key_congr_upper {name other : List Char} (same : upper name = upper other) :
    key name = key other := by
  have blank : allBlank name = allBlank other := by
    rw [← allBlank_upper, same, allBlank_upper]
  simp only [key, blank, upper_substituteAll, same]

/-- The characters that become an underscore, and the underscore. -/
def wordBreaks : List Char := [' ', ',', '.', '-', '\\', '_', '\u00a0', '\u2013']

theorem scan_wordBreaks {run : List Char} (breaks : ∀ c ∈ run, c ∈ wordBreaks)
    (rest : List Char) : scan (run ++ rest) = List.replicate run.length '_' ++ scan rest := by
  have single : ∀ c ∈ wordBreaks, c ≠ '1' ∧ c ≠ '3' ∧ scanCharacter c = ['_'] := by
    have told : wordBreaks.all (fun c => c ≠ '1' ∧ c ≠ '3' ∧ scanCharacter c = ['_']) = true := by
      decide +kernel
    exact List.all_iff_forall_prop.mp told
  induction run with
  | nil => rfl
  | cons c run ih =>
    obtain ⟨not_one, not_three, underscore⟩ := single c (breaks c List.mem_cons_self)
    rw [List.cons_append, scan_cons (fun pair => not_one pair.1) (fun pair => not_three pair.1),
      underscore, ih fun x member => breaks x (List.mem_cons_of_mem _ member)]
    rfl

theorem withoutMarks_append (front rest : List Char) :
    withoutMarks (front ++ rest) = withoutMarks front ++ withoutMarks rest :=
  List.filter_append ..

theorem withoutMarks_wordBreaks {run : List Char} (breaks : ∀ c ∈ run, c ∈ wordBreaks) :
    withoutMarks run = run := by
  have apart : ∀ c ∈ wordBreaks, c ∉ deletedCharacters := List.all_iff_forall_prop.mp (by decide)
  rw [withoutMarks, List.filter_eq_self]
  intro c member
  simpa using apart c (breaks c member)

theorem collapse_scan_wordBreaks {run : List Char} (nonempty : run ≠ [])
    (breaks : ∀ c ∈ run, c ∈ wordBreaks) (before after : List Char) :
    collapse (scan (withoutMarks (before ++ run ++ after))) =
      collapse (scan (withoutMarks before) ++ '_' :: scan (withoutMarks after)) := by
  obtain ⟨c, more, rfl⟩ := List.exists_cons_of_ne_nil nonempty
  have no_second : ∀ c ∈ wordBreaks, c ≠ '5' ∧ c ≠ '0' := List.all_iff_forall_prop.mp (by decide)
  obtain ⟨not_five, not_zero⟩ := no_second c (breaks c List.mem_cons_self)
  rw [withoutMarks_append, withoutMarks_append, withoutMarks_wordBreaks breaks, List.append_assoc,
    List.cons_append, scan_append not_five not_zero, ← List.cons_append, scan_wordBreaks breaks]
  exact collapse_underscores _ _ more.length

theorem key_wordBreaks {run other : List Char} (nonempty : run ≠ []) (nonempty' : other ≠ [])
    (breaks : ∀ c ∈ run, c ∈ wordBreaks) (breaks' : ∀ c ∈ other, c ∈ wordBreaks)
    {before after : List Char} (named : allBlank (before ++ run ++ after) = false)
    (named' : allBlank (before ++ other ++ after) = false) :
    key (before ++ run ++ after) = key (before ++ other ++ after) := by
  rw [key_eq_scan named, key_eq_scan named', collapse_scan_wordBreaks nonempty breaks,
    collapse_scan_wordBreaks nonempty' breaks']

theorem key_congr_withoutMarks {name other : List Char} (named : allBlank name = false)
    (named' : allBlank other = false) (same : withoutMarks name = withoutMarks other) :
    key name = key other := by
  rw [key_eq_scan named, key_eq_scan named', same]

theorem allBlank_of_mem {text : List Char} {c : Char} (member : c ∈ text)
    (visible : isBlank c = false) : allBlank text = false := by
  rw [allBlank, List.all_eq_false]
  exact ⟨c, member, by simp [visible]⟩

/-- A slash is scanned as the word for it between two blanks. -/
theorem scan_slash (before after : List Char) :
    scan (withoutMarks (before ++ '/' :: after)) =
      scan (withoutMarks (before ++ ' ' :: 'p' :: 'e' :: 'r' :: ' ' :: after)) := by
  have slash : scanCharacter '/' = ['_', 'P', 'E', 'R', '_'] := rfl
  have letters : scanCharacter ' ' = ['_'] ∧ scanCharacter 'p' = ['P'] ∧
      scanCharacter 'e' = ['E'] ∧ scanCharacter 'r' = ['R'] := by
    decide +kernel
  have left : withoutMarks (before ++ '/' :: after) =
      withoutMarks before ++ '/' :: withoutMarks after := withoutMarks_append ..
  have right : withoutMarks (before ++ ' ' :: 'p' :: 'e' :: 'r' :: ' ' :: after) =
      withoutMarks before ++ ' ' :: 'p' :: 'e' :: 'r' :: ' ' :: withoutMarks after :=
    withoutMarks_append ..
  have step : ∀ c ∈ ['/', ' ', 'p', 'e', 'r'], ∀ rest,
      scan (c :: rest) = scanCharacter c ++ scan rest := by
    have told : ['/', ' ', 'p', 'e', 'r'].all (fun c => c ≠ '1' ∧ c ≠ '3') = true := by decide
    intro c member rest
    obtain ⟨not_one, not_three⟩ := List.all_iff_forall_prop.mp told c member
    exact scan_cons (fun pair => not_one pair.1) (fun pair => not_three pair.1)
  rw [left, right, scan_append (by decide) (by decide), scan_append (by decide) (by decide)]
  simp only [step, List.mem_cons, true_or, or_true, slash, letters, List.cons_append,
    List.nil_append]

theorem key_slash (before after : List Char) :
    key (before ++ '/' :: after) = key (before ++ ' ' :: 'p' :: 'e' :: 'r' :: ' ' :: after) := by
  rw [key_eq_scan (allBlank_of_mem (c := '/') (by simp) (by decide)),
    key_eq_scan (allBlank_of_mem (c := 'p') (by simp) (by decide)), scan_slash]

/-- Names with the same upper case have the same identifier. In a name that is not blank, a run of
separators may be exchanged for any other run, and brackets and apostrophes may be put in or left
out, as long as it does not become blank. A slash stands for the word. -/
theorem spellings_collide :
    (∀ a b : String, upper a.toList = upper b.toList → ofName a = ofName b) ∧
    (∀ before run other after : String, run ≠ "" → other ≠ "" →
      (∀ c ∈ run.toList, c ∈ [' ', ',', '.', '-', '\\', '_', '\u00a0', '\u2013']) →
      (∀ c ∈ other.toList, c ∈ [' ', ',', '.', '-', '\\', '_', '\u00a0', '\u2013']) →
      allBlank (before ++ run ++ after).toList = false →
      allBlank (before ++ other ++ after).toList = false →
        ofName (before ++ run ++ after) = ofName (before ++ other ++ after)) ∧
    (∀ a b : String, allBlank a.toList = false → allBlank b.toList = false →
      (a.toList.filter fun c => c ∉ ['[', ']', '(', ')', '\'']) =
        (b.toList.filter fun c => c ∉ ['[', ']', '(', ')', '\'']) → ofName a = ofName b) ∧
    ∀ a b : String, ofName (a ++ "/" ++ b) = ofName (a ++ " per " ++ b) := by
  refine ⟨?_, ?_, ?_, ?_⟩
  · intro a b same
    rw [ofName, key_congr_upper same, ofName]
  · intro before run other after nonempty nonempty' breaks breaks' named named'
    have texts : ∀ middle : String, (before ++ middle ++ after).toList =
        before.toList ++ middle.toList ++ after.toList := by
      intro middle
      rw [String.toList_append, String.toList_append]
    rw [texts] at named named'
    rw [ofName, ofName, texts, texts, key_wordBreaks _ _ breaks breaks' named named']
    · exact fun empty => nonempty (String.toList_inj.mp empty)
    · exact fun empty => nonempty' (String.toList_inj.mp empty)
  · intro a b named named' same
    rw [ofName, key_congr_withoutMarks named named' same, ofName]
  · intro a b
    have slash : (a ++ "/" ++ b).toList = a.toList ++ '/' :: b.toList := by simp
    have word : (a ++ " per " ++ b).toList =
        a.toList ++ ' ' :: 'p' :: 'e' :: 'r' :: ' ' :: b.toList := by simp
    rw [ofName, ofName, slash, word, key_slash]

/-- A letter with an upper case of two letters, a comma between blanks, brackets around digits that
become a pair, and a slash. -/
theorem ton_and_calorie_spellings :
    ofName "Maß" = ofName "MASS" ∧ ofName "ton,register" = ofName "ton \u2013 register" ∧
    ofName "1(5) °C calorie" = ofName "15 °C calorie" ∧ ofName "m/s" = ofName "m per s" := by
  obtain ⟨case, breaks, marks, slash⟩ := spellings_collide
  refine ⟨case "Maß" "MASS" (by decide +kernel), ?_, ?_, slash "m" "s"⟩
  · exact breaks "ton" "," " \u2013 " "register" (by decide) (by decide) (by simp) (by simp)
      (by decide +kernel) (by decide +kernel)
  · exact marks "1(5) °C calorie" "15 °C calorie" (by decide +kernel) (by decide +kernel)
      (by decide +kernel)

end UnitCatalogue.Identifier

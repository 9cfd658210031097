import UnitCatalogue.Proofs.StringLiterals
import UnitCatalogue.Sheet.Failure

/-!
# Labels in messages

The message of a missing column quotes its label in a style of its own. A label that is quoted in
this style decodes as a string literal does, to the label and to nothing else. It is the literal of
the label exactly when the label has no apostrophe and, behind its first character, no combining
character that leaves a mark.
-/

namespace UnitCatalogue.Text

/-- The two sound marks of halfwidth katakana. -/
def IsSoundMark (c : Char) : Prop := c = '\uff9e' ∨ c = '\uff9f'

/-- The Unicode property Grapheme_Extend, which the sound marks have although they are letters. -/
def ExtendsGrapheme (c : Char) : Prop := isCombining c = true ∨ IsSoundMark c

/-- The characters that the styles write in two ways behind the first character. -/
def IsSeenCombining (c : Char) : Prop := isCombining c = true ∧ isHidden c = false

theorem IsSoundMark.isCombining_eq_false {c : Char} (mark : IsSoundMark c) :
    isCombining c = false := by
  rcases mark with rfl | rfl
  · decide +kernel
  · decide +kernel

theorem not_isSeenCombining_iff (c : Char) : ¬IsSeenCombining c ↔
    (ExtendsGrapheme c → isHidden c = false → IsSoundMark c) := by
  constructor
  · rintro unseen (combining | mark) seen
    · exact absurd ⟨combining, seen⟩ unseen
    · exact mark
  · rintro marks ⟨combining, seen⟩
    have mark := marks (Or.inl combining) seen
    rw [mark.isCombining_eq_false] at combining
    cases combining

theorem shortEscape_of_isCombining {c : Char} (combining : isCombining c = true) :
    shortEscape? c = none := by
  unfold shortEscape?
  split
  case h_7 => rfl
  all_goals exact absurd combining (by decide +kernel)

theorem escape_apostrophe (first : Bool) : QuoteStyle.message.escape first '\'' = ['\''] ∧
    QuoteStyle.literal.escape first '\'' = ['\\', '\''] := by
  cases first
  · exact ⟨rfl, rfl⟩
  · exact ⟨rfl, rfl⟩

theorem escape_of_isSeenCombining {c : Char} (combining : IsSeenCombining c) :
    QuoteStyle.message.escape false c = numberEscape c ∧
      QuoteStyle.literal.escape false c = [c] := by
  obtain ⟨combining, seen⟩ := combining
  have long := shortEscape_of_isCombining combining
  have not_apostrophe : c ≠ '\'' := by
    rintro rfl
    exact absurd combining (by decide +kernel)
  simp [QuoteStyle.escape, QuoteStyle.message, QuoteStyle.literal, long, combining, seen,
    not_apostrophe]

theorem escape_alike {first : Bool} {c : Char} (not_apostrophe : c ≠ '\'')
    (alike : first = false → ¬IsSeenCombining c) :
    QuoteStyle.message.escape first c = QuoteStyle.literal.escape first c := by
  cases long : shortEscape? c with
  | some letter => simp [QuoteStyle.escape, long]
  | none =>
    cases combining : isCombining c with
    | false => simp [QuoteStyle.escape, long, combining, not_apostrophe]
    | true =>
      cases first with
      | true =>
        simp [QuoteStyle.escape, long, combining, not_apostrophe]
      | false =>
        have hidden : isHidden c = true := by
          rw [← Bool.not_eq_false]
          exact fun seen => alike rfl ⟨combining, seen⟩
        simp [QuoteStyle.escape, long, combining, hidden, not_apostrophe]

/-- Where the styles write a character in two ways, one leaves it as it is and the other begins an
escape, so nothing that follows makes up for the difference. -/
theorem escape_append_eq_iff (first : Bool) (c : Char) (rest rest' : List Char) :
    QuoteStyle.message.escape first c ++ rest = QuoteStyle.literal.escape first c ++ rest' ↔
      c ≠ '\'' ∧ (first = false → ¬IsSeenCombining c) ∧ rest = rest' := by
  by_cases apostrophe : c = '\''
  · subst apostrophe
    rw [(escape_apostrophe first).1, (escape_apostrophe first).2]
    simp
  · by_cases apart : first = false ∧ IsSeenCombining c
    · obtain ⟨rfl, combining⟩ := apart
      have not_backslash : c ≠ '\\' := by
        rintro rfl
        exact absurd combining.1 (by decide +kernel)
      rw [(escape_of_isSeenCombining combining).1, (escape_of_isSeenCombining combining).2]
      simp [numberEscape, not_backslash.symm, combining]
    · have alike : first = false → ¬IsSeenCombining c := not_and.mp apart
      rw [escape_alike apostrophe alike, List.append_cancel_left_eq]
      exact ⟨fun same => ⟨apostrophe, alike, same⟩, fun conditions => conditions.2.2⟩

theorem flatMap_escape_eq_iff (text : List Char) (after : List Char) :
    text.flatMap (QuoteStyle.message.escape false) ++ after =
        text.flatMap (QuoteStyle.literal.escape false) ++ after ↔
      ∀ c ∈ text, c ≠ '\'' ∧ ¬IsSeenCombining c := by
  induction text with
  | nil => simp
  | cons c rest ih =>
    rw [List.flatMap_cons, List.flatMap_cons, List.append_assoc, List.append_assoc,
      escape_append_eq_iff, ih, List.forall_mem_cons]
    simp only [true_imp_iff, and_assoc]

theorem quote_eq_iff (text : List Char) :
    QuoteStyle.message.quote text = QuoteStyle.literal.quote text ↔
      '\'' ∉ text ∧ ∀ c ∈ text.tail, ¬IsSeenCombining c := by
  cases text with
  | nil => simp [QuoteStyle.quote, QuoteStyle.body]
  | cons c rest =>
    simp only [QuoteStyle.quote, QuoteStyle.body, List.cons_append, List.append_assoc,
      List.cons.injEq, true_and, escape_append_eq_iff, flatMap_escape_eq_iff, List.tail_cons,
      List.mem_cons, not_or, forall_and, reduceCtorEq, false_imp_iff]
    constructor
    · rintro ⟨not_first, not_later, unseen⟩
      exact ⟨⟨Ne.symm not_first, fun later => not_later _ later rfl⟩, unseen⟩
    · rintro ⟨⟨not_first, not_later⟩, unseen⟩
      refine ⟨Ne.symm not_first, ?_, unseen⟩
      rintro c member rfl
      exact not_later member

theorem shown_eq_literal_iff (text : String) : shown text = literal text ↔
    '\'' ∉ text.toList ∧ ∀ c ∈ text.toList.tail, ¬IsSeenCombining c := by
  rw [shown, literal, String.ofList_inj, quote_eq_iff]

/-- The text is a literal of the other text and of no third one, and a reader gives this text back
and stops behind the literal, whatever follows. -/
structure DecodesTo (quoted text : List Char) : Prop where
  spelled : ∀ other, SpellsLiteral quoted other ↔ other = text
  read : ∀ after, readQuoted (quoted ++ after) = some (text, after)

theorem SpellsLiteral.decodesTo {quoted text : List Char} (literal : SpellsLiteral quoted text) :
    DecodesTo quoted text where
  spelled other := by
    constructor
    · intro decoded
      exact (decoded.unique literal (rfl : quoted ++ [] = quoted ++ [])).2.1
    · rintro rfl
      exact literal
  read := literal.readQuoted

theorem decodesTo_shown (text : String) : DecodesTo (shown text).toList text.toList := by
  rw [shown, String.toList_ofList]
  exact (spellsLiteral_quote .message text.toList).decodesTo

theorem decodesTo_literal (text : String) : DecodesTo (literal text).toList text.toList := by
  rw [literal, String.toList_ofList]
  exact (spellsLiteral_quote .literal text.toList).decodesTo

theorem shown_injective {text other : String} (same : shown text = shown other) :
    text = other := by
  have read := (decodesTo_shown text).read []
  rw [same, (decodesTo_shown other).read []] at read
  exact (String.toList_inj.mp (congrArg Prod.fst (Option.some.inj read))).symm

/-- What stands behind the fixed words of the message decodes to the label, as the literal of the
label does, and no other label has the same message. The two quoted texts are the same exactly when
the label has no apostrophe and, behind its first character, no character of Grapheme_Extend that
leaves a mark, other than the two sound marks. -/
theorem label_decodes_from_message (label : String) :
    (∃ quoted : String,
      (Sheet.Failure.columnMissing label).message =
        "Header row has no column labelled " ++ quoted ∧
      DecodesTo quoted.toList label.toList ∧ DecodesTo (literal label).toList label.toList ∧
      (quoted = literal label ↔ '\'' ∉ label.toList ∧
        ∀ c ∈ label.toList.tail, ExtendsGrapheme c → isHidden c = false → IsSoundMark c)) ∧
    ∀ other, (Sheet.Failure.columnMissing other).message =
      (Sheet.Failure.columnMissing label).message → other = label := by
  refine ⟨⟨shown label, rfl, decodesTo_shown label, decodesTo_literal label, ?_⟩, ?_⟩
  · simp only [shown_eq_literal_iff, not_isSeenCombining_iff]
  · intro other same
    exact shown_injective ((String.append_right_inj _).mp same)

/-- A sound mark behind other characters extends a grapheme and leaves a mark, but both styles leave
it as it is, so it makes no difference between them. -/
theorem sound_mark_quoted_alike :
    ExtendsGrapheme '\uff9e' ∧ isHidden '\uff9e' = false ∧
    (Sheet.Failure.columnMissing "a\uff9e").message =
      "Header row has no column labelled " ++ literal "a\uff9e" ∧
    literal "a\uff9e" = "\"a\uff9e\"" ∧
    ¬∀ label : String, shown label = literal label ↔ '\'' ∉ label.toList ∧
      ∀ c ∈ label.toList.tail, ¬(ExtendsGrapheme c ∧ isHidden c = false) := by
  have in_property : ExtendsGrapheme '\uff9e' := Or.inr (Or.inl rfl)
  have seen : isHidden '\uff9e' = false := by decide +kernel
  have alike : shown "a\uff9e" = literal "a\uff9e" := by decide +kernel
  refine ⟨in_property, seen, congrArg ("Header row has no column labelled " ++ ·) alike,
    by decide +kernel, fun claimed => ?_⟩
  exact ((claimed "a\uff9e").mp alike).2 '\uff9e' (by decide) ⟨in_property, seen⟩

/-- An apostrophe is escaped in literals only, and an accent behind its letter in messages only. -/
example : shown "d'e\u0301" = "\"d'e\\u\x7b301\x7d\"" ∧
    literal "d'e\u0301" = "\"d\\'e\u0301\"" := by decide +kernel

end UnitCatalogue.Text

import UnitCatalogue.Proofs.ModuleLines

/-!
# Reading a module back

A grammar for the lines of a unit, stated without the functions that write them. Every line of a
rendered module has one reading, and the readings give back the rows that were kept: their
identifiers and their exact texts.
-/

namespace UnitCatalogue

/-- How a declaration spells the texts of its unit. -/
structure Spelling where
  name : String
  code : String
  suffix : String

inductive SpellsOption : String → Option String → Prop where
  | absent : SpellsOption "None" none
  | present {spelling text : String} : Text.SpellsLiteral spelling.toList text.toList →
      SpellsOption ("Some(" ++ spelling ++ ")") (some text)

/-- The line can be read as the declaration of the unit, spelled in this way. -/
structure Declares (letters : Char → Bool) (line : String) (spelling : Spelling)
    (unit : Declared) : Prop where
  legal : IsLegalName letters unit.identifier
  name : Text.SpellsLiteral spelling.name.toList unit.entry.name.toList
  code : SpellsOption spelling.code unit.entry.code
  suffix : SpellsOption spelling.suffix unit.entry.suffix
  line_eq : line = "pub const " ++ unit.identifier ++
    ": UnitDescriptor = UnitDescriptor \x7b name: " ++ spelling.name ++ ", code: " ++
      spelling.code ++ ", suffix: " ++ spelling.suffix ++ " \x7d;"

/-- The line declares this unit, and there is no other way to read it as a declaration. -/
def DeclaresOnly (letters : Char → Bool) (line : String) (unit : Declared) : Prop :=
  ∃ spelling, ∀ spelling' unit',
    Declares letters line spelling' unit' ↔ spelling' = spelling ∧ unit' = unit

def Registers (letters : Char → Bool) (line identifier : String) : Prop :=
  IsLegalName letters identifier ∧ line = "    " ++ identifier ++ ","

def RegistersOnly (letters : Char → Bool) (line identifier : String) : Prop :=
  ∀ identifier', Registers letters line identifier' ↔ identifier' = identifier

variable {letters : Char → Bool}

/-- Behind an optional text nothing has to be known of what follows. -/
theorem SpellsOption.unique {spelling spelling' : String} {value value' : Option String}
    {after after' : List Char} (first : SpellsOption spelling value)
    (second : SpellsOption spelling' value')
    (same : spelling.toList ++ after = spelling'.toList ++ after') :
    spelling = spelling' ∧ value = value' ∧ after = after' := by
  cases first with
  | absent =>
    cases second with
    | absent => exact ⟨rfl, rfl, List.append_cancel_left same⟩
    | present _ => simp at same
  | @present inner text literal =>
    cases second with
    | absent => simp at same
    | @present inner' text' literal' =>
      simp only [String.toList_append, List.append_assoc] at same
      obtain ⟨spellings, texts, rests⟩ := literal.unique literal' (List.append_cancel_left same)
      rw [String.toList_inj] at spellings texts
      exact ⟨by rw [spellings], by rw [texts], List.append_cancel_left rests⟩

theorem spellsOption_optionalLiteral (value : Option String) :
    SpellsOption (optionalLiteral value) value := by
  cases value with
  | none => exact .absent
  | some text =>
    refine .present ?_
    rw [Text.literal, String.toList_ofList]
    exact Text.spellsLiteral_quote .literal text.toList

def Declared.spelling (unit : Declared) : Spelling :=
  ⟨Text.literal unit.entry.name, optionalLiteral unit.entry.code,
    optionalLiteral unit.entry.suffix⟩

theorem declares_line {unit : Declared} (legal : IsLegalName letters unit.identifier) :
    Declares letters unit.line unit.spelling unit where
  legal := legal
  name := by
    rw [Declared.spelling, Text.literal, String.toList_ofList]
    exact Text.spellsLiteral_quote .literal unit.entry.name.toList
  code := spellsOption_optionalLiteral unit.entry.code
  suffix := spellsOption_optionalLiteral unit.entry.suffix
  line_eq := unit.line_eq

/-- A legal name ends where a character stands that names cannot hold. -/
theorem IsLegalName.unique {name name' : String} {stop : Char} {after after' : List Char}
    (legal : IsLegalName letters name) (legal' : IsLegalName letters name')
    (stops : isNameCharacter letters stop = false)
    (same : name.toList ++ stop :: after = name'.toList ++ stop :: after') :
    name = name' ∧ after = after' := by
  have cut := congrArg (Text.pieces stop) same
  rw [Text.pieces_append_cut (legal.not_mem stops),
    Text.pieces_append_cut (legal'.not_mem stops)] at cut
  have names : name.toList = name'.toList := (List.cons.inj cut).1
  rw [names] at same
  exact ⟨String.toList_inj.mp names, (List.cons.inj (List.append_cancel_left same)).2⟩

theorem Declares.unique {line : String} {spelling spelling' : Spelling} {unit unit' : Declared}
    (first : Declares letters line spelling unit)
    (second : Declares letters line spelling' unit') : spelling = spelling' ∧ unit = unit' := by
  have same := congrArg String.toList (first.line_eq.symm.trans second.line_eq)
  have colon : ": UnitDescriptor = UnitDescriptor \x7b name: ".toList =
      ':' :: " UnitDescriptor = UnitDescriptor \x7b name: ".toList := by decide
  simp only [String.toList_append, List.append_assoc] at same
  replace same := List.append_cancel_left same
  rw [colon, List.cons_append, List.cons_append] at same
  obtain ⟨identifiers, same⟩ := first.legal.unique second.legal rfl same
  obtain ⟨names, texts, same⟩ := first.name.unique second.name (List.append_cancel_left same)
  obtain ⟨codes, values, same⟩ := first.code.unique second.code (List.append_cancel_left same)
  obtain ⟨suffixes, values', _⟩ := first.suffix.unique second.suffix
    (List.append_cancel_left same)
  obtain ⟨name, code, suffix⟩ := spelling
  obtain ⟨name', code', suffix'⟩ := spelling'
  obtain ⟨identifier, ⟨entryName, entryCode, entrySuffix⟩⟩ := unit
  obtain ⟨identifier', ⟨entryName', entryCode', entrySuffix'⟩⟩ := unit'
  simp only [String.toList_inj] at names texts
  simp only at identifiers codes values suffixes values'
  subst identifiers names texts codes values suffixes values'
  exact ⟨rfl, rfl⟩

theorem declaresOnly_line {unit : Declared} (legal : IsLegalName letters unit.identifier) :
    DeclaresOnly letters unit.line unit := by
  refine ⟨unit.spelling, fun spelling' unit' => ⟨?_, ?_⟩⟩
  · intro declares
    exact declares.unique (declares_line legal)
  · rintro ⟨rfl, rfl⟩
    exact declares_line legal

theorem DeclaresOnly.unit_unique {line : String} {unit unit' : Declared}
    (first : DeclaresOnly letters line unit) (second : DeclaresOnly letters line unit') :
    unit = unit' := by
  obtain ⟨spelling, reads⟩ := first
  obtain ⟨spelling', reads'⟩ := second
  exact ((reads' spelling unit).mp ((reads spelling unit).mpr ⟨rfl, rfl⟩)).2

theorem registersOnly_registrationLine {identifier : String}
    (legal : IsLegalName letters identifier) :
    RegistersOnly letters (registrationLine identifier) identifier := by
  intro identifier'
  constructor
  · rintro ⟨legal', same⟩
    have texts := congrArg String.toList same
    simp only [registrationLine, String.toList_append, List.append_assoc] at texts
    exact (legal'.unique legal rfl (List.append_cancel_left texts).symm).1
  · rintro rfl
    exact ⟨legal, rfl⟩

/-- The text of a rendering up to the end of the array has fixed lines, one line for each
sentinel and each kept row, and one entry of the array for each of them, all in order; each of
these lines has one reading, which is the unit with its exact texts. What follows the array depends
on the kept aliases alone, and two renderings with the same lines keep the same rows. -/
theorem render_reads_back (letters : Char → Bool) (entries : List Entry)
    (aliases : List Alias) :
    let text := (render entries aliases).text
    let units := sentinels ++ keptRows entries
    List.Forall₂ (DeclaresOnly letters) (constantLines text) units ∧
    List.Forall₂ (RegistersOnly letters) (arrayLines text) (units.map Declared.identifier) ∧
    unitPart text = openingLines ++ sentinelCommentLines ++
      (constantLines text).take sentinels.length ++ [""] ++
      (constantLines text).drop sentinels.length ++ ["", arrayHead] ++ arrayLines text ∧
    textLines text = unitPart text ++ arrayEnd ::
      textLines (aliasSection ((Catalogue.addAll {} entries).keptAliases aliases) ++ closing) ∧
    ∀ otherEntries otherAliases,
      unitPart (render otherEntries otherAliases).text = unitPart text →
        keptRows otherEntries = keptRows entries := by
  have declarations : ∀ entries aliases, List.Forall₂ (DeclaresOnly letters)
      (constantLines (render entries aliases).text) (sentinels ++ keptRows entries) := by
    intro entries aliases
    rw [constantLines_render, List.forall₂_map_left_iff, List.forall₂_same]
    intro unit declared
    exact declaresOnly_line (isLegalName_declared letters entries unit declared)
  refine ⟨declarations entries aliases, ?_, ?_, ?_, ?_⟩
  · rw [arrayLines_render, List.forall₂_map_left_iff, List.forall₂_map_right_iff,
      List.forall₂_same]
    intro unit declared
    exact registersOnly_registrationLine (isLegalName_declared letters entries unit declared)
  · rw [unitPart_render, constantLines_render, arrayLines_render, layout, front]
    simp
  · rw [textLines_render, unitPart_render]
  · intro otherEntries otherAliases same
    have lines : constantLines (render otherEntries otherAliases).text =
        constantLines (render entries aliases).text := by
      rw [constantLines, constantLines, same]
    have other := declarations otherEntries otherAliases
    rw [lines] at other
    have units := List.right_unique_forall₂'
      (fun _ _ _ first second => first.unit_unique second) other (declarations entries aliases)
    exact List.append_cancel_left units

end UnitCatalogue

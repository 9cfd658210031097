import Mathlib.Data.List.Forall2
import UnitCatalogue.Proofs.CatalogueRuns
import UnitCatalogue.Proofs.StringLiterals
import UnitCatalogue.Rendering
import UnitCatalogue.Text.Pieces

/-!
# The lines of a rendered module

The text of a module is cut into lines and read back. Up to the end of the array of all units
every line is either fixed or belongs to one unit, and the lines of a unit can be read in one way
only. No text of a row ends a line or a literal.
-/

namespace UnitCatalogue

def textLines (text : String) : List String :=
  (Text.pieces '\n' text.toList).map String.ofList

/-- The lines from the start up to the first that ends an array. -/
def unitPart (text : String) : List String := (textLines text).takeWhile (· != arrayEnd)

def beginsWith (front line : String) : Bool := front.toList.isPrefixOf line.toList

/-- The lines that declare a constant, up to the end of the array. -/
def constantLines (text : String) : List String := (unitPart text).filter (beginsWith "pub const ")

/-- The lines between the first and the last line of the array. -/
def arrayLines (text : String) : List String :=
  ((unitPart text).dropWhile (· != arrayHead)).tail

theorem lines_nil : lines [] = "" := rfl

theorem lines_cons (line : String) (rest : List String) :
    lines (line :: rest) = line ++ "\n" ++ lines rest := by
  apply String.toList_inj.mp
  simp [lines, String.toList_join]

theorem lines_append (first second : List String) :
    lines (first ++ second) = lines first ++ lines second := by
  apply String.toList_inj.mp
  simp [lines, String.toList_join]

theorem textLines_lines {ls : List String} (whole : ∀ line ∈ ls, '\n' ∉ line.toList)
    (rest : String) : textLines (lines ls ++ rest) = ls ++ textLines rest := by
  induction ls with
  | nil => simp [lines, textLines]
  | cons line more ih =>
    have tail := ih fun other member => whole other (List.mem_cons_of_mem _ member)
    have head := Text.pieces_append_cut (whole line List.mem_cons_self) (lines more ++ rest).toList
    rw [lines_cons, List.cons_append, ← tail]
    simp only [textLines, String.toList_append, List.append_assoc] at head ⊢
    rw [show ("\n" : String).toList = ['\n'] from rfl, List.singleton_append, head]
    simp

def Declared.line (unit : Declared) : String := declarationLine unit.identifier unit.entry

theorem Declared.line_eq (unit : Declared) : unit.line =
    "pub const " ++ unit.identifier ++ ": UnitDescriptor = UnitDescriptor \x7b name: "
      ++ Text.literal unit.entry.name ++ ", code: " ++ optionalLiteral unit.entry.code
      ++ ", suffix: " ++ optionalLiteral unit.entry.suffix ++ " \x7d;" := rfl

/-- The lines of a module with these units, up to the array. -/
def front (units : List Declared) : List String :=
  openingLines ++ sentinelCommentLines ++ sentinels.map Declared.line ++ [""]
    ++ units.map Declared.line ++ [""]

/-- The lines of a module with these units, up to the end of the array. -/
def layout (units : List Declared) : List String :=
  front units ++ arrayHead :: (sentinels ++ units).map (registrationLine ·.identifier)

theorem join_declarations (units : List Declared) :
    String.join ((units.map Declared.item).map Item.declaration) =
      lines (units.map Declared.line) := by
  simp [lines, Declared.item, declaration, Declared.line, Function.comp_def]

theorem join_registrations (units : List Declared) :
    String.join ((units.map Declared.item).map Item.registration) =
      lines (units.map (registrationLine ·.identifier)) := by
  simp [lines, Declared.item, registration, Function.comp_def]

theorem text_render (entries : List Entry) (aliases : List Alias) :
    (render entries aliases).text = lines (layout (keptRows entries) ++ [arrayEnd]) ++
      (aliasSection ((Catalogue.addAll {} entries).keptAliases aliases) ++ closing) := by
  simp only [render, assemble, registrationArray, Catalogue.items_addAll, sentinelItems,
    ← List.map_append, join_declarations, join_registrations, opening, sentinelComment, layout,
    front, lines_append, lines_cons, lines_nil, String.append_empty, ← String.append_assoc]

theorem newline_not_mem_literal (text : String) : '\n' ∉ (Text.literal text).toList := by
  rw [Text.literal, String.toList_ofList]
  exact Text.newline_not_mem_quote .literal text.toList

theorem newline_not_mem_optionalLiteral (value : Option String) :
    '\n' ∉ (optionalLiteral value).toList := by
  cases value with
  | none => decide
  | some text =>
    simpa [optionalLiteral, String.toList_append] using newline_not_mem_literal text

theorem newline_not_mem_line {unit : Declared} (whole : '\n' ∉ unit.identifier.toList) :
    '\n' ∉ unit.line.toList := by
  simp [Declared.line_eq, whole, newline_not_mem_literal, newline_not_mem_optionalLiteral]

theorem newline_not_mem_registrationLine {identifier : String}
    (whole : '\n' ∉ identifier.toList) : '\n' ∉ (registrationLine identifier).toList := by
  simp [registrationLine, whole]

/-- The lines that every module has before the array. -/
def fixedLines : List String := openingLines ++ sentinelCommentLines ++ [""]

/-- What tells a line from the lines of units and from the first and the last of the array. -/
structure IsPlain (line : String) : Prop where
  whole : '\n' ∉ line.toList
  not_head : line ≠ arrayHead
  not_end : line ≠ arrayEnd
  not_constant : beginsWith "pub const " line = false

def plainCharacters (cs : List Char) : Bool :=
  !cs.contains '\n' && cs.head? != some 's' && cs.head? != some ']' &&
    !(['p', 'u', 'b', ' ', 'c'].isPrefixOf cs)

theorem isPlain_ofList {cs : List Char} (plain : plainCharacters cs = true) :
    IsPlain (String.ofList cs) := by
  simp only [plainCharacters, Bool.and_eq_true, Bool.not_eq_true', List.contains_eq_mem,
    decide_eq_false_iff_not, bne_iff_ne] at plain
  obtain ⟨⟨⟨whole, not_s⟩, not_bracket⟩, not_constant⟩ := plain
  refine ⟨by rwa [String.toList_ofList], ?_, ?_, ?_⟩
  · intro same
    rw [← String.toList_ofList (l := cs), same] at not_s
    exact not_s (by decide)
  · intro same
    rw [← String.toList_ofList (l := cs), same] at not_bracket
    exact not_bracket (by decide)
  · by_contra constant
    rw [Bool.not_eq_false, beginsWith, List.isPrefixOf_iff_prefix,
      String.toList_ofList (l := cs)] at constant
    have start : ['p', 'u', 'b', ' ', 'c'] <+: "pub const ".toList := by decide
    have begins := List.isPrefixOf_iff_prefix.mpr (start.trans constant)
    rw [begins] at not_constant
    cases not_constant

theorem isPlain_fixedLines : ∀ line ∈ fixedLines, IsPlain line := by
  simp only [fixedLines, openingLines, sentinelCommentLines, List.cons_append, List.nil_append,
    List.forall_mem_cons]
  repeat' apply And.intro
  -- The characters of each line are found by unification; decoding its bytes would be slow.
  all_goals first
    | exact List.forall_mem_nil _
    | apply isPlain_ofList; decide

theorem mem_front {units : List Declared} {line : String} (member : line ∈ front units) :
    line ∈ fixedLines ∨ ∃ unit ∈ sentinels ++ units, line = unit.line := by
  simp only [front, List.mem_append, List.mem_map] at member
  simp only [fixedLines, List.mem_append]
  rcases member with ((((first | comment) | ⟨unit, inside, rfl⟩) | blank) | ⟨unit, inside, rfl⟩) |
    blank
  · exact Or.inl (Or.inl (Or.inl first))
  · exact Or.inl (Or.inl (Or.inr comment))
  · exact Or.inr ⟨unit, Or.inl inside, rfl⟩
  · exact Or.inl (Or.inr blank)
  · exact Or.inr ⟨unit, Or.inr inside, rfl⟩
  · exact Or.inl (Or.inr blank)

theorem beginsWith_line (unit : Declared) : beginsWith "pub const " unit.line = true := by
  rw [beginsWith, List.isPrefixOf_iff_prefix, Declared.line_eq]
  simp only [String.toList_append, List.append_assoc]
  exact List.prefix_append _ _

theorem line_ne {unit : Declared} {other : String}
    (differs : beginsWith "pub const " other = false) : unit.line ≠ other := by
  rintro rfl
  simp [beginsWith_line] at differs

theorem beginsWith_registrationLine (identifier : String) :
    beginsWith "    " (registrationLine identifier) = true := by
  rw [beginsWith, List.isPrefixOf_iff_prefix, registrationLine]
  simp only [String.toList_append, List.append_assoc]
  exact List.prefix_append _ _

theorem registrationLine_ne {identifier other : String}
    (differs : beginsWith "    " other = false) : registrationLine identifier ≠ other := by
  rintro rfl
  simp [beginsWith_registrationLine] at differs

theorem not_constant_registrationLine (identifier : String) :
    beginsWith "pub const " (registrationLine identifier) = false := by
  simp [beginsWith, registrationLine, List.isPrefixOf]

theorem ne_arrayHead_of_mem_front {units : List Declared} :
    ∀ line ∈ front units, line ≠ arrayHead := by
  intro line member
  rcases mem_front member with fixed | ⟨unit, _, rfl⟩
  · exact (isPlain_fixedLines line fixed).not_head
  · exact line_ne (by decide)

theorem ne_arrayEnd_of_mem_layout {units : List Declared} :
    ∀ line ∈ layout units, line ≠ arrayEnd := by
  intro line member
  rcases List.mem_append.mp member with before | array
  · rcases mem_front before with fixed | ⟨unit, _, rfl⟩
    · exact (isPlain_fixedLines line fixed).not_end
    · exact line_ne (by decide)
  · rcases List.mem_cons.mp array with rfl | entry
    · decide
    · obtain ⟨unit, _, rfl⟩ := List.mem_map.mp entry
      exact registrationLine_ne (by decide)

theorem newline_not_mem_layout {units : List Declared}
    (whole : ∀ unit ∈ sentinels ++ units, '\n' ∉ unit.identifier.toList) :
    ∀ line ∈ layout units ++ [arrayEnd], '\n' ∉ line.toList := by
  intro line member
  rcases List.mem_append.mp member with inside | last
  · rcases List.mem_append.mp inside with before | array
    · rcases mem_front before with fixed | ⟨unit, declared, rfl⟩
      · exact (isPlain_fixedLines line fixed).whole
      · exact newline_not_mem_line (whole unit declared)
    · rcases List.mem_cons.mp array with rfl | entry
      · decide
      · obtain ⟨unit, declared, rfl⟩ := List.mem_map.mp entry
        exact newline_not_mem_registrationLine (whole unit declared)
  · obtain rfl := List.mem_singleton.mp last
    decide

theorem isLegalName_declared (letters : Char → Bool) (entries : List Entry) :
    ∀ unit ∈ sentinels ++ keptRows entries, IsLegalName letters unit.identifier := by
  rw [← Catalogue.declared_addAll]
  exact (Catalogue.sound_addAll entries).isLegalName letters

theorem textLines_render (entries : List Entry) (aliases : List Alias) :
    textLines (render entries aliases).text = layout (keptRows entries) ++ arrayEnd ::
      textLines (aliasSection ((Catalogue.addAll {} entries).keptAliases aliases) ++ closing) := by
  have whole : ∀ unit ∈ sentinels ++ keptRows entries, '\n' ∉ unit.identifier.toList := by
    intro unit declared
    exact (isLegalName_declared (fun _ => false) entries unit declared).not_mem (by decide)
  rw [text_render, textLines_lines (newline_not_mem_layout whole), List.append_assoc,
    List.singleton_append]

theorem unitPart_render (entries : List Entry) (aliases : List Alias) :
    unitPart (render entries aliases).text = layout (keptRows entries) := by
  have inside : ∀ line ∈ layout (keptRows entries), (line != arrayEnd) = true := by
    intro line member
    simpa using ne_arrayEnd_of_mem_layout line member
  rw [unitPart, textLines_render, List.takeWhile_append_of_pos inside, List.takeWhile_cons]
  simp

theorem constantLines_render (entries : List Entry) (aliases : List Alias) :
    constantLines (render entries aliases).text =
      (sentinels ++ keptRows entries).map Declared.line := by
  have fixed : ∀ ls : List String, (∀ line ∈ ls, line ∈ fixedLines) →
      ls.filter (beginsWith "pub const ") = [] := by
    intro ls included
    rw [List.filter_eq_nil_iff]
    intro line member
    simp [(isPlain_fixedLines line (included line member)).not_constant]
  have declarations : ∀ units : List Declared,
      (units.map Declared.line).filter (beginsWith "pub const ") = units.map Declared.line := by
    intro units
    rw [List.filter_eq_self]
    intro line member
    obtain ⟨unit, _, rfl⟩ := List.mem_map.mp member
    exact beginsWith_line unit
  have registrations : ∀ units : List Declared,
      (units.map (registrationLine ·.identifier)).filter (beginsWith "pub const ") = [] := by
    intro units
    rw [List.filter_eq_nil_iff]
    intro line member
    obtain ⟨unit, _, rfl⟩ := List.mem_map.mp member
    simp [not_constant_registrationLine]
  have opens : openingLines.filter (beginsWith "pub const ") = [] := by
    refine fixed _ fun line member => ?_
    simp [fixedLines, member]
  have comments : sentinelCommentLines.filter (beginsWith "pub const ") = [] := by
    refine fixed _ fun line member => ?_
    simp [fixedLines, member]
  have blank : beginsWith "pub const " "" = false := by decide
  have head : beginsWith "pub const " arrayHead = false := by decide
  rw [constantLines, unitPart_render, layout, front]
  simp only [List.filter_append, List.filter_cons, List.filter_nil, opens, comments, blank, head,
    declarations, registrations, Bool.false_eq_true, if_false, List.nil_append, List.append_nil,
    List.map_append]

theorem arrayLines_render (entries : List Entry) (aliases : List Alias) :
    arrayLines (render entries aliases).text =
      (sentinels ++ keptRows entries).map (registrationLine ·.identifier) := by
  have inside : ∀ line ∈ front (keptRows entries), (line != arrayHead) = true := by
    intro line member
    simpa using ne_arrayHead_of_mem_front line member
  rw [arrayLines, unitPart_render, layout, List.dropWhile_append_of_pos inside,
    List.dropWhile_cons]
  simp

end UnitCatalogue

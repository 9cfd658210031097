import UnitCatalogue.Proofs.AliasChoice
import UnitCatalogue.Proofs.ModuleLines

/-!
# The items of a rendered module

Every item with a value opens with a line of its own, which tells its name. The items of the
units, the tables and the kept aliases never share a name, and an alias stands for a unit. The name
of an alias goes into its line as it stands, and is read off the line again if it is a legal one.
-/

namespace UnitCatalogue

def constantFront : List Char := ['p', 'u', 'b', ' ', 'c', 'o', 'n', 's', 't', ' ']

/-- The ways in which a line opens an item that has a value. -/
def itemFronts : List (List Char) :=
  [constantFront,
   ['p', 'u', 'b', ' ', 's', 't', 'a', 't', 'i', 'c', ' '],
   ['s', 't', 'a', 't', 'i', 'c', ' '],
   ['p', 'u', 'b', ' ', 'f', 'n', ' ']]

def itemNameAfter? (line front : List Char) : Option (List Char) :=
  if front.isPrefixOf line then
    some ((line.drop front.length).takeWhile fun c => c != ':' && c != '(')
  else none

/-- The name of the item that a line opens. -/
def itemName? (line : String) : Option String :=
  (itemFronts.findSome? (itemNameAfter? line.toList)).map String.ofList

/-- The names of the items that every module has behind its units and its aliases. -/
def closingNames : List String := ["UNITS_BY_NAME", "UNITS_BY_SUFFIX", "UNITS_BY_ALL", "unit"]

def linesBeforeArray (text : String) : List String :=
  (textLines text).takeWhile (· != arrayHead)

theorem itemName?_ofList {cs : List Char} {name : Option (List Char)}
    (found : itemFronts.findSome? (itemNameAfter? cs) = name) :
    itemName? (String.ofList cs) = name.map String.ofList := by
  rw [itemName?, String.toList_ofList, found]

theorem itemName?_fixedLines : ∀ line ∈ fixedLines, itemName? line = none := by
  simp only [fixedLines, openingLines, sentinelCommentLines, List.cons_append, List.nil_append,
    List.forall_mem_cons]
  repeat' apply And.intro
  -- As for plain lines, unification finds the characters.
  all_goals first
    | exact List.forall_mem_nil _
    | exact (itemName?_ofList rfl).trans (by decide)

theorem itemName?_arrayHead : itemName? arrayHead = some "ALL_UNITS" := by decide +kernel

theorem filterMap_itemName?_closingLines : closingLines.filterMap itemName? = closingNames := by
  have names : List.Forall₂ (fun line name => itemName? line = name) closingLines
      [none, none, some "UNITS_BY_NAME", none, none, none, some "UNITS_BY_SUFFIX", none, none, none,
        none, none, none, none, none, some "UNITS_BY_ALL", none, none, none, none, none, none, none,
        some "unit", none, none] := by
    rw [closingLines]
    repeat' apply List.Forall₂.cons
    all_goals first
      | exact List.Forall₂.nil
      | exact (itemName?_ofList rfl).trans (by decide)
  rw [← List.forall₂_map_left_iff, List.forall₂_eq_eq_eq] at names
  calc closingLines.filterMap itemName?
      = (closingLines.map itemName?).filterMap id := by rw [List.filterMap_map]; rfl
    _ = closingNames := by rw [names]; rfl

/-- A constant is read with its name if no character of the name ends one. -/
theorem itemName?_constant {letters : Char → Bool} {name : String}
    (legal : IsLegalName letters name) (rest : String) :
    itemName? ("pub const " ++ name ++ (":" ++ rest)) = some name := by
  have ends : ∀ c ∈ name.toList, (c != ':' && c != '(') = true := by
    intro c member
    have colon : c ≠ ':' := by
      rintro rfl
      exact legal.not_mem rfl member
    have bracket : c ≠ '(' := by
      rintro rfl
      exact legal.not_mem rfl member
    simp [colon, bracket]
  have text : ("pub const " ++ name ++ (":" ++ rest)).toList =
      constantFront ++ (name.toList ++ ':' :: rest.toList) := by
    simp [constantFront, String.toList_append]
  have found : itemNameAfter? ("pub const " ++ name ++ (":" ++ rest)).toList constantFront =
      some name.toList := by
    rw [itemNameAfter?, text, if_pos (List.isPrefixOf_iff_prefix.mpr (List.prefix_append _ _)),
      List.drop_left, List.takeWhile_append_of_pos ends]
    simp
  rw [itemName?, itemFronts, List.findSome?_cons, found]
  simp

variable {letters : Char → Bool}

theorem itemName?_line {unit : Declared} (legal : IsLegalName letters unit.identifier) :
    itemName? unit.line = some unit.identifier := by
  rw [← itemName?_constant legal (" UnitDescriptor = UnitDescriptor \x7b name: " ++
    Text.literal unit.entry.name ++ ", code: " ++ optionalLiteral unit.entry.code ++
      ", suffix: " ++ optionalLiteral unit.entry.suffix ++ " \x7d;"), Declared.line_eq]
  congr 1
  apply String.toList_inj.mp
  simp

theorem itemName?_registrationLine (identifier : String) :
    itemName? (registrationLine identifier) = none := by
  simp [itemName?, itemFronts, constantFront, itemNameAfter?, registrationLine, List.isPrefixOf]

theorem filterMap_itemName?_map {α : Type} {line name : α → String} {xs : List α}
    (read : ∀ x ∈ xs, itemName? (line x) = some (name x)) :
    (xs.map line).filterMap itemName? = xs.map name := by
  induction xs with
  | nil => rfl
  | cons x rest ih =>
    rw [List.map_cons, List.filterMap_cons_some (read x List.mem_cons_self),
      ih fun other member => read other (List.mem_cons_of_mem _ member), List.map_cons]

theorem filterMap_itemName?_front {units : List Declared}
    (legal : ∀ unit ∈ sentinels ++ units, IsLegalName letters unit.identifier) :
    (front units).filterMap itemName? = (sentinels ++ units).map Declared.identifier := by
  have fixed : ∀ ls : List String, (∀ line ∈ ls, line ∈ fixedLines) →
      ls.filterMap itemName? = [] := by
    intro ls included
    rw [List.filterMap_eq_nil_iff]
    intro line member
    exact itemName?_fixedLines line (included line member)
  have opens : openingLines.filterMap itemName? = [] := by
    refine fixed _ fun line member => ?_
    simp [fixedLines, member]
  have comments : sentinelCommentLines.filterMap itemName? = [] := by
    refine fixed _ fun line member => ?_
    simp [fixedLines, member]
  have blank : [""].filterMap itemName? = [] := by
    refine fixed _ fun line member => ?_
    simp [fixedLines, List.mem_singleton.mp member]
  have first : (sentinels.map Declared.line).filterMap itemName? =
      sentinels.map Declared.identifier := by
    refine filterMap_itemName?_map fun unit member => ?_
    exact itemName?_line (legal unit (List.mem_append_left _ member))
  have later : (units.map Declared.line).filterMap itemName? =
      units.map Declared.identifier := by
    refine filterMap_itemName?_map fun unit member => ?_
    exact itemName?_line (legal unit (List.mem_append_right _ member))
  rw [front]
  simp only [List.filterMap_append, opens, comments, blank, first, later, List.nil_append,
    List.append_nil, List.map_append]

theorem filterMap_itemName?_layout {units : List Declared}
    (legal : ∀ unit ∈ sentinels ++ units, IsLegalName letters unit.identifier) :
    (layout units).filterMap itemName? =
      (sentinels ++ units).map Declared.identifier ++ ["ALL_UNITS"] := by
  have entries : ((sentinels ++ units).map (registrationLine ·.identifier)).filterMap itemName? =
      [] := by
    rw [List.filterMap_eq_nil_iff]
    intro line member
    obtain ⟨unit, _, rfl⟩ := List.mem_map.mp member
    exact itemName?_registrationLine unit.identifier
  rw [layout, List.filterMap_append, filterMap_itemName?_front legal,
    List.filterMap_cons_some itemName?_arrayHead, entries]

theorem linesBeforeArray_render (entries : List Entry) (aliases : List Alias) :
    linesBeforeArray (render entries aliases).text = front (keptRows entries) := by
  have before : ∀ line ∈ front (keptRows entries), (line != arrayHead) = true := by
    intro line member
    simpa using ne_arrayHead_of_mem_front line member
  rw [linesBeforeArray, textLines_render, layout, List.append_assoc,
    List.takeWhile_append_of_pos before, List.cons_append, List.takeWhile_cons]
  simp

theorem identifiers_addAll (entries : List Entry) : (Catalogue.addAll {} entries).identifiers =
    (sentinels ++ keptRows entries).map Declared.identifier := by
  rw [Catalogue.identifiers, Catalogue.declared_addAll]

/-- The lines of the aliases, under a comment of their own if there are any. -/
def aliasLines (aliases : List Alias) : List String :=
  if aliases.isEmpty then [] else "" :: "// Convenience aliases." :: aliases.map Alias.line

theorem Alias.line_eq (a : Alias) :
    a.line = "pub const " ++ a.name ++ ": UnitDescriptor = " ++ a.target ++ ";" := rfl

theorem itemName?_aliasLine {a : Alias} (legal : IsLegalName letters a.name) :
    itemName? a.line = some a.name := by
  rw [← itemName?_constant legal (" UnitDescriptor = " ++ a.target ++ ";"), Alias.line_eq]
  congr 1
  apply String.toList_inj.mp
  simp

theorem newline_not_mem_aliasLine {a : Alias} (name : '\n' ∉ a.name.toList)
    (target : '\n' ∉ a.target.toList) : '\n' ∉ a.line.toList := by
  simp [Alias.line_eq, name, target]

theorem aliasSection_eq (aliases : List Alias) :
    aliasSection aliases = lines (aliasLines aliases) := by
  by_cases empty : aliases.isEmpty = true
  · rw [aliasSection, aliasLines, if_pos empty, if_pos empty, lines_nil]
  · have declarations : String.join (aliases.map Alias.declaration) =
        lines (aliases.map Alias.line) := by
      rw [lines, List.map_map]
      rfl
    rw [aliasSection, aliasLines, if_neg empty, if_neg empty, declarations]
    simp only [lines_cons, lines_nil, String.append_empty, String.append_assoc]

theorem newline_not_mem_closingLines : ∀ line ∈ closingLines, '\n' ∉ line.toList := by
  have whole : ∀ cs : List Char, '\n' ∉ cs → '\n' ∉ (String.ofList cs).toList := by
    intro cs absent
    rwa [String.toList_ofList]
  simp only [closingLines, List.forall_mem_cons]
  repeat' apply And.intro
  all_goals first
    | exact List.forall_mem_nil _
    | apply whole; decide

theorem newline_not_mem_aliasLines {aliases : List Alias}
    (names : ∀ a ∈ aliases, '\n' ∉ a.name.toList)
    (targets : ∀ a ∈ aliases, '\n' ∉ a.target.toList) :
    ∀ line ∈ aliasLines aliases, '\n' ∉ line.toList := by
  intro line member
  rw [aliasLines] at member
  split at member
  · cases member
  · rcases List.mem_cons.mp member with rfl | member
    · decide
    · rcases List.mem_cons.mp member with rfl | member
      · decide
      · obtain ⟨a, inside, rfl⟩ := List.mem_map.mp member
        exact newline_not_mem_aliasLine (names a inside) (targets a inside)

theorem textLines_aliasSection {aliases : List Alias}
    (names : ∀ a ∈ aliases, '\n' ∉ a.name.toList)
    (targets : ∀ a ∈ aliases, '\n' ∉ a.target.toList) :
    textLines (aliasSection aliases ++ closing) = aliasLines aliases ++ closingLines ++ [""] := by
  have last : closing = lines closingLines ++ "" := by rw [closing, String.append_empty]
  rw [aliasSection_eq, textLines_lines (newline_not_mem_aliasLines names targets), last,
    textLines_lines newline_not_mem_closingLines, List.append_assoc]
  rfl

theorem filterMap_itemName?_aliasLines {aliases : List Alias}
    (legal : ∀ a ∈ aliases, IsLegalName letters a.name) :
    (aliasLines aliases).filterMap itemName? = aliases.map Alias.name := by
  rw [aliasLines]
  split
  · next empty =>
    rw [List.isEmpty_iff.mp empty]
    rfl
  · have blank : itemName? "" = none := by decide
    have comment : itemName? "// Convenience aliases." = none := by decide +kernel
    rw [List.filterMap_cons_none blank, List.filterMap_cons_none comment]
    exact filterMap_itemName?_map fun a member => itemName?_aliasLine (legal a member)

/-- The names of the items in the order of the module. -/
def itemNames (identifiers aliasNames : List String) : List String :=
  identifiers ++ "ALL_UNITS" :: aliasNames ++ closingNames

theorem itemNames_perm (identifiers aliasNames : List String) :
    (itemNames identifiers aliasNames).Perm
      (identifiers ++ aliasNames ++ reservedIdentifiers ++ ["unit"]) := by
  have moved : ("ALL_UNITS" :: (aliasNames ++ closingNames)).Perm
      (aliasNames ++ "ALL_UNITS" :: closingNames) := List.perm_middle.symm
  have same := moved.append_left identifiers
  simpa [itemNames, closingNames, reservedIdentifiers] using same

theorem textLines_render_of_legal {entries : List Entry} {aliases : List Alias}
    (legal : ∀ a ∈ (Catalogue.addAll {} entries).keptAliases aliases,
      IsLegalName letters a.name) :
    let text := (render entries aliases).text
    let kept := (Catalogue.addAll {} entries).keptAliases aliases
    textLines text = unitPart text ++ arrayEnd :: aliasLines kept ++ closingLines ++ [""] ∧
      (textLines text).filterMap itemName? =
        itemNames ((sentinels ++ keptRows entries).map Declared.identifier)
          (kept.map Alias.name) := by
  intro text kept
  have names : ∀ a ∈ kept, '\n' ∉ a.name.toList :=
    fun a member => (legal a member).not_mem rfl
  have targets : ∀ a ∈ kept, '\n' ∉ a.target.toList := by
    intro a member
    obtain ⟨_, declared, _⟩ := Catalogue.mem_keptFrom member
    rw [(Catalogue.sound_addAll entries).isDeclared_iff, identifiers_addAll] at declared
    obtain ⟨unit, inside, same⟩ := List.mem_map.mp declared
    rw [← same]
    exact (isLegalName_declared letters entries unit inside).not_mem rfl
  have cut : textLines text =
      unitPart text ++ arrayEnd :: aliasLines kept ++ closingLines ++ [""] := by
    rw [textLines_render, textLines_aliasSection names targets, unitPart_render]
    simp
  refine ⟨cut, ?_⟩
  have last : itemName? arrayEnd = none := by decide
  have blank : [""].filterMap itemName? = [] := by decide
  rw [cut, unitPart_render, List.filterMap_append, List.filterMap_append, List.filterMap_append,
    List.filterMap_cons_none last, filterMap_itemName?_aliasLines legal,
    filterMap_itemName?_layout (isLegalName_declared letters entries),
    filterMap_itemName?_closingLines, blank, itemNames]
  simp only [List.append_assoc, List.append_nil, List.cons_append]
  rfl

theorem Catalogue.Sound.nodup_names {c : Catalogue} (sound : c.Sound) (aliases : List Alias) :
    (c.identifiers ++ (c.keptAliases aliases).map Alias.name ++ reservedIdentifiers).Nodup := by
  have free : ∀ name ∈ (c.keptAliases aliases).map Alias.name,
      name ∉ c.identifiers ∧ name ∉ reservedIdentifiers := by
    intro name member
    obtain ⟨a, kept, rfl⟩ := List.mem_map.mp member
    obtain ⟨_, _, untaken, _⟩ := mem_keptFrom kept
    rw [← not_or, ← sound.inStep.isTaken_iff, untaken]
    exact Bool.false_ne_true
  have reserved : reservedIdentifiers.Nodup := by decide
  refine (sound.distinct.append (c.nodup_names_keptFrom [] aliases) ?_).append reserved ?_
  · intro identifier declared claimed
    exact (free identifier claimed).1 declared
  · intro name named table
    rcases List.mem_append.mp named with declared | claimed
    · exact sound.unreserved name declared table
    · exact (free name claimed).2 table

/-- The names of the units, the kept aliases and the tables are distinct. Before the array every
unit of the array is declared, in the same order, and nothing else; so each has one declaration
and one entry. If the kept aliases have legal names, then the items that the text declares are these
in their order, one for each alias. The target of a kept alias is one of the units. -/
theorem declared_once (entries : List Entry) (aliases : List Alias) :
    let text := (render entries aliases).text
    let identifiers := (sentinels ++ keptRows entries).map Declared.identifier
    let kept := (Catalogue.addAll {} entries).keptAliases aliases
    (identifiers ++ kept.map Alias.name ++ reservedIdentifiers).Nodup ∧
    textLines text = linesBeforeArray text ++ arrayHead :: arrayLines text ++ arrayEnd ::
      textLines (aliasSection kept ++ closing) ∧
    (linesBeforeArray text).filterMap itemName? = identifiers ∧
    arrayLines text = identifiers.map registrationLine ∧ (arrayLines text).Nodup ∧
    (arrayHead :: closingLines).filterMap itemName? = reservedIdentifiers ++ ["unit"] ∧
    (∀ letters, (∀ a ∈ kept, IsLegalName letters a.name) →
      textLines text = linesBeforeArray text ++ arrayHead :: arrayLines text ++ arrayEnd ::
        aliasLines kept ++ closingLines ++ [""] ∧
      (textLines text).filterMap itemName? = itemNames identifiers (kept.map Alias.name)) ∧
    ∀ a ∈ kept, a.target ∈ identifiers ∧ a.target ∉ reservedIdentifiers ∧
      a.target ∉ kept.map Alias.name := by
  have sound := Catalogue.sound_addAll entries
  have distinct := sound.nodup_names aliases
  have entry_lines : arrayLines (render entries aliases).text =
      ((sentinels ++ keptRows entries).map Declared.identifier).map registrationLine := by
    rw [arrayLines_render, List.map_map]
    rfl
  rw [identifiers_addAll] at distinct
  obtain ⟨named, tables, apart⟩ := List.nodup_append.mp distinct
  obtain ⟨identifiers, names, unclaimed⟩ := List.nodup_append.mp named
  refine ⟨distinct, ?_, ?_, entry_lines, ?_, ?_, ?_, ?_⟩
  · rw [textLines_render, linesBeforeArray_render, arrayLines_render, layout]
  · rw [linesBeforeArray_render]
    exact filterMap_itemName?_front (isLegalName_declared (fun _ => false) entries)
  · rw [entry_lines]
    refine identifiers.map fun first second same => ?_
    simpa [registrationLine] using same
  · rw [List.filterMap_cons_some itemName?_arrayHead, filterMap_itemName?_closingLines]
    rfl
  · intro letters legal
    obtain ⟨cut, items⟩ := textLines_render_of_legal legal
    refine ⟨?_, items⟩
    rw [cut, unitPart_render, linesBeforeArray_render, arrayLines_render, layout]
  · intro a kept
    obtain ⟨_, declared, _⟩ := Catalogue.mem_keptFrom kept
    rw [sound.isDeclared_iff, identifiers_addAll] at declared
    refine ⟨declared, ?_, ?_⟩
    · intro table
      exact apart _ (List.mem_append_left _ declared) _ table rfl
    · intro claimed
      exact unclaimed _ declared _ claimed rfl

end UnitCatalogue

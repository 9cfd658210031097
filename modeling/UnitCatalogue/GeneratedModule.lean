import UnitCatalogue.Catalogue

/-!
# The generated module

The text of the module: a fixed opening, the declarations, the array of all units, the aliases,
and the fixed lookup tables. `assemble` puts the lines of its items in as they are.
-/

namespace UnitCatalogue

/-- Each line with its line end. -/
def lines (ls : List String) : String := String.join (ls.map (· ++ "\n"))

/-- The opening of the module, up to the type of its constants. -/
def openingLines : List String := [
  "// @generated by units-from-xls. DO NOT EDIT.",
  "",
  "//! Units of measure.",
  "//!",
  "//! THIS FILE IS AUTOMATICALLY GENERATED. DO NOT EDIT.",
  "//!",
  "//! Units are identified by UNECE Recommendation 20 common codes and can be",
  "//! retrieved by constant, by name, or by suffix:",
  "//!",
  "//! ```ignore",
  "//! // The following three lines are equivalent:",
  "//! let speed = units::METRE_PER_SECOND;",
  "//! let speed = *units::unit(\"m/s\").unwrap();",
  "//! let speed = *units::unit(\"metre per second\").unwrap();",
  "//! ```",
  "//!",
  "//! Regenerate with `units-from-xls <rec20 spreadsheet>` when UNECE publishes",
  "//! a new revision.",
  "",
  "use std::collections::HashMap;",
  "use std::sync::LazyLock;",
  "",
  "/// A unit of measure: display name, UNECE common code and symbol",
  "#[derive(Debug, Clone, Copy, PartialEq, Eq, Hash)]",
  "pub struct UnitDescriptor \x7b",
  "    pub name: &'static str,",
  "    pub code: Option<&'static str>,",
  "    pub suffix: Option<&'static str>,",
  "\x7d",
  ""]

def opening : String := lines openingLines

/-- The comment above the sentinels. -/
def sentinelCommentLines : List String := [
  "// NO_DIMENSION means that there are units set, but they cannot be expressed",
  "// by a known dimension (such as a ratio)"]

def sentinelComment : String := lines sentinelCommentLines

/-- The lookup tables and the lookup function at the end of the module. -/
def closingLines : List String := [
  "",
  "/// Units keyed by display name",
  "pub static UNITS_BY_NAME: LazyLock<HashMap<&'static str, &'static UnitDescriptor>> =",
  "    LazyLock::new(|| ALL_UNITS.iter().map(|u| (u.name, u)).collect());",
  "",
  "/// Units keyed by symbol; units without a symbol are absent",
  "pub static UNITS_BY_SUFFIX: LazyLock<HashMap<&'static str, &'static UnitDescriptor>> =",
  "    LazyLock::new(|| \x7b",
  "        ALL_UNITS",
  "            .iter()",
  "            .filter_map(|u| u.suffix.map(|s| (s, u)))",
  "            .collect()",
  "    \x7d);",
  "",
  "/// Names and symbols together; a symbol shadows an identical name",
  "pub static UNITS_BY_ALL: LazyLock<HashMap<&'static str, &'static UnitDescriptor>> =",
  "    LazyLock::new(|| \x7b",
  "        let mut all = UNITS_BY_NAME.clone();",
  "        all.extend(UNITS_BY_SUFFIX.iter().map(|(k, v)| (*k, *v)));",
  "        all",
  "    \x7d);",
  "",
  "/// Look up a unit by name or suffix, e.g. `unit(\"m/s\")` or `unit(\"metre per second\")`.",
  "pub fn unit(name_or_suffix: &str) -> Option<&'static UnitDescriptor> \x7b",
  "    UNITS_BY_ALL.get(name_or_suffix).copied()",
  "\x7d"]

def closing : String := lines closingLines

def sentinelItems : List Item := sentinels.map Declared.item

/-- The line that opens the array of all units. -/
def arrayHead : String := "static ALL_UNITS: &[UnitDescriptor] = &["

def arrayEnd : String := "];"

/-- The array of all units, the sentinels first. -/
def registrationArray (items : List Item) : String :=
  lines ["", arrayHead] ++ String.join ((sentinelItems ++ items).map Item.registration)
    ++ lines [arrayEnd]

/-- The aliases, under a comment of their own if there are any. -/
def aliasSection (aliases : List Alias) : String :=
  if aliases.isEmpty then ""
  else lines ["", "// Convenience aliases."] ++ String.join (aliases.map Alias.declaration)

def assemble (items : List Item) (aliases : List Alias) : String :=
  opening ++ sentinelComment ++ String.join (sentinelItems.map Item.declaration) ++ "\n"
    ++ String.join (items.map Item.declaration) ++ registrationArray items
    ++ aliasSection aliases ++ closing

end UnitCatalogue

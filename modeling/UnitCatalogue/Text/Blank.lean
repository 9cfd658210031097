import UnitCatalogue.Text.Span

/-!
# Blank characters

The characters of the Unicode property White_Space, and texts that hold nothing else.
-/

namespace UnitCatalogue.Text

def blankSpans : List Span :=
  [(0x9, 0xD), (0x20, 0x20), (0x85, 0x85), (0xA0, 0xA0), (0x1680, 0x1680), (0x2000, 0x200A),
   (0x2028, 0x2029), (0x202F, 0x202F), (0x205F, 0x205F), (0x3000, 0x3000)]

theorem blankSpans_ascending : ascendingFrom 0 blankSpans = true := by decide +kernel

def isBlank (c : Char) : Bool := spansContain blankSpans c.toNat

theorem isBlank_iff (c : Char) :
    isBlank c = true ↔ ∃ span ∈ blankSpans, span.1 ≤ c.toNat ∧ c.toNat ≤ span.2 :=
  spansContain_iff c.toNat blankSpans_ascending

/-- A text is blank when trimming it would leave nothing. -/
def allBlank (text : List Char) : Bool := text.all isBlank

end UnitCatalogue.Text

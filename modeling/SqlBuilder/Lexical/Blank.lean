import SqlBuilder.Text

/-!
# Blanks

The characters that only keep the words of a declaration apart, and the ranges
of codes by which classes of characters are given.
-/

namespace SqlBuilder

/-- A character whose code lies in one of the given closed ranges. -/
def InRanges (ranges : List (Nat × Nat)) (c : Char) : Prop :=
  ∃ range ∈ ranges, range.1 ≤ c.toNat ∧ c.toNat ≤ range.2

instance InRanges.decidable (ranges : List (Nat × Nat)) (c : Char) :
    Decidable (InRanges ranges c) :=
  inferInstanceAs (Decidable (∃ range ∈ ranges, range.1 ≤ c.toNat ∧ c.toNat ≤ range.2))

/-- The codes of the Unicode property `White_Space`, ascending and apart. -/
def spaceRanges : List (Nat × Nat) :=
  [(0x09, 0x0d), (0x20, 0x20), (0x85, 0x85), (0xa0, 0xa0), (0x1680, 0x1680),
    (0x2000, 0x200a), (0x2028, 0x2029), (0x202f, 0x202f), (0x205f, 0x205f),
    (0x3000, 0x3000)]

/-- White space: the characters with the Unicode property of that name. -/
def IsSpace (c : Char) : Prop := InRanges spaceRanges c

instance IsSpace.decidable (c : Char) : Decidable (IsSpace c) :=
  inferInstanceAs (Decidable (InRanges spaceRanges c))

/-- A blank between words: white space, or one of the two direction marks. -/
def IsBlank (c : Char) : Prop :=
  IsSpace c ∨ c = '\u200e' ∨ c = '\u200f'

instance IsBlank.decidable (c : Char) : Decidable (IsBlank c) :=
  inferInstanceAs (Decidable (IsSpace c ∨ c = '\u200e' ∨ c = '\u200f'))

end SqlBuilder

import SqlBuilder.Log

/-!
# Texts cut to a limit of bytes

A text that is too long for its limit is cut between two characters.  Going back
from the limit byte by byte, the first boundary that is met is the last one
within the limit, so no whole character that would have fitted is given up.  A
character takes at most four bytes; hence at most three bytes of the limit stay
unused.

That the place of the cut is a boundary, and the result a text, is part of their
types.
-/

namespace SqlBuilder

/--
The longest start of a text that consists of whole characters and takes at most
`limit` bytes.
-/
structure IsLongestStart (limit : Nat) (text start : String) : Prop where
  opens : ∃ rest, text = start ++ rest
  fits : start.utf8ByteSize ≤ limit
  longest : ∀ other rest, text = other ++ rest → other.utf8ByteSize ≤ limit →
    other.utf8ByteSize ≤ start.utf8ByteSize

section Boundary

variable (text : String)

theorem boundaryWithin_le (limit : Nat) : (boundaryWithin text limit).offset.byteIdx ≤ limit := by
  induction limit with
  | zero => exact Nat.le_refl 0
  | succ bytes ih =>
      rw [boundaryWithin]
      split
      · exact Nat.le_refl _
      · exact Nat.le_succ_of_le ih

/-- No boundary within the limit is passed over on the way back. -/
theorem le_boundaryWithin {limit : Nat} {position : String.Pos.Raw}
    (boundary : position.IsValid text) (within : position.byteIdx ≤ limit) :
    position.byteIdx ≤ (boundaryWithin text limit).offset.byteIdx := by
  induction limit with
  | zero => exact within
  | succ bytes ih =>
      rw [boundaryWithin]
      split
      · exact within
      · rename_i inside
        have before : position.byteIdx ≠ bytes + 1 := by
          intro same
          exact inside (same ▸ boundary)
        exact ih (by omega)

end Boundary

/-- The text in front of the last boundary within a limit is the longest start within it. -/
theorem isLongestStart_sliceTo (limit : Nat) (text : String) :
    IsLongestStart limit text (text.sliceTo (boundaryWithin text limit)).copy where
  opens := ⟨_, String.sliceTo_append_sliceFrom.symm⟩
  fits := by
    simpa using boundaryWithin_le text limit
  longest other rest split within := by
    have boundary : other.rawEndPos.IsValid text :=
      String.Pos.Raw.isValid_iff_exists_append.mpr ⟨other, rest, split, rfl⟩
    simpa using le_boundaryWithin text boundary within

/-- One character more does not fit, so the longest start misses the limit by less than four bytes. -/
theorem IsLongestStart.le_add_three {limit : Nat} {text start : String}
    (longest : IsLongestStart limit text start) (tooLong : limit < text.utf8ByteSize) :
    limit ≤ start.utf8ByteSize + 3 := by
  obtain ⟨rest, rfl⟩ := longest.opens
  obtain ⟨letters, rfl⟩ := rest.exists_eq_ofList
  cases letters with
  | nil =>
      have fits := longest.fits
      rw [String.ofList_nil, String.append_empty] at tooLong
      omega
  | cons next later =>
      have split : start ++ String.ofList (next :: later) =
          start ++ String.singleton next ++ String.ofList later := by
        rw [String.append_assoc, String.ofList_cons]
      have size : (start ++ String.singleton next).utf8ByteSize =
          start.utf8ByteSize + next.utf8Size := by
        rw [String.utf8ByteSize_append, String.utf8ByteSize_singleton]
      have positive := next.utf8Size_pos
      have width := next.utf8Size_le_four
      refine Nat.not_lt.mp fun short => ?_
      have grown := longest.longest _ _ split (by omega)
      omega

/--
A text within the limit is not changed.  A longer one is cut at a boundary: what is left
of it is its longest start of whole characters within the limit, which the cut misses by at
most three bytes, and three dots follow.
-/
theorem truncateBytes_cutsWholeCharacters (limit : Nat) (text : String) :
    (text.utf8ByteSize ≤ limit → truncateBytes limit text = text) ∧
      (limit < text.utf8ByteSize → ∃ cut : text.Pos,
        truncateBytes limit text = (text.sliceTo cut).copy ++ "..." ∧
          IsLongestStart limit text (text.sliceTo cut).copy ∧
          limit ≤ (text.sliceTo cut).copy.utf8ByteSize + 3) ∧
      (truncateBytes limit text).utf8ByteSize ≤ limit + 3 := by
  have longest := isLongestStart_sliceTo limit text
  refine ⟨fun fits => if_pos fits, fun tooLong => ?_, ?_⟩
  · exact ⟨boundaryWithin text limit, if_neg (Nat.not_le.mpr tooLong), longest,
      longest.le_add_three tooLong⟩
  · rw [truncateBytes]
    split
    · omega
    · have fits := longest.fits
      have dots : "...".utf8ByteSize = 3 := rfl
      rw [String.utf8ByteSize_append, dots]
      omega

/-- A limit within the last character cuts in front of it, two bytes short of the limit. -/
theorem wideCharacter_cut :
    truncateBytes 7 "ab日本" = "ab日..." ∧ 7 < "ab日本".utf8ByteSize ∧
      ∃ cut : String.Pos "ab日本",
        "ab日..." = ("ab日本".sliceTo cut).copy ++ "..." ∧
          IsLongestStart 7 "ab日本" ("ab日本".sliceTo cut).copy ∧
          7 ≤ ("ab日本".sliceTo cut).copy.utf8ByteSize + 3 := by
  have written : truncateBytes 7 "ab日本" = "ab日..." := rfl
  have tooLong : 7 < "ab日本".utf8ByteSize := by decide
  have cut := (truncateBytes_cutsWholeCharacters 7 "ab日本").2.1 tooLong
  rw [written] at cut
  exact ⟨written, tooLong, cut⟩

end SqlBuilder

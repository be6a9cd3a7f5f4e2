import Mathlib.Data.List.Basic
import Mathlib.Data.String.Basic

/-!
# The order of texts

Texts are compared character by character, each by its code.  Their encodings in
UTF-8 are compared byte by byte.  Both are the same order: of two characters the
one with the smaller code has an encoding that is smaller at the first byte in
which the two differ, and neither encoding opens the other.
-/

namespace SqlBuilder

/-- The bytes of a text in UTF-8. -/
def utf8Bytes (text : String) : List UInt8 :=
  text.toUTF8.data.toList

theorem utf8Bytes_eq_flatMap (text : String) :
    utf8Bytes text = text.toList.flatMap String.utf8EncodeChar := by
  show text.toByteArray.data.toList = _
  rw [← String.utf8Encode_toList, List.utf8Encode, List.toList_data_toByteArray]

/-- The encodings of two characters are ordered as their codes are, whatever bytes follow them. -/
theorem utf8EncodeChar_append_lt {c d : Char} (before : c < d) (front back : List UInt8) :
    String.utf8EncodeChar c ++ front < String.utf8EncodeChar d ++ back := by
  have codes : c.val.toNat < d.val.toNat := before
  have inRange : d.val.toNat < 0x110000 := by
    rcases d.valid with low | ⟨_, high⟩
    · exact Nat.lt_trans low (by decide)
    · exact high
  simp only [String.utf8EncodeChar]
  generalize c.val.toNat = code at *
  generalize d.val.toNat = other at *
  -- Each code is taken apart into its digits in base 64, from the last one to the first.
  have digits (number : Nat) : number / 64 / 64 = number / 4096 ∧
      number / 4096 / 64 = number / 262144 := by omega
  have ofCode := digits code
  have ofOther := digits other
  split_ifs <;>
    simp only [List.cons_append, List.nil_append, List.cons_lt_cons_iff, UInt8.lt_iff_toNat_lt,
      ← UInt8.toNat_inj, UInt8.toNat_ofNat'] <;>
    simp (disch := omega) only [Nat.mod_eq_of_lt] <;>
    omega

/-- Texts that are ordered character by character are ordered byte by byte. -/
theorem flatMap_utf8EncodeChar_lt {left right : List Char} (before : left < right) :
    left.flatMap String.utf8EncodeChar < right.flatMap String.utf8EncodeChar := by
  induction left generalizing right with
  | nil =>
      cases right with
      | nil => exact absurd before (List.lt_irrefl _)
      | cons d others =>
          obtain ⟨byte, rest, encoded⟩ := List.exists_cons_of_ne_nil
            (String.utf8EncodeChar_ne_nil (c := d))
          rw [List.flatMap_cons, encoded]
          exact List.nil_lt_cons _ _
  | cons c rest ih =>
      cases right with
      | nil => exact absurd before (List.not_lt_nil _)
      | cons d others =>
          rw [List.flatMap_cons, List.flatMap_cons]
          rcases List.cons_lt_cons_iff.mp before with smaller | ⟨rfl, later⟩
          · exact utf8EncodeChar_append_lt smaller _ _
          · exact List.append_left_lt (ih later)

/-- The order of texts is the order of their bytes. -/
theorem utf8Bytes_lt_iff {left right : String} : utf8Bytes left < utf8Bytes right ↔ left < right := by
  have forward {first second : String} (before : first < second) :
      utf8Bytes first < utf8Bytes second := by
    rw [utf8Bytes_eq_flatMap, utf8Bytes_eq_flatMap]
    exact flatMap_utf8EncodeChar_lt (String.lt_iff_toList_lt.mp before)
  constructor
  · intro smaller
    refine Decidable.byContradiction fun notBefore => ?_
    rcases eq_or_ne left right with rfl | different
    · exact List.lt_irrefl _ smaller
    · have after : right < left := Decidable.byContradiction fun notAfter =>
        different (String.le_antisymm (String.not_lt.mp notAfter) (String.not_lt.mp notBefore))
      exact List.lt_asymm smaller (forward after)
  · exact forward

theorem utf8Bytes_le_iff {left right : String} : utf8Bytes left ≤ utf8Bytes right ↔ left ≤ right := by
  rw [← List.not_lt, utf8Bytes_lt_iff, String.not_lt]

end SqlBuilder

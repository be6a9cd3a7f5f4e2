/-!
# Text under construction

SQL text is put together as a list of characters and packed into a `String`
once, when a statement is complete.  This module holds the few operations that
every writer shares: joining pieces with a comma, writing numbers with a least
number of digits, and comparing names without regard to ASCII letter case.
-/

namespace SqlBuilder

/-- Text while it is being put together, one entry per character. -/
abbrev Text := List Char

namespace Text

/-- Pieces with a comma and a blank between neighbours. -/
def commaSeparated (pieces : List Text) : Text :=
  List.intercalate ", ".toList pieces

@[simp]
theorem commaSeparated_nil : commaSeparated [] = [] := rfl

@[simp]
theorem commaSeparated_singleton (piece : Text) :
    commaSeparated [piece] = piece := by
  simp [commaSeparated, List.intercalate]

@[simp]
theorem commaSeparated_cons_cons
    (piece next : Text) (rest : List Text) :
    commaSeparated (piece :: next :: rest) =
      piece ++ ", ".toList ++ commaSeparated (next :: rest) := by
  simp [commaSeparated, List.intercalate]

/-- Text between round brackets. -/
def parenthesised (inner : Text) : Text :=
  '(' :: inner ++ [')']

/-- Text without the zeros at its end. -/
def trimZeros (digits : Text) : Text :=
  (digits.reverse.dropWhile (· = '0')).reverse

/-- A decimal fraction behind its point, without trailing zeros; nothing if it is zero. -/
def fraction (digits : Text) : Text :=
  match trimZeros digits with
  | [] => []
  | first :: rest => '.' :: first :: rest

/-- Decimal digits of a number, with zeros in front up to `width` digits. -/
def decimal (width number : Nat) : Text :=
  (Nat.toDigits 10 number).leftpad width '0'

/-- Lower-case hexadecimal digits of a number, with zeros in front up to `width` digits. -/
def hexadecimal (width number : Nat) : Text :=
  (Nat.toDigits 16 number).leftpad width '0'

end Text

/--
Two names agree when they differ at most in the case of ASCII letters.  Letters
outside ASCII have to be the same.
-/
def SameName (left right : String) : Prop :=
  left.toList.map Char.toLower = right.toList.map Char.toLower

namespace SameName

instance decidable (left right : String) : Decidable (SameName left right) :=
  inferInstanceAs (Decidable (_ = _))

@[refl]
theorem refl (name : String) : SameName name name := rfl

@[symm]
theorem symm {left right : String} (same : SameName left right) :
    SameName right left :=
  Eq.symm same

theorem trans {first second third : String}
    (left : SameName first second) (right : SameName second third) :
    SameName first third :=
  Eq.trans left right

end SameName

end SqlBuilder

import SqlBuilder.Declaration.Lexeme

/-!
# Positions as names

A member of a tuple is named by its position.  However the position is written,
its canonical form is the decimal number without zeros in front.  The positions
of a member and of a member of that member may be written as one number with a
point in it.
-/

namespace SqlBuilder

namespace Member

/-- The value of a digit in a base of at most sixteen. -/
def digit? (base : Nat) (c : Char) : Option Nat :=
  let value :=
    if c.isDigit = true then c.toNat - '0'.toNat
    else if 'a' ≤ c ∧ c ≤ 'f' then c.toNat - 'a'.toNat + 10
    else if 'A' ≤ c ∧ c ≤ 'F' then c.toNat - 'A'.toNat + 10
    else base
  if value < base then some value else none

/-- The number that digits stand for; underscores keep digits apart. -/
def number? (base : Nat) (digits : Text) : Option Nat :=
  match digits.filter (· ≠ '_') with
  | [] => none
  | significant =>
      significant.foldlM (fun value c => (digit? base c).map (value * base + ·)) 0

/-- The number that an integer literal stands for. -/
def integer? : Text → Option Nat
  | '0' :: 'x' :: digits => number? 16 digits
  | '0' :: 'o' :: digits => number? 8 digits
  | '0' :: 'b' :: digits => number? 2 digits
  | digits => number? 10 digits

/-- A position in canonical form; other text is left as it is. -/
def position (source : Text) : Text :=
  match integer? source with
  | some value => Nat.toDigits 10 value
  | none => source

/-- One or two positions in canonical form. -/
def positions (source : Text) : Text :=
  match source.takeWhile (· ≠ '.'), source.dropWhile (· ≠ '.') with
  | first, '.' :: second => position first ++ '.' :: position second
  | first, _ => position first

/-- A literal that names a member, in canonical form. -/
def lexeme : Lexeme → Lexeme
  | .literal source => .literal (String.ofList (positions source.toList))
  | other => other

end Member

end SqlBuilder

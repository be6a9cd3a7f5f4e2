import SqlBuilder.Declaration.Lexeme

/-!
# Lists between angle brackets

The arguments of a generic type and the parameters of a generic declaration.
Such a list may be written in any order, but its canonical order has the
lifetimes first.  Members keep the commas they are written with, and a lifetime
that was last gets one when other members come to stand behind it.
-/

namespace SqlBuilder

/-- A member of a list between angle brackets. -/
structure AngleMember where
  isLifetime : Bool
  lexemes : List Lexeme
  /-- Whether a comma is written behind the member. -/
  hasComma : Bool
deriving DecidableEq

namespace AngleMember

/-- A member with its comma. -/
def written (member : AngleMember) : List Lexeme :=
  member.lexemes ++ if member.hasComma then [Lexeme.comma] else []

end AngleMember

/-- The members of a list between angle brackets, as they are written. -/
abbrev AngleList := List AngleMember

namespace AngleList

/-- The members in the order in which they are written. -/
def inOrder (members : AngleList) : List Lexeme :=
  members.flatMap AngleMember.written

@[simp]
theorem inOrder_nil : inOrder [] = [] := rfl

/-- The lifetimes among the members. -/
def lifetimes (members : AngleList) : AngleList :=
  members.filter AngleMember.isLifetime

/-- The members that are not lifetimes. -/
def others (members : AngleList) : AngleList :=
  members.filter fun member => !member.isLifetime

/-- The comma between the lifetimes and the other members, unless it is written already. -/
def joint (members : AngleList) : List Lexeme :=
  if members.others.isEmpty ∨ (members.lifetimes.getLast?.all AngleMember.hasComma) then
    []
  else
    [Lexeme.comma]

/-- The members in canonical order. -/
def lifetimesFirst (members : AngleList) : List Lexeme :=
  members.lifetimes.inOrder ++ members.joint ++ members.others.inOrder

end AngleList

end SqlBuilder

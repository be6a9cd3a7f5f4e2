import SqlBuilder.Declaration.Keyword
import SqlBuilder.Declaration.Lexeme

/-!
# Positions within expressions

Expressions are read lexeme by lexeme.  What a lexeme means depends on what
stands in front of it: an angle bracket compares two values or opens a type, a
bar combines two values or opens the bindings of a closure, and a block ends a
statement or is a value.  It depends as well on what the expression belongs to,
which says where it ends.
-/

namespace SqlBuilder

/-- Where a lexeme of an expression stands. -/
inductive Place where
  /-- A statement, or the body of an arm, may begin here. -/
  | statement
  /-- An arm may begin here. -/
  | arm
  /-- Within an expression. -/
  | expression
deriving DecidableEq

/-- What expressions belong to. -/
inductive Surroundings where
  /-- They stand between brackets, and only the closing one ends them. -/
  | brackets
  /-- They are the arms that a value is matched with. -/
  | arms
  /-- There is one, which a comma or a semicolon ends. -/
  | member
  /-- There is one, which the block behind it ends. -/
  | head
deriving DecidableEq

/-- What is known about the lexemes in front. -/
structure Position where
  place : Place
  /-- Whether a value ends here, so that an operator may follow. -/
  afterValue : Bool
  surroundings : Surroundings
deriving DecidableEq

namespace Position

/-- The beginning of a block. -/
def block : Position := ⟨.statement, false, .brackets⟩

/-- The beginning of what stands between round or square brackets. -/
def list : Position := ⟨.expression, false, .brackets⟩

/-- The beginning of the arms that a value is matched with. -/
def arms : Position := ⟨.arm, false, .arms⟩

/-- The beginning of an expression that a comma or a semicolon ends. -/
def member : Position := ⟨.expression, false, .member⟩

/-- The beginning of an expression that the block behind it ends. -/
def head : Position := ⟨.expression, false, .head⟩

/-- The position within what a bracket opens. -/
def within : Bracket → Position
  | .curly => block
  | .round => list
  | .square => list

/-- A comma or a semicolon ends the expression. -/
def isMember (position : Position) : Bool := position.surroundings = .member

/-- A block that comes next ends the expression. -/
def endsAtBlock (position : Position) : Bool :=
  position.surroundings = .head && position.afterValue

/-- Where the next statement or the next arm begins. -/
def next (position : Position) : Position :=
  { position with
    place := if position.surroundings = .arms then .arm else .statement
    afterValue := false }

/-- Where the body of an arm begins. -/
def body (position : Position) : Position :=
  { position with place := .statement, afterValue := false }

/-- Behind a lexeme that ends a value. -/
def value (position : Position) : Position :=
  { position with place := .expression, afterValue := true }

/-- Behind a lexeme that needs a value. -/
def operator (position : Position) : Position :=
  { position with place := .expression, afterValue := false }

/-- Behind a label, which stands in front of a statement or an expression. -/
def label (position : Position) : Position :=
  { position with afterValue := false }

/-- Behind a closing bracket.  A block where a statement may begin is a statement. -/
def behind (position : Position) (bracket : Bracket) : Position :=
  if bracket = .curly ∧ position.place = .statement then position.next else position.value

/-- Behind the call of a macro, which may be a statement but not the whole body of an arm. -/
def behindCall (position : Position) (bracket : Bracket) : Position :=
  if position.surroundings = .arms then position.value else position.behind bracket

/-- Behind a comma, which separates the arms that a value is matched with. -/
def comma (position : Position) : Position :=
  if position.surroundings = .arms then position.next else position.operator

/-- Behind a word. -/
def word (position : Position) (name : String) : Position :=
  if position.place = .statement ∧ name ∈ blockKeywords then position.label
  else if EndsValue name then position.value
  else position.operator

end Position

end SqlBuilder

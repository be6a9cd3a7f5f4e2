import SqlBuilder.Literal

/-!
# JSON values

JSON values convert as dynamic values do, except that an object has no
expression and that a number may be an integer beyond INT64.

The members of an object are kept in ascending order of their keys, one value to
a key, so the order in which distinct keys were given never shows.
-/

namespace SqlBuilder

/-- Keyed values in ascending order of their keys. -/
abbrev Members (α : Type) := List (String × α)

namespace Members

variable {α : Type}

/-- The members with a value put under a key, in place of the value that was there. -/
def insert (key : String) (value : α) : Members α → Members α
  | [] => [(key, value)]
  | (otherKey, otherValue) :: rest =>
      if key < otherKey then
        (key, value) :: (otherKey, otherValue) :: rest
      else if key = otherKey then
        (key, value) :: rest
      else
        (otherKey, otherValue) :: insert key value rest

/-- The members given by a list of entries: a key given again has its last value. -/
def ofEntries (entries : List (String × α)) : Members α :=
  entries.foldl (fun members (key, value) => members.insert key value) []

/--
The value that a column name takes: the one whose key is the name, or else the
first one whose key agrees with it up to ASCII letter case.
-/
def forColumn? (members : Members α) (column : String) : Option α :=
  match members.find? (fun entry => decide (entry.1 = column)) with
  | some entry => some entry.2
  | none =>
      (members.find? (fun entry => decide (SameName entry.1 column))).map Prod.snd

end Members

/-- A JSON value.  Integers keep their exact value, other numbers are finite. -/
inductive Json where
  | null
  | bool (value : Bool)
  | int (value : Int64)
  | uint (value : UInt64)
  | float (value : Double)
  | string (content : String)
  | array (elements : List Json)
  | object (members : List (String × Json))

namespace Json

/-- A number as a JSON value; JSON has no infinities and nothing that is not a number. -/
def ofDouble (value : Double) : Json :=
  if value.IsFinite then .float value else .null

/-- A 32-bit number as a JSON value. -/
def ofSingle (value : Single) : Json :=
  if value.IsFinite then .float value.widen else .null

/-- The object given by a list of entries. -/
def ofEntries (entries : List (String × Json)) : Json :=
  .object (Members.ofEntries entries)

mutual

/-- The expression of a JSON value. -/
def toExpr : Json → Outcome Expr
  | .null => .ok .null
  | .bool value => .ok (.bool value)
  | .int value => .ok (.ofInt64 value)
  | .uint value => Expr.ofUInt64 value
  | .float value => .ok (.ofFloat value)
  | .string content => .ok (.string content)
  | .array elements => (Outcome.collectNoting .atIndex (outcomes elements)).map .array
  | .object _ => .error (.unsupportedType "JSON object")

/-- The expressions of a list of JSON values, each on its own. -/
def outcomes : List Json → List (Outcome Expr)
  | [] => []
  | element :: rest => element.toExpr :: outcomes rest

end

@[simp]
theorem outcomes_eq_map (elements : List Json) :
    outcomes elements = elements.map toExpr := by
  induction elements with
  | nil => rfl
  | cons element rest ih => simp [outcomes, ih]

end Json

end SqlBuilder

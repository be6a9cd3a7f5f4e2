import SqlBuilder.Value.Basic

/-!
# Values with a dynamic form

Plain values, sequences of such values and values that may be absent have a
dynamic form.  Unsigned integers of 64 bits, 32-bit floating point, UUIDs,
identifiers, subqueries, JSON values and values in wrappers have none.
-/

namespace SqlBuilder

mutual

/-- The dynamic form of a value, if it has one. -/
def Value.toDatum? : Value → Option Datum
  | .null => some .null
  | .string content => some (.string content)
  | .bytes content => some (.bytes content)
  | .int value => some (.int64 value)
  | .bool value => some (.bool value)
  | .float64 value => some (.float64 value)
  | .timestamp value => some (.timestamp value)
  | .date value => some (.date value)
  | .present value => value.toDatum?
  | .sequence elements => (Value.toData? elements).map .array
  | .dynamic value => some value
  | .expr expression => some (.expr expression)
  | .parameter value => some (.expr value.toExpr)
  | _ => none

/-- The dynamic forms of a list of values, if they all have one. -/
def Value.toData? : List Value → Option (List Datum)
  | [] => some []
  | value :: rest => do
      let datum ← value.toDatum?
      let data ← Value.toData? rest
      return datum :: data

end

end SqlBuilder

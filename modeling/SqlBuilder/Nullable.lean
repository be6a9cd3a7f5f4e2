/-!
# Nullable values

A payload with a flag that says whether it counts.  A payload that does not
count is kept all the same.
-/

namespace SqlBuilder

/-- A payload and whether it is valid. -/
structure Nullable (α : Type) where
  payload : α
  valid : Bool
deriving BEq

namespace Nullable

variable {α : Type}

/-- A valid payload. -/
def ofValue (payload : α) : Nullable α :=
  ⟨payload, true⟩

/-- The null value, with the default payload. -/
def null [Inhabited α] : Nullable α :=
  ⟨default, false⟩

/-- A valid payload if there is one, and null otherwise. -/
def ofOption [Inhabited α] : Option α → Nullable α
  | some payload => ofValue payload
  | none => null

/-- The payload if it is valid. -/
def toOption (nullable : Nullable α) : Option α :=
  if nullable.valid then some nullable.payload else none

/-- Whether the payload does not count. -/
def isNull (nullable : Nullable α) : Bool :=
  !nullable.valid

@[simp]
theorem toOption_ofOption [Inhabited α] (payload : Option α) :
    (ofOption payload).toOption = payload := by
  cases payload <;> rfl

end Nullable

end SqlBuilder

import SqlBuilder.Proofs.FirstFailure
import SqlBuilder.Value.Convert

/-!
# Positions of conversion errors

Sequences, JSON arrays and dynamic arrays all nest, and a value within them is
reached by a path: the index to take at each array, outermost first.  A value
converts exactly where everything that is reached through arrays alone does.

Where it does not, the error is that of the first leaf that does not convert, in
the order of the paths, with one position for each array on the way to it.
-/

namespace SqlBuilder

/-! ## Arrays within arrays -/

/-- A leaf, or an array of further trees. -/
inductive Nested (α : Type) where
  | leaf (value : α)
  | array (elements : List (Nested α))

namespace Nested

variable {α : Type} (convert : α → Outcome Expr)

mutual

/-- The expression of a tree whose leaves convert in a given way. -/
def toExpr : Nested α → Outcome Expr
  | .leaf value => convert value
  | .array elements => (Outcome.collectNoting .atIndex (outcomes elements)).map .array

/-- The expressions of a list of trees, each on its own. -/
def outcomes : List (Nested α) → List (Outcome Expr)
  | [] => []
  | tree :: rest => tree.toExpr :: outcomes rest

end

@[simp]
theorem outcomes_eq_map (trees : List (Nested α)) :
    outcomes convert trees = trees.map (toExpr convert) := by
  induction trees with
  | nil => rfl
  | cons tree rest ih => simp [outcomes, ih]

/-- The leaf at the end of a path. -/
def leafAt? : Nested α → List Nat → Option α
  | .leaf value, [] => some value
  | .leaf _, _ :: _ => none
  | .array _, [] => none
  | .array elements, index :: path =>
      match elements[index]? with
      | some element => element.leafAt? path
      | none => none

section LeafAt

variable {value leaf : α} {elements : List (Nested α)} {path : List Nat}

@[simp]
theorem leafAt?_leaf_eq_some :
    (Nested.leaf value).leafAt? path = some leaf ↔ path = [] ∧ leaf = value := by
  cases path <;> simp [leafAt?, eq_comm]

@[simp]
theorem leafAt?_array_nil : (Nested.array elements).leafAt? [] = none := rfl

theorem leafAt?_array_cons {index : Nat} :
    (Nested.array elements).leafAt? (index :: path) = some leaf ↔
      ∃ element, elements[index]? = some element ∧ element.leafAt? path = some leaf := by
  rw [leafAt?]
  cases elements[index]? <;> simp

end LeafAt

/-- What holds of leaves, and of an array whose elements it holds of, holds of every tree. -/
theorem induction {motive : Nested α → Prop}
    (ofLeaf : ∀ value, motive (.leaf value))
    (ofArray : ∀ elements, (∀ element ∈ elements, motive element) → motive (.array elements)) :
    ∀ tree, motive tree
  | .leaf value => ofLeaf value
  | .array elements => ofArray elements fun element _ => induction ofLeaf ofArray element

/-- Every leaf of a tree meets a condition. -/
def Leaves (condition : α → Prop) (tree : Nested α) : Prop :=
  ∀ path leaf, tree.leafAt? path = some leaf → condition leaf

section Leaves

variable {condition : α → Prop}

@[simp]
theorem leaves_leaf {value : α} : (Nested.leaf value).Leaves condition ↔ condition value := by
  simp [Leaves]

@[simp]
theorem leaves_array {elements : List (Nested α)} :
    (Nested.array elements).Leaves condition ↔ ∀ element ∈ elements, element.Leaves condition := by
  constructor
  · intro every element member path leaf reached
    obtain ⟨index, present⟩ := List.mem_iff_getElem?.mp member
    exact every (index :: path) leaf (leafAt?_array_cons.mpr ⟨element, present, reached⟩)
  · intro every path leaf found
    cases path with
    | nil => cases found
    | cons index path =>
        obtain ⟨element, present, reached⟩ := leafAt?_array_cons.mp found
        exact every element (List.mem_of_getElem? present) path leaf reached

end Leaves

/-! ## Where a tree fails -/

variable {convert}

theorem map_array_eq_error_iff {outcome : Outcome (List Expr)} {error : Error} :
    outcome.map Expr.array = .error error ↔ outcome = .error error := by
  cases outcome <;> simp [Except.map]

/-- A tree converts exactly where its leaves do. -/
theorem exists_toExpr_eq_ok_iff (tree : Nested α) :
    (∃ result, tree.toExpr convert = .ok result) ↔
      tree.Leaves fun leaf => ∃ result, convert leaf = .ok result := by
  induction tree using Nested.induction with
  | ofLeaf value => rw [toExpr, leaves_leaf]
  | ofArray elements ih =>
      have collected :
          (∃ result, (Nested.array elements).toExpr convert = .ok result) ↔
            ∀ element ∈ elements, ∃ result, element.toExpr convert = .ok result := by
        rw [← Outcome.exists_collectNoting_map_eq_ok_iff .atIndex, toExpr, outcomes_eq_map]
        cases Outcome.collectNoting .atIndex (elements.map (toExpr convert)) <;>
          simp [Except.map]
      rw [collected, leaves_array]
      exact forall₂_congr ih

end Nested

/-- An error with the positions of a path in front, the first one outermost. -/
def Error.at (path : List Nat) (cause : Error) : Error :=
  path.foldr .atIndex cause

namespace Nested

variable {α : Type} {convert : α → Outcome Expr}

/-- The leaf at a path does not convert, and every leaf at a smaller path does. -/
structure FailsFirstAt
    (convert : α → Outcome Expr) (tree : Nested α)
    (path : List Nat) (leaf : α) (cause : Error) : Prop where
  here : tree.leafAt? path = some leaf
  failed : convert leaf = .error cause
  before : ∀ earlier < path, ∀ other, tree.leafAt? earlier = some other →
    ∃ result, convert other = .ok result

/-- An array fails first within its first failing element. -/
theorem failsFirstAt_array_cons {elements : List (Nested α)} {index : Nat} {path : List Nat}
    {leaf : α} {cause : Error} :
    FailsFirstAt convert (.array elements) (index :: path) leaf cause ↔
      (∃ element, elements[index]? = some element ∧
        FailsFirstAt convert element path leaf cause) ∧
      ∀ earlier < index, ∀ element, elements[earlier]? = some element →
        ∃ result, element.toExpr convert = .ok result := by
  constructor
  · rintro ⟨here, failed, before⟩
    obtain ⟨element, present, reached⟩ := leafAt?_array_cons.mp here
    refine ⟨⟨element, present, reached, failed, ?_⟩, ?_⟩
    · intro earlier below other found
      exact before (index :: earlier) (List.cons_lt_cons_self.mpr below) other
        (leafAt?_array_cons.mpr ⟨element, present, found⟩)
    · intro earlier below element' present'
      refine (exists_toExpr_eq_ok_iff element').mpr fun path' other found => ?_
      exact before (earlier :: path') (List.cons_lt_cons_iff.mpr (.inl below)) other
        (leafAt?_array_cons.mpr ⟨element', present', found⟩)
  · rintro ⟨⟨element, present, here, failed, before⟩, others⟩
    refine ⟨leafAt?_array_cons.mpr ⟨element, present, here⟩, failed, ?_⟩
    intro earlier below other found
    cases earlier with
    | nil => cases found
    | cons first rest =>
        obtain ⟨element', present', reached⟩ := leafAt?_array_cons.mp found
        rcases List.cons_lt_cons_iff.mp below with smaller | ⟨rfl, smaller⟩
        · exact (exists_toExpr_eq_ok_iff element').mp (others first smaller element' present')
            rest other reached
        · obtain rfl : element = element' := Option.some.inj (present.symm.trans present')
          exact before rest smaller other reached

/-- A tree fails with the error of its first failing leaf, and with that leaf's path. -/
theorem toExpr_eq_error_iff (tree : Nested α) (error : Error) :
    tree.toExpr convert = .error error ↔
      ∃ path leaf cause, FailsFirstAt convert tree path leaf cause ∧ error = cause.at path := by
  induction tree using Nested.induction generalizing error with
  | ofLeaf value =>
      constructor
      · intro failed
        refine ⟨[], value, error, ⟨rfl, failed, ?_⟩, rfl⟩
        intro earlier below
        exact absurd below (List.not_lt_nil earlier)
      · rintro ⟨path, leaf, cause, ⟨here, failed, -⟩, rfl⟩
        obtain ⟨rfl, rfl⟩ := leafAt?_leaf_eq_some.mp here
        exact failed
  | ofArray elements ih =>
      rw [toExpr, map_array_eq_error_iff, outcomes_eq_map,
        Outcome.collectNoting_map_eq_error_iff]
      constructor
      · rintro ⟨index, inner, ⟨⟨element, present, failed⟩, before⟩, rfl⟩
        obtain ⟨path, leaf, cause, first, rfl⟩ :=
          (ih element (List.mem_of_getElem? present) inner).mp failed
        exact ⟨index :: path, leaf, cause,
          failsFirstAt_array_cons.mpr ⟨⟨element, present, first⟩, before⟩, rfl⟩
      · rintro ⟨path, leaf, cause, first, rfl⟩
        cases path with
        | nil => cases first.here
        | cons index path =>
            obtain ⟨⟨element, present, within⟩, before⟩ := failsFirstAt_array_cons.mp first
            refine ⟨index, cause.at path, ⟨⟨element, present, ?_⟩, before⟩, rfl⟩
            exact (ih element (List.mem_of_getElem? present) (cause.at path)).mpr
              ⟨path, leaf, cause, within, rfl⟩

end Nested

/-! ## Values as trees -/

mutual

/-- A JSON value as a tree, with everything that is not an array for a leaf. -/
def Json.nested : Json → Nested Value
  | .array elements => .array (Json.nestedAll elements)
  | leaf => .leaf (.json leaf)

def Json.nestedAll : List Json → List (Nested Value)
  | [] => []
  | value :: rest => value.nested :: Json.nestedAll rest

end

mutual

/-- A dynamic value as a tree, with everything that is not an array for a leaf. -/
def Datum.nested : Datum → Nested Value
  | .array elements => .array (Datum.nestedAll elements)
  | leaf => .leaf (.dynamic leaf)

def Datum.nestedAll : List Datum → List (Nested Value)
  | [] => []
  | value :: rest => value.nested :: Datum.nestedAll rest

end

mutual

/-- A value as a tree: wrappers and values that are present add nothing to a path. -/
def Value.nested : Value → Nested Value
  | .present value => value.nested
  | .nullable payload true => payload.nested
  | .wrapped value => value.nested
  | .sequence elements => .array (Value.nestedAll elements)
  | .dynamic value => value.nested
  | .json value => value.nested
  | leaf => .leaf leaf

def Value.nestedAll : List Value → List (Nested Value)
  | [] => []
  | value :: rest => value.nested :: Value.nestedAll rest

end

mutual

theorem Json.toExpr_nested : ∀ value : Json,
    value.nested.toExpr Value.toExpr = value.toExpr
  | .array elements => by
      rw [Json.nested, Nested.toExpr, Json.toExpr, Json.outcomes_nestedAll elements]
  | .null | .bool _ | .int _ | .uint _ | .float _ | .string _ | .object _ => by
      simp only [Json.nested, Nested.toExpr, Value.toExpr]

theorem Json.outcomes_nestedAll : ∀ values : List Json,
    Nested.outcomes Value.toExpr (Json.nestedAll values) = Json.outcomes values
  | [] => rfl
  | value :: rest => by
      rw [Json.nestedAll, Nested.outcomes, Json.outcomes, Json.toExpr_nested value,
        Json.outcomes_nestedAll rest]

end

mutual

/-- The elements of dynamic arrays are converted without a check, and none is needed. -/
theorem Datum.toExpr_nested : ∀ value : Datum,
    value.nested.toExpr Value.toExpr = .ok value.toExpr
  | .array elements => by
      rw [Datum.nested, Nested.toExpr, Datum.toExpr, Datum.outcomes_nestedAll elements,
        Outcome.collectNoting_map_ok]
      rfl
  | .null | .string _ | .bytes _ | .int64 _ | .bool _ | .float64 _ | .timestamp _ | .date _
  | .expr _ => by
      simp only [Datum.nested, Nested.toExpr, Value.toExpr]

theorem Datum.outcomes_nestedAll : ∀ values : List Datum,
    Nested.outcomes Value.toExpr (Datum.nestedAll values) = (Datum.toExprs values).map .ok
  | [] => rfl
  | value :: rest => by
      rw [Datum.nestedAll, Nested.outcomes, Datum.toExprs, Datum.toExpr_nested value,
        Datum.outcomes_nestedAll rest, List.map_cons]

end

mutual

/-- A value converts as its tree does. -/
theorem Value.toExpr_nested : ∀ value : Value,
    value.nested.toExpr Value.toExpr = value.toExpr
  | .present value => by
      rw [Value.nested, Value.toExpr, Value.toExpr_nested value]
  | .nullable payload true => by
      rw [Value.nested, Value.toExpr, Value.toExpr_nested payload, if_pos rfl]
  | .wrapped value => by
      rw [Value.nested, Value.toExpr, Value.toExpr_nested value]
  | .sequence elements => by
      rw [Value.nested, Nested.toExpr, Value.toExpr, Value.outcomes_nestedAll elements]
  | .dynamic value => by
      rw [Value.nested, Value.toExpr, value.toExpr_nested]
  | .json value => by
      rw [Value.nested, Value.toExpr, value.toExpr_nested]
  | .nullable _ false | .null | .string _ | .bytes _ | .int _ | .uint _ | .bool _ | .float64 _
  | .float32 _ | .timestamp _ | .date _ | .uuid _ | .expr _ | .identifier _ | .parameter _
  | .subquery _ => by
      simp only [Value.nested, Nested.toExpr]

theorem Value.outcomes_nestedAll : ∀ values : List Value,
    Nested.outcomes Value.toExpr (Value.nestedAll values) = Value.outcomes values
  | [] => rfl
  | value :: rest => by
      rw [Value.nestedAll, Nested.outcomes, Value.outcomes, Value.toExpr_nested value,
        Value.outcomes_nestedAll rest]

end

/-! ## Leaves -/

/-- The values that have no expression, and why. -/
inductive Value.Unconvertible : Value → Error → Prop where
  | jsonObject (members : List (String × Json)) :
      Unconvertible (.json (.object members)) (.unsupportedType "JSON object")
  | jsonUnsigned (value : UInt64) (beyond : 2 ^ (63 : Nat) ≤ value.toNat) :
      Unconvertible (.json (.uint value)) (.integerOutOfRange value.toNat.repr)
  | unsigned (value : UInt64) (beyond : 2 ^ (63 : Nat) ≤ value.toNat) :
      Unconvertible (.uint value) (.integerOutOfRange value.toNat.repr)
  | emptyIdentifier :
      Unconvertible (.identifier ⟨[]⟩) .emptyIdentifier
  | subquery (value : Subquery) {cause : Error} (failed : value.query.toSelect = .error cause) :
      Unconvertible (.subquery value) cause

theorem Expr.ofUInt64_eq_error_iff {value : UInt64} {error : Error} :
    Expr.ofUInt64 value = .error error ↔
      2 ^ (63 : Nat) ≤ value.toNat ∧ error = .integerOutOfRange value.toNat.repr := by
  unfold Expr.ofUInt64
  split <;> simp [eq_comm] <;> omega

/-- A value fails for the reason listed, or not at all. -/
def Value.FailsAsListed (value : Value) : Prop :=
  ∀ cause, value.toExpr = .error cause ↔ value.Unconvertible cause

theorem Value.failsAsListed_jsonObject (members : List (String × Json)) :
    (Value.json (.object members)).FailsAsListed := by
  intro cause
  rw [Value.toExpr, Json.toExpr]
  constructor
  · rintro ⟨⟩
    exact .jsonObject members
  · rintro ⟨⟩
    rfl

theorem Value.failsAsListed_jsonUnsigned (value : UInt64) :
    (Value.json (.uint value)).FailsAsListed := by
  intro cause
  rw [Value.toExpr, Json.toExpr, Expr.ofUInt64_eq_error_iff]
  constructor
  · rintro ⟨beyond, rfl⟩
    exact .jsonUnsigned value beyond
  · rintro ⟨⟩
    exact ⟨‹_›, rfl⟩

theorem Value.failsAsListed_uint (value : UInt64) : (Value.uint value).FailsAsListed := by
  intro cause
  rw [Value.toExpr, Expr.ofUInt64_eq_error_iff]
  constructor
  · rintro ⟨beyond, rfl⟩
    exact .unsigned value beyond
  · rintro ⟨⟩
    exact ⟨‹_›, rfl⟩

theorem Value.failsAsListed_identifier (value : Identifier) :
    (Value.identifier value).FailsAsListed := by
  intro cause
  obtain ⟨segments⟩ := value
  rw [Value.toExpr, Identifier.toExpr]
  cases segments with
  | nil =>
      constructor
      · rintro ⟨⟩
        exact .emptyIdentifier
      · rintro ⟨⟩
        rfl
  | cons segment rest => constructor <;> rintro ⟨⟩

theorem Value.failsAsListed_subquery (value : Subquery) :
    (Value.subquery value).FailsAsListed := by
  intro cause
  rw [Value.toExpr]
  have converted : value.toExpr = value.query.toSelect.map (.subquery value.form) := by
    obtain ⟨form, query, label⟩ := value
    rw [Subquery.toExpr]
  constructor
  · intro failed
    cases outcome : value.query.toSelect with
    | ok query =>
        rw [converted, outcome] at failed
        cases failed
    | error error =>
        rw [converted, outcome] at failed
        cases failed
        exact .subquery value outcome
  · rintro ⟨⟩
    rename_i failed
    rw [converted, failed]
    rfl

mutual

theorem Json.leaves_nested : ∀ value : Json, value.nested.Leaves Value.FailsAsListed
  | .array elements => Nested.leaves_array.mpr (Json.leaves_nestedAll elements)
  | .uint value => Nested.leaves_leaf.mpr (Value.failsAsListed_jsonUnsigned value)
  | .object members => Nested.leaves_leaf.mpr (Value.failsAsListed_jsonObject members)
  | .null | .bool _ | .int _ | .float _ | .string _ =>
      Nested.leaves_leaf.mpr fun _ => ⟨nofun, nofun⟩

theorem Json.leaves_nestedAll : ∀ values : List Json,
    ∀ tree ∈ Json.nestedAll values, tree.Leaves Value.FailsAsListed
  | [] => nofun
  | value :: rest => List.forall_mem_cons.mpr ⟨value.leaves_nested, Json.leaves_nestedAll rest⟩

end

mutual

theorem Datum.leaves_nested : ∀ value : Datum, value.nested.Leaves Value.FailsAsListed
  | .array elements => Nested.leaves_array.mpr (Datum.leaves_nestedAll elements)
  | .null | .string _ | .bytes _ | .int64 _ | .bool _ | .float64 _ | .timestamp _ | .date _
  | .expr _ => Nested.leaves_leaf.mpr fun _ => ⟨nofun, nofun⟩

theorem Datum.leaves_nestedAll : ∀ values : List Datum,
    ∀ tree ∈ Datum.nestedAll values, tree.Leaves Value.FailsAsListed
  | [] => nofun
  | value :: rest => List.forall_mem_cons.mpr ⟨value.leaves_nested, Datum.leaves_nestedAll rest⟩

end

mutual

/-- What a value reaches through arrays fails for the reason listed, or not at all. -/
theorem Value.leaves_nested : ∀ value : Value, value.nested.Leaves Value.FailsAsListed
  | .present value => by
      rw [Value.nested]
      exact value.leaves_nested
  | .nullable payload true => by
      rw [Value.nested]
      exact payload.leaves_nested
  | .wrapped value => by
      rw [Value.nested]
      exact value.leaves_nested
  | .sequence elements => by
      rw [Value.nested]
      exact Nested.leaves_array.mpr (Value.leaves_nestedAll elements)
  | .dynamic value => by
      rw [Value.nested]
      exact value.leaves_nested
  | .json value => by
      rw [Value.nested]
      exact value.leaves_nested
  | .uint value => Nested.leaves_leaf.mpr (Value.failsAsListed_uint value)
  | .identifier value => Nested.leaves_leaf.mpr (Value.failsAsListed_identifier value)
  | .subquery value => Nested.leaves_leaf.mpr (Value.failsAsListed_subquery value)
  | .nullable _ false | .null | .string _ | .bytes _ | .int _ | .bool _ | .float64 _
  | .float32 _ | .timestamp _ | .date _ | .uuid _ | .expr _ | .parameter _ => by
      rw [Value.nested]
      · exact Nested.leaves_leaf.mpr fun _ => ⟨nofun, nofun⟩
      all_goals nofun

theorem Value.leaves_nestedAll : ∀ values : List Value,
    ∀ tree ∈ Value.nestedAll values, tree.Leaves Value.FailsAsListed
  | [] => nofun
  | value :: rest => List.forall_mem_cons.mpr ⟨value.leaves_nested, Value.leaves_nestedAll rest⟩

end

/-! ## Positions and roots -/

namespace Error

/-- The words for a position in front of a message. -/
def positionText (index : Nat) : String :=
  "at index " ++ index.repr ++ ": "

/-- An error that has a position in front of it. -/
def IsPositioned : Error → Prop
  | .atIndex _ _ => True
  | .inRow _ _ => True
  | _ => False

theorem message_at (path : List Nat) (cause : Error) :
    (cause.at path).message = String.join (path.map positionText) ++ cause.message := by
  induction path with
  | nil => simp [Error.at]
  | cons index path ih =>
      calc ((cause.at path).atIndex index).message
          = positionText index ++ (cause.at path).message := rfl
        _ = String.join ((index :: path).map positionText) ++ cause.message := by
          rw [ih, List.map_cons, String.join_cons, String.append_assoc]

theorem rootCause_at (path : List Nat) (cause : Error) :
    (cause.at path).rootCause = cause.rootCause := by
  induction path with
  | nil => rfl
  | cons index path ih => exact ih

theorem not_isPositioned_rootCause (error : Error) : ¬ error.rootCause.IsPositioned := by
  induction error with
  | atIndex index cause ih => exact ih
  | inRow index cause ih => exact ih
  | _ => exact id

/-- An error is its own root exactly where no position is in front of it. -/
theorem rootCause_eq_self_iff (error : Error) :
    error.rootCause = error ↔ ¬ error.IsPositioned := by
  constructor
  · intro same
    exact same ▸ error.not_isPositioned_rootCause
  · intro bare
    cases error with
    | atIndex index cause => exact absurd trivial bare
    | inRow index cause => exact absurd trivial bare
    | _ => rfl

end Error

/-- Of the leaves that have no expression only a subquery has an error with a position in front. -/
theorem Value.Unconvertible.exists_subquery {leaf : Value} {cause : Error}
    (failed : leaf.Unconvertible cause) (positioned : cause.IsPositioned) :
    ∃ query, leaf = .subquery query := by
  cases failed with
  | subquery query _ => exact ⟨query, rfl⟩
  | _ => cases positioned

/-! ## The first failing leaf -/

/--
A value fails exactly where a leaf that has no expression is reached through
arrays alone.  Its error is that of the first such leaf, behind the indices of the
leaf's path; every leaf with a smaller path converts.  The message is the message
of the leaf's error with a position for each index in front, and the root of the
error is the root of the leaf's error: that error itself, unless the leaf is a
subquery whose error has positions of its own.  Dynamic values never fail, though
every element of theirs be checked.
-/
theorem Value.toExpr_failsAt_firstPath :
    (∀ value : Value,
      ((∃ error, value.toExpr = .error error) ↔
        ∃ path leaf cause, value.nested.leafAt? path = some leaf ∧ leaf.Unconvertible cause) ∧
      (∀ error, value.toExpr = .error error ↔
        ∃ path leaf cause, value.nested.leafAt? path = some leaf ∧
          leaf.Unconvertible cause ∧
          (∀ earlier < path, ∀ other, value.nested.leafAt? earlier = some other →
            ∃ result, other.toExpr = .ok result) ∧
          error = cause.at path) ∧
      (∀ path leaf cause, value.nested.leafAt? path = some leaf → leaf.Unconvertible cause →
        (cause.at path).message =
          String.join (path.map Error.positionText) ++ cause.message ∧
        (cause.at path).rootCause = cause.rootCause ∧
        ((cause.at path).rootCause = cause ↔ ¬ cause.IsPositioned) ∧
        (cause.IsPositioned → ∃ query, leaf = .subquery query))) ∧
    (∀ datum : Datum,
      datum.nested.toExpr Value.toExpr = (Value.dynamic datum).toExpr ∧
      ∃ result, (Value.dynamic datum).toExpr = .ok result) := by
  constructor
  · intro value
    have listed : ∀ path leaf, value.nested.leafAt? path = some leaf → leaf.FailsAsListed :=
      value.leaves_nested
    refine ⟨?_, ?_, ?_⟩
    · have converts : (∃ result, value.nested.toExpr Value.toExpr = .ok result) ↔ _ :=
        Nested.exists_toExpr_eq_ok_iff value.nested
      rw [Value.toExpr_nested] at converts
      constructor
      · rintro ⟨error, failed⟩
        rw [← Value.toExpr_nested, Nested.toExpr_eq_error_iff] at failed
        obtain ⟨path, leaf, cause, first, -⟩ := failed
        exact ⟨path, leaf, cause, first.here, (listed path leaf first.here cause).mp first.failed⟩
      · rintro ⟨path, leaf, cause, found, unconvertible⟩
        cases outcome : value.toExpr with
        | error error => exact ⟨error, rfl⟩
        | ok result =>
            obtain ⟨leafResult, converted⟩ := converts.mp ⟨result, outcome⟩ path leaf found
            rw [(listed path leaf found cause).mpr unconvertible] at converted
            cases converted
    · intro error
      rw [← Value.toExpr_nested, Nested.toExpr_eq_error_iff]
      constructor
      · rintro ⟨path, leaf, cause, ⟨here, failed, before⟩, same⟩
        exact ⟨path, leaf, cause, here, (listed path leaf here cause).mp failed, before, same⟩
      · rintro ⟨path, leaf, cause, here, unconvertible, before, same⟩
        exact ⟨path, leaf, cause,
          ⟨here, (listed path leaf here cause).mpr unconvertible, before⟩, same⟩
    · intro path leaf cause _ unconvertible
      refine ⟨Error.message_at path cause, Error.rootCause_at path cause, ?_,
        unconvertible.exists_subquery⟩
      rw [Error.rootCause_at, Error.rootCause_eq_self_iff]
  · intro datum
    refine ⟨?_, datum.toExpr, by rw [Value.toExpr]⟩
    rw [Value.toExpr, Datum.toExpr_nested]

/-- A JSON array whose first failing leaf is the second element of its second element. -/
def secondOfSecond : Value :=
  .json (.array [.int 1, .array [.null, .object [], .uint 9223372036854775808], .object []])

/-- A subquery that fails within an array of its own: the element is no INT64. -/
def outOfRangeQuery : SelectDraft where
  table := "t"
  columns := ["a"]
  subqueries := []
  conditions :=
    [.compare .equal (.identifier (.ofName "a")) (.sequence [.uint 9223372036854775808])]
  orderBy := []
  range := none

/-- An array of the subquery. -/
def arrayOfQuery : Value :=
  .sequence [.subquery ⟨.scalar, outOfRangeQuery, none⟩]

theorem secondOfSecond_convertsBefore (earlier : List Nat) (smaller : earlier < [1, 1])
    (other : Value) (found : secondOfSecond.nested.leafAt? earlier = some other) :
    ∃ result, other.toExpr = .ok result := by
  match earlier, found with
  | 0 :: path, found =>
      obtain ⟨-, rfl⟩ := Nested.leafAt?_leaf_eq_some.mp found
      exact ⟨_, rfl⟩
  | 1 :: 0 :: path, found =>
      obtain ⟨-, rfl⟩ := Nested.leafAt?_leaf_eq_some.mp found
      exact ⟨_, rfl⟩
  | 1 :: (index + 1) :: path, found =>
      rcases List.cons_lt_cons_iff.mp smaller with less | ⟨-, less⟩
      · exact absurd less (Nat.lt_irrefl 1)
      · rcases List.cons_lt_cons_iff.mp less with below | ⟨-, below⟩
        · omega
        · exact absurd below (List.not_lt_nil path)
  | (index + 2) :: path, found =>
      rcases List.cons_lt_cons_iff.mp smaller with less | ⟨same, -⟩ <;> omega

theorem secondOfSecond_failsAt_firstPath :
    secondOfSecond.toExpr = .error ((Error.unsupportedType "JSON object").at [1, 1]) ∧
      ((Error.unsupportedType "JSON object").at [1, 1]).message =
        "at index 1: at index 1: can't convert JSON object into SQL expr" ∧
      ((Error.unsupportedType "JSON object").at [1, 1]).rootCause =
        .unsupportedType "JSON object" ∧
    (∃ error, arrayOfQuery.toExpr = .error error) ∧
      ∃ query, Value.subquery ⟨.scalar, outOfRangeQuery, none⟩ = .subquery query := by
  obtain ⟨-, exact, written⟩ := Value.toExpr_failsAt_firstPath.1 secondOfSecond
  obtain ⟨fails, -, queried⟩ := Value.toExpr_failsAt_firstPath.1 arrayOfQuery
  have leaf : secondOfSecond.nested.leafAt? [1, 1] = some (.json (.object [])) := rfl
  have failed := Value.Unconvertible.jsonObject []
  obtain ⟨message, root, -, -⟩ := written [1, 1] _ _ leaf failed
  have leaf' : arrayOfQuery.nested.leafAt? [0] =
      some (.subquery ⟨.scalar, outOfRangeQuery, none⟩) := rfl
  have failed' : Value.Unconvertible (.subquery ⟨.scalar, outOfRangeQuery, none⟩)
      (.atIndex 0 (.integerOutOfRange "9223372036854775808")) := .subquery _ rfl
  obtain ⟨-, -, -, positioned⟩ := queried [0] _ _ leaf' failed'
  exact ⟨(exact _).mpr ⟨[1, 1], _, _, leaf, failed, secondOfSecond_convertsBefore, rfl⟩,
    message.trans (by decide +kernel), root.trans rfl, fails.mpr ⟨[0], _, _, leaf', failed'⟩,
    positioned trivial⟩

/-- The root of an error need not be the error of the leaf that failed. -/
theorem not_forall_rootCause_eq :
    ¬ ∀ (value : Value) (error : Error), value.toExpr = .error error →
      ∃ path leaf cause, value.nested.leafAt? path = some leaf ∧
        leaf.Unconvertible cause ∧ error = cause.at path ∧ error.rootCause = cause := by
  intro every
  obtain ⟨path, leaf, cause, found, -, same, root⟩ :=
    every arrayOfQuery
      (.atIndex 0 (.atIndex 0 (.integerOutOfRange "9223372036854775808"))) (by rfl)
  match path, found with
  | index :: path, found =>
      obtain ⟨element, present, reached⟩ := Nested.leafAt?_array_cons.mp found
      obtain rfl : element = .leaf (.subquery ⟨.scalar, outOfRangeQuery, none⟩) := by
        cases index with
        | zero => exact (Option.some.inj present).symm
        | succ index => cases present
      obtain ⟨rfl, -⟩ := Nested.leafAt?_leaf_eq_some.mp reached
      -- The path has one index, so the leaf's own error still has one in front of it.
      cases same
      cases root

end SqlBuilder

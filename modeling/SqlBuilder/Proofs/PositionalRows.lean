import SqlBuilder.Proofs.Conversion
import SqlBuilder.Proofs.IndexPath
import SqlBuilder.Proofs.Representation
import SqlBuilder.Row

/-!
# Rows by position and arrays

A sequence of values can be a row and it can be an array.  Its elements are converted
in the same order either way, and the first one that does not convert ends it.  Only
the array notes the position of that element; positions within the element are noted
in both.

The main statement is that the cells of the row are the elements of the array, whatever
the columns are, and that the two fail together and for the same cause.
-/

namespace SqlBuilder

namespace Row

/-- A row and a value that are the same sequence of elements. -/
inductive SameSequence : Row → Value → List Value → Prop where
  | sequence (elements : List Value) :
      SameSequence (.sequence elements) (.sequence elements) elements
  | dynamic (elements : List Datum) :
      SameSequence (.dynamic (.array elements)) (.dynamic (.array elements))
        (elements.map .dynamic)
  | json (elements : List Json) :
      SameSequence (.json (.array elements)) (.json (.array elements)) (elements.map .json)
  | wrapped {row : Row} {value : Value} {elements : List Value}
      (same : SameSequence row value elements) :
      SameSequence (.wrapped row) (.wrapped value) elements

variable {row : Row} {value : Value} {elements : List Value}

/-- The row takes its cells from the elements. -/
theorem SameSequence.bind_eq (same : row.SameSequence value elements) (columns : List String) :
    row.bind columns = positional elements := by
  induction same with
  | sequence elements => rw [bind]
  | dynamic elements =>
      rw [bind, Datum.bind, positional, List.map_map, Value.toExpr_comp_dynamic, ← List.map_map,
        Outcome.collect_eq_ok_iff.mpr rfl]
  | json elements =>
      rw [bind, Json.bind, positional, List.map_map, Value.toExpr_comp_json]
  | wrapped _ ih => rw [bind, ih]

/-- The value converts as the list of the elements does. -/
theorem SameSequence.toExpr_eq (same : row.SameSequence value elements) :
    value.toExpr = (Value.sequence elements).toExpr := by
  induction same with
  | sequence elements => rfl
  | dynamic elements => exact Value.toExpr_dynamicArray elements
  | json elements => exact Value.toExpr_jsonArray elements
  | wrapped _ ih => rw [Value.toExpr, ih]

theorem positional_eq_error_iff {cause : Error} :
    positional elements = .error cause ↔
      ∃ index, Outcome.FailsFirst Value.toExpr elements index cause := by
  rw [positional, Outcome.collect, Outcome.collectNoting_map_eq_error_iff]
  constructor
  · rintro ⟨index, _, first, rfl⟩
    exact ⟨index, first⟩
  · rintro ⟨index, first⟩
    exact ⟨index, cause, first, rfl⟩

theorem toExpr_sequence_eq_ok_iff {result : Expr} :
    (Value.sequence elements).toExpr = .ok result ↔
      ∃ cells, positional elements = .ok cells ∧ .array cells = result := by
  rw [Value.toExpr_sequence, Outcome.map_eq_ok_iff]
  simp only [positional, Outcome.collect, Outcome.collectNoting, Outcome.collectFrom_eq_ok_iff]

theorem toExpr_sequence_eq_error_iff {error : Error} :
    (Value.sequence elements).toExpr = .error error ↔
      ∃ index cause, Outcome.FailsFirst Value.toExpr elements index cause ∧
        error = .atIndex index cause := by
  rw [Value.toExpr_sequence, Nested.map_array_eq_error_iff,
    Outcome.collectNoting_map_eq_error_iff]

end Row

/--
Whatever the columns are, a row given by position has cells exactly where the same
sequence converts to an array, and the cells are the elements of the array.  The row
fails exactly where the sequence does: the row with the error of the first element
that does not convert, and the sequence with this error behind the element's index.
A tuple of the elements makes the same row, or fails with the same error.
-/
theorem Row.bind_agreesWithArray
    (columns : List String) (row : Row) (value : Value) (elements : List Value)
    (same : row.SameSequence value elements) :
    (∀ cells, row.bind columns = .ok cells ↔ value.toExpr = .ok (.array cells)) ∧
      (∀ cause, row.bind columns = .error cause ↔
        ∃ index, value.toExpr = .error (.atIndex index cause) ∧
          Outcome.FailsFirst Value.toExpr elements index cause) ∧
      (∀ error, value.toExpr = .error error →
        ∃ index cause, error = .atIndex index cause ∧ row.bind columns = .error cause) ∧
      (Row.tuple elements).bind columns = row.bind columns := by
  rw [same.bind_eq, same.toExpr_eq]
  refine ⟨?_, ?_, ?_, by rw [Row.bind]⟩
  · intro cells
    rw [Row.toExpr_sequence_eq_ok_iff]
    constructor
    · intro bound
      exact ⟨cells, bound, rfl⟩
    · rintro ⟨_, bound, ⟨⟩⟩
      exact bound
  · intro cause
    rw [Row.positional_eq_error_iff]
    refine exists_congr fun index => ⟨fun first => ⟨?_, first⟩, fun both => both.2⟩
    exact Row.toExpr_sequence_eq_error_iff.mpr ⟨index, cause, first, rfl⟩
  · intro error failed
    obtain ⟨index, cause, first, rfl⟩ := Row.toExpr_sequence_eq_error_iff.mp failed
    exact ⟨index, cause, rfl, Row.positional_eq_error_iff.mpr ⟨index, first⟩⟩

/-- A JSON array with an array in it that does not convert. -/
def nestedElements : List Json :=
  [.int 1, .array [.null, .array [.object []]], .object []]

/-- The row does not note that the second element failed, only where it failed. -/
theorem nestedElements_agreeWithArray :
    (Row.wrapped (.json (.array nestedElements))).SameSequence
        (.wrapped (.json (.array nestedElements))) (nestedElements.map .json) ∧
      (Row.wrapped (.json (.array nestedElements))).bind ["a"] =
        .error (.atIndex 1 (.atIndex 0 (.unsupportedType "JSON object"))) ∧
      (∃ index,
        (Value.wrapped (.json (.array nestedElements))).toExpr =
          .error (.atIndex index (.atIndex 1 (.atIndex 0 (.unsupportedType "JSON object")))) ∧
        Outcome.FailsFirst Value.toExpr (nestedElements.map .json) index
          (.atIndex 1 (.atIndex 0 (.unsupportedType "JSON object")))) ∧
      (Row.tuple (nestedElements.map .json)).bind ["a"] =
        (Row.wrapped (.json (.array nestedElements))).bind ["a"] := by
  have same := Row.SameSequence.wrapped (.json nestedElements)
  obtain ⟨-, errors, -, tuple⟩ := Row.bind_agreesWithArray ["a"] _ _ _ same
  have failed : (Row.wrapped (.json (.array nestedElements))).bind ["a"] =
      .error (.atIndex 1 (.atIndex 0 (.unsupportedType "JSON object"))) := by rfl
  exact ⟨same, failed, (errors _).mp failed, tuple⟩

end SqlBuilder

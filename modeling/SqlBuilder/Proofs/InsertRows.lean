import SqlBuilder.Draft.Insert
import SqlBuilder.Proofs.Conversion
import SqlBuilder.Proofs.FirstFailure

/-!
# Rows of an INSERT

An INSERT is built with all of its rows or not at all.  Its columns are looked at
first, then whether rows were given, then whether there is one, and only then the
rows themselves.  The error of a row is the error of the first row that does not
bind, with that row's position.

In the statement every row stands at its own position and is what the row binds
to by itself.  A row by name then has one cell for each column, in the order of
the columns.
-/

namespace SqlBuilder

/-! ## Rows by name -/

/-- What a row by name holds for a column; nothing for a row by position. -/
def Row.byName? : Row → Option (String → Outcome Expr)
  | .record value => some value.cell
  | .json (.object members) => some (Json.cell members)
  | .wrapped row => row.byName?
  | _ => none

/-- A row by name looks its columns up one after the other. -/
theorem Row.bind_of_byName? {row : Row} {cellOf : String → Outcome Expr}
    (byName : row.byName? = some cellOf) (columns : List String) :
    row.bind columns = Outcome.collect (columns.map cellOf) := by
  induction row with
  | sequence _ | tuple _ | dynamic _ => cases byName
  | json value =>
      cases value with
      | object members =>
          cases byName
          rfl
      | _ => cases byName
  | record value =>
      cases byName
      rfl
  | wrapped row ih =>
      rw [Row.bind]
      exact ih byName

/-- A row by name that binds has one cell for each column, in order. -/
theorem Row.forall₂_cells {row : Row} {cellOf : String → Outcome Expr}
    {columns : List String} {cells : List Expr}
    (byName : row.byName? = some cellOf) (bound : row.bind columns = .ok cells) :
    List.Forall₂ (fun column cell => cellOf column = .ok cell) columns cells := by
  rw [Row.bind_of_byName? byName] at bound
  exact (Outcome.collectNoting_map_eq_ok_iff _ cellOf columns cells).mp bound

/-! ## Stages -/

namespace InsertDraft

variable {draft : InsertDraft} {rows : List Row}

/-- With columns and at least one row, only the rows decide. -/
theorem toInsert_of_rows (columns : draft.columns ≠ []) (given : draft.rows = some rows)
    (nonempty : rows ≠ []) :
    draft.toInsert =
      (Outcome.collectNoting .inRow (rows.map (Row.bind draft.columns))).map
        fun cells => ⟨draft.table, draft.columns, cells⟩ := by
  cases rows with
  | nil => exact absurd rfl nonempty
  | cons row rest =>
      simp only [toInsert, columns, given, ↓reduceIte]
      cases Outcome.collectNoting .inRow ((row :: rest).map (Row.bind draft.columns)) <;> rfl

/-- The statement of a draft has the draft's table and columns, and one row for each of its rows. -/
theorem toInsert_eq_ok_iff {command : Insert} :
    draft.toInsert = .ok command ↔
      draft.columns ≠ [] ∧
      command.table = draft.table ∧
      command.columns = draft.columns ∧
      ∃ rows, draft.rows = some rows ∧ rows ≠ [] ∧
        List.Forall₂ (fun row cells => row.bind draft.columns = .ok cells)
          rows command.rows := by
  obtain ⟨table, columns, cells⟩ := command
  constructor
  · intro converted
    have withColumns : draft.columns ≠ [] := by
      intro none
      simp [toInsert, none] at converted
    obtain ⟨rows, given, nonempty⟩ : ∃ rows, draft.rows = some rows ∧ rows ≠ [] := by
      cases given : draft.rows with
      | none => simp [toInsert, withColumns, given] at converted
      | some rows =>
          refine ⟨rows, rfl, ?_⟩
          rintro rfl
          simp [toInsert, withColumns, given] at converted
    rw [toInsert_of_rows withColumns given nonempty, Outcome.map_eq_ok_iff] at converted
    obtain ⟨bound, collected, same⟩ := converted
    cases same
    exact ⟨withColumns, rfl, rfl, rows, given, nonempty,
      (Outcome.collectNoting_map_eq_ok_iff _ _ rows cells).mp collected⟩
  · rintro ⟨withColumns, rfl, rfl, rows, given, nonempty, bound⟩
    rw [toInsert_of_rows withColumns given nonempty, Outcome.map_eq_ok_iff]
    exact ⟨cells, (Outcome.collectNoting_map_eq_ok_iff _ _ rows cells).mpr bound, rfl⟩

theorem exists_toInsert_eq_ok_iff :
    (∃ command, draft.toInsert = .ok command) ↔
      draft.columns ≠ [] ∧
      ∃ rows, draft.rows = some rows ∧ rows ≠ [] ∧
        ∀ row ∈ rows, ∃ cells, row.bind draft.columns = .ok cells := by
  simp only [← Outcome.exists_collectNoting_map_eq_ok_iff .inRow (Row.bind draft.columns),
    Outcome.collectNoting_map_eq_ok_iff, toInsert_eq_ok_iff]
  constructor
  · rintro ⟨command, withColumns, -, -, rows, given, nonempty, bound⟩
    exact ⟨withColumns, rows, given, nonempty, command.rows, bound⟩
  · rintro ⟨withColumns, rows, given, nonempty, cells, bound⟩
    exact ⟨⟨draft.table, draft.columns, cells⟩, withColumns, rfl, rfl, rows, given, nonempty, bound⟩

/-- A draft fails at the first stage that it does not pass. -/
theorem toInsert_eq_error_iff {error : Error} :
    draft.toInsert = .error error ↔
      (draft.columns = [] ∧ error = .invalid .insertWithoutColumns) ∨
      (draft.columns ≠ [] ∧ draft.rows = none ∧ error = .invalid .insertWithoutValues) ∨
      (draft.columns ≠ [] ∧ draft.rows = some [] ∧ error = .invalid .insertWithoutRows) ∨
      (draft.columns ≠ [] ∧ ∃ rows index cause, draft.rows = some rows ∧
        Outcome.FailsFirst (Row.bind draft.columns) rows index cause ∧
        error = .inRow index cause) := by
  by_cases withColumns : draft.columns = []
  · simp [toInsert, withColumns, eq_comm]
  · cases given : draft.rows with
    | none => simp [toInsert, withColumns, given, eq_comm]
    | some rows =>
        cases rows with
        | nil =>
            have noFailure : ∀ index cause,
                ¬ Outcome.FailsFirst (Row.bind draft.columns) [] index cause := by
              rintro index cause ⟨⟨row, found, -⟩, -⟩
              cases found
            simp [toInsert, withColumns, given, noFailure, eq_comm]
        | cons row rest =>
            rw [toInsert_of_rows withColumns given (List.cons_ne_nil row rest)]
            have mapped (outcome : Outcome (List (List Expr))) :
                (outcome.map fun cells => (⟨draft.table, draft.columns, cells⟩ : Insert)) =
                  .error error ↔ outcome = .error error := by
              cases outcome <;> simp [Except.map]
            rw [mapped, Outcome.collectNoting_map_eq_error_iff]
            simp [withColumns]

end InsertDraft

/-! ## All or nothing -/

/--
A draft of an INSERT has a statement exactly where it has columns, was given at
least one row, and every row binds.  The statement keeps the table and the
columns, and its rows are the bound rows in order; a row by name has one cell for
each column.  Without a statement the error is that of the first stage that is
not passed, and among the rows that of the first one that does not bind.
-/
theorem InsertDraft.toInsert_allOrNothing (draft : InsertDraft) :
    ((∃ command, draft.toInsert = .ok command) ↔
      draft.columns ≠ [] ∧
      ∃ rows, draft.rows = some rows ∧ rows ≠ [] ∧
        ∀ row ∈ rows, ∃ cells, row.bind draft.columns = .ok cells) ∧
    (∀ command, draft.toInsert = .ok command →
      command.table = draft.table ∧
      command.columns = draft.columns ∧
      ∃ rows, draft.rows = some rows ∧
        command.rows.length = rows.length ∧
        ∀ (index : Nat) (row : Row), rows[index]? = some row →
          ∃ cells, command.rows[index]? = some cells ∧
            row.bind draft.columns = .ok cells ∧
            ∀ cellOf, row.byName? = some cellOf →
              List.Forall₂ (fun column cell => cellOf column = .ok cell)
                draft.columns cells) ∧
    (∀ error, draft.toInsert = .error error ↔
      (draft.columns = [] ∧ error = .invalid .insertWithoutColumns) ∨
      (draft.columns ≠ [] ∧ draft.rows = none ∧ error = .invalid .insertWithoutValues) ∨
      (draft.columns ≠ [] ∧ draft.rows = some [] ∧ error = .invalid .insertWithoutRows) ∨
      (draft.columns ≠ [] ∧ ∃ rows index cause, draft.rows = some rows ∧
        Outcome.FailsFirst (Row.bind draft.columns) rows index cause ∧
        error = .inRow index cause)) := by
  refine ⟨exists_toInsert_eq_ok_iff, ?_, fun _ => toInsert_eq_error_iff⟩
  intro command converted
  obtain ⟨-, table, columns, rows, given, -, bound⟩ := toInsert_eq_ok_iff.mp converted
  refine ⟨table, columns, rows, given, bound.length_eq.symm, ?_⟩
  intro index row found
  obtain ⟨below, rfl⟩ := List.getElem?_eq_some_iff.mp found
  have inRange : index < command.rows.length := bound.length_eq ▸ below
  have boundHere := bound.get below inRange
  exact ⟨command.rows[index], List.getElem?_eq_getElem inRange, boundHere,
    fun cellOf byName => Row.forall₂_cells byName boundHere⟩

/-- Three rows of different kinds, the last two of which do not bind. -/
def mixedRows : List Row :=
  [.tuple [.int 7, .string "seven"],
    .wrapped (.json (.object [("id", .int 8), ("NAME", .object [])])),
    .dynamic .null]

/-- The second row is reported, with its own error: the value of `NAME` has no expression. -/
theorem mixedRows_failAt_one :
    (InsertDraft.mk "t" ["id", "name"] (some mixedRows)).toInsert =
      .error (.inRow 1 (.unsupportedType "JSON object")) := by
  refine ((InsertDraft.toInsert_allOrNothing _).2.2 _).mpr (.inr (.inr (.inr ?_)))
  refine ⟨List.cons_ne_nil _ _, mixedRows, 1, .unsupportedType "JSON object", rfl, ?_, rfl⟩
  refine ⟨⟨_, rfl, by rfl⟩, ?_⟩
  intro earlier below row found
  obtain rfl : earlier = 0 := Nat.lt_one_iff.mp below
  cases found
  exact ⟨[.ofInt64 7, .string "seven"], rfl⟩

end SqlBuilder

import SqlBuilder.Proofs.FirstFailure
import SqlBuilder.Record.Basic

/-!
# The columns of a record

For a column a record takes the first field that states the column's very name.
Only without one it takes the first field that states no column at all and whose
own name is the column's up to letter case.  A skipped field is never taken.

A record binds exactly where every column takes a field and that field converts.
The row has one cell for each column, in the order of the columns.  Otherwise the
error is that of the leftmost column that takes no field or whose field does not
convert.  So nothing but the fields that are taken shows in the row or the error.
-/

namespace SqlBuilder

/-- The item at a position meets a condition, and no item in front of it does. -/
structure IsFirstAt {α : Type} (condition : α → Prop) (items : List α) (index : Nat) : Prop where
  here : ∃ item, items[index]? = some item ∧ condition item
  before : ∀ earlier < index, ∀ item, items[earlier]? = some item → ¬ condition item

namespace IsFirstAt

variable {α : Type} {condition other : α → Prop} {items : List α} {index : Nat}

theorem mono (first : IsFirstAt condition items index)
    (same : ∀ item ∈ items, condition item ↔ other item) : IsFirstAt other items index := by
  rcases first with ⟨⟨item, found, holds⟩, before⟩
  refine ⟨⟨item, found, (same item (List.mem_of_getElem? found)).mp holds⟩, ?_⟩
  intro earlier below next present
  exact mt (same next (List.mem_of_getElem? present)).mpr (before earlier below next present)

theorem findIdx?_eq_some_iff [DecidablePred condition] :
    items.findIdx? (fun item => decide (condition item)) = some index ↔
      IsFirstAt condition items index := by
  rw [List.findIdx?_eq_some_iff_getElem]
  constructor
  · rintro ⟨inside, holds, before⟩
    refine ⟨⟨items[index], List.getElem?_eq_getElem inside, of_decide_eq_true holds⟩, ?_⟩
    intro earlier below item found
    obtain ⟨_, rfl⟩ := List.getElem?_eq_some_iff.mp found
    simpa using before earlier below
  · rintro ⟨⟨item, found, holds⟩, before⟩
    obtain ⟨inside, rfl⟩ := List.getElem?_eq_some_iff.mp found
    refine ⟨inside, decide_eq_true holds, fun earlier below => ?_⟩
    simpa using before earlier below _ (List.getElem?_eq_getElem (Nat.lt_trans below inside))

end IsFirstAt

/-! ## The field that a column takes -/

namespace FieldSpec

variable {fields : List FieldSpec} {field : FieldSpec} {column : String} {index other : Nat}

/-- A field that states the very name of a column. -/
def States (field : FieldSpec) (column : String) : Prop :=
  field.skip = false ∧ field.column = some column

/-- A field that states no column and is called like one, up to letter case. -/
def IsCalled (field : FieldSpec) (column : String) : Prop :=
  field.skip = false ∧ field.column = none ∧ SameName field.name column

/--
The position of the field that a column takes: the first one that states it, or
without one the first one that is called like it.
-/
def TakenAt (fields : List FieldSpec) (column : String) (index : Nat) : Prop :=
  IsFirstAt (States · column) fields index ∨
    (∀ field ∈ fields, ¬ field.States column) ∧ IsFirstAt (IsCalled · column) fields index

theorem matchesStated_iff : field.MatchesStated column ↔ field.States column := by
  rcases field with ⟨name, stated, skip⟩
  cases stated <;> simp [MatchesStated, Matches, States]

/-- A field that binds to a column but does not state it is called like it. -/
theorem matches_iff_of_not_states (silent : ¬ field.States column) :
    field.Matches column ↔ field.IsCalled column := by
  rcases field with ⟨name, stated, skip⟩
  cases stated <;> simp_all [Matches, States, IsCalled]

theorem position?_eq_some_iff :
    position? fields column = some index ↔ TakenAt fields column index := by
  have stated (index : Nat) :
      IsFirstAt (MatchesStated · column) fields index ↔
        IsFirstAt (States · column) fields index :=
    ⟨fun first => first.mono fun _ _ => matchesStated_iff,
      fun first => first.mono fun _ _ => matchesStated_iff.symm⟩
  rw [position?, Option.or_eq_some_iff, IsFirstAt.findIdx?_eq_some_iff, stated,
    IsFirstAt.findIdx?_eq_some_iff, List.findIdx?_eq_none_iff]
  simp only [decide_eq_false_iff_not, matchesStated_iff]
  refine or_congr_right (and_congr_right fun silent => ?_)
  exact ⟨fun first => first.mono fun field member => matches_iff_of_not_states (silent field member),
    fun first =>
      first.mono fun field member => (matches_iff_of_not_states (silent field member)).symm⟩

theorem position?_eq_none_iff :
    position? fields column = none ↔ ∀ index, ¬ TakenAt fields column index := by
  simp only [← position?_eq_some_iff, Option.eq_none_iff_forall_ne_some, ne_eq]

namespace TakenAt

/-- A column takes one field at most. -/
theorem unique (taken : TakenAt fields column index) (again : TakenAt fields column other) :
    index = other :=
  Option.some.inj
    ((position?_eq_some_iff.mpr taken).symm.trans (position?_eq_some_iff.mpr again))

/-- The field that a column takes is there, and is not skipped. -/
theorem not_skip (taken : TakenAt fields column index) :
    ∃ field, fields[index]? = some field ∧ field.skip = false := by
  rcases taken with ⟨⟨field, found, states⟩, -⟩ | ⟨-, ⟨field, found, called⟩, -⟩
  · exact ⟨field, found, states.1⟩
  · exact ⟨field, found, called.1⟩

end TakenAt

end FieldSpec

/-! ## The cells of a record -/

namespace Record

variable {record : Record} {column : String}

theorem cell_eq_elim (record : Record) (column : String) :
    record.cell column =
      (FieldSpec.position? record.fields column).elim
        (.error (.columnNotFound record.typeName column)) record.fieldExpr := by
  rw [cell]
  cases FieldSpec.position? record.fields column <;> rfl

theorem cell_eq_ok_iff {cell : Expr} :
    record.cell column = .ok cell ↔
      ∃ index, FieldSpec.TakenAt record.fields column index ∧
        record.fieldExpr index = .ok cell := by
  simp only [cell_eq_elim, Outcome.elim_eq_ok_iff, FieldSpec.position?_eq_some_iff]

theorem cell_eq_error_iff {error : Error} :
    record.cell column = .error error ↔
      (∀ index, ¬ FieldSpec.TakenAt record.fields column index) ∧
          error = .columnNotFound record.typeName column ∨
        ∃ index, FieldSpec.TakenAt record.fields column index ∧
          record.fieldExpr index = .error error := by
  simp only [cell_eq_elim, Outcome.elim_eq_error_iff, FieldSpec.position?_eq_some_iff,
    FieldSpec.position?_eq_none_iff]

/-- What a record holds for a column depends on the field that the column takes. -/
theorem cell_congr {other : Record} (named : other.typeName = record.typeName)
    (declared : other.fields = record.fields)
    (agree : ∀ index, FieldSpec.TakenAt record.fields column index →
      other.fieldExpr index = record.fieldExpr index) :
    other.cell column = record.cell column := by
  rw [Record.cell, Record.cell, declared, named]
  cases taken : FieldSpec.position? record.fields column with
  | none => rfl
  | some index => exact agree index (FieldSpec.position?_eq_some_iff.mp taken)

end Record

/--
A record binds to a list of columns exactly where every column takes a field and
the field converts, with one cell for each column in order.  Otherwise the error
is that of the leftmost column that takes no field or whose field does not
convert.  Records of one type whose taken fields agree bind alike, whatever their
other fields hold; skipped fields are never taken.
-/
theorem Record.bind_takesFirstMatch (record : Record) (columns : List String) :
    (∀ cells, record.bind columns = .ok cells ↔
      List.Forall₂
        (fun column cell => ∃ index, FieldSpec.TakenAt record.fields column index ∧
          record.fieldExpr index = .ok cell)
        columns cells) ∧
    ((∃ cells, record.bind columns = .ok cells) ↔
      ∀ column ∈ columns, ∃ index cell, FieldSpec.TakenAt record.fields column index ∧
        record.fieldExpr index = .ok cell) ∧
    (∀ error, record.bind columns = .error error ↔
      ∃ front column back, columns = front ++ column :: back ∧
        (∀ earlier ∈ front, ∃ index cell, FieldSpec.TakenAt record.fields earlier index ∧
          record.fieldExpr index = .ok cell) ∧
        ((∀ index, ¬ FieldSpec.TakenAt record.fields column index) ∧
            error = .columnNotFound record.typeName column ∨
          ∃ index, FieldSpec.TakenAt record.fields column index ∧
            record.fieldExpr index = .error error)) ∧
    (∀ column index, FieldSpec.TakenAt record.fields column index →
      ∃ field, record.fields[index]? = some field ∧ field.skip = false) ∧
    ∀ other : Record, other.typeName = record.typeName → other.fields = record.fields →
      (∀ column ∈ columns, ∀ index, FieldSpec.TakenAt record.fields column index →
        other.fieldExpr index = record.fieldExpr index) →
      other.bind columns = record.bind columns := by
  have converts (column : String) : (∃ cell, record.cell column = .ok cell) ↔
      ∃ index cell, FieldSpec.TakenAt record.fields column index ∧
        record.fieldExpr index = .ok cell := by
    simp only [Record.cell_eq_ok_iff]
    exact exists_comm
  refine ⟨fun cells => ?_, ?_, fun error => ?_, fun _ _ taken => taken.not_skip, ?_⟩
  · rw [Record.bind, Outcome.collect, Outcome.collectNoting_map_eq_ok_iff]
    simp only [Record.cell_eq_ok_iff]
  · rw [Record.bind, Outcome.collect, Outcome.exists_collectNoting_map_eq_ok_iff]
    simp only [converts]
  · rw [Record.bind, Outcome.collect_map_eq_error_iff]
    simp only [converts, Record.cell_eq_error_iff]
  · intro other named declared agree
    rw [Record.bind, Record.bind]
    refine congrArg Outcome.collect (List.map_congr_left fun column member => ?_)
    exact Record.cell_congr named declared (agree column member)

/-- Fields of which one shadows another, one is skipped and two state the same column. -/
def shadowingFields : List FieldSpec :=
  [⟨"columna", none, false⟩, ⟨"gone", some "ColumnA", true⟩,
    ⟨"preferred", some "ColumnA", false⟩, ⟨"repeated", some "ColumnA", false⟩]

/-- A record over shadowing fields: its first and third field hold numbers, the others as given. -/
def shadowingRecord (others : Outcome Expr) : Record where
  typeName := "Shadowing"
  fields := shadowingFields
  fieldExpr := fun
    | 0 => .ok (.integer "1")
    | 2 => .ok (.integer "3")
    | _ => others

/-- The skipped field and the repeated one do not show, even where they do not convert. -/
theorem shadowingRecord_bind :
    (shadowingRecord (.error .emptyIdentifier)).bind ["ColumnA", "COLUMNA", "ColumnA"] =
        .ok [.integer "3", .integer "1", .integer "3"] ∧
      (shadowingRecord (.ok .null)).bind ["ColumnA", "COLUMNA", "ColumnA"] =
        (shadowingRecord (.error .emptyIdentifier)).bind ["ColumnA", "COLUMNA", "ColumnA"] := by
  have stated : FieldSpec.TakenAt shadowingFields "ColumnA" 2 :=
    FieldSpec.position?_eq_some_iff.mp (by decide)
  have called : FieldSpec.TakenAt shadowingFields "COLUMNA" 0 :=
    FieldSpec.position?_eq_some_iff.mp (by decide)
  constructor
  · refine ((shadowingRecord _).bind_takesFirstMatch _).1 _ |>.mpr ?_
    exact .cons ⟨2, stated, rfl⟩ (.cons ⟨0, called, rfl⟩ (.cons ⟨2, stated, rfl⟩ .nil))
  · refine ((shadowingRecord _).bind_takesFirstMatch _).2.2.2.2 _ rfl rfl ?_
    simp only [List.mem_cons, List.not_mem_nil, or_false]
    rintro column (rfl | rfl | rfl) index taken
    · rw [taken.unique stated]
      rfl
    · rw [taken.unique called]
      rfl
    · rw [taken.unique stated]
      rfl

end SqlBuilder

import SqlBuilder.Proofs.ByteOrder
import SqlBuilder.Proofs.KeyedRows

/-!
# The columns of an object

For a column a JSON object takes the value under the column's very name.  Only
without one it takes the value under the key that comes first in the order of
bytes among those that are the column's name up to letter case.  The value under
a key is the last one that the key was given.

An object binds exactly where every column takes a value and that value converts.
The row has one cell for each column, in the order of the columns.  Otherwise the
error is that of the leftmost column that takes no value or whose value does not
convert.  The order in which keys were given does not show, and neither does a
value that was given to a key before its last one.
-/

namespace SqlBuilder

/-! ## The value that a column takes -/

/--
The key that a column takes among others: the column's own name, or without it
the one with the least bytes that agrees with it up to letter case.
-/
def TakesKey (keys : List String) (column key : String) : Prop :=
  key ∈ keys ∧
    (key = column ∨
      column ∉ keys ∧ SameName key column ∧
        ∀ other ∈ keys, SameName other column → utf8Bytes key ≤ utf8Bytes other)

theorem takesKey_iff_objectTakes {keys : List String} {column key : String} :
    TakesKey keys column key ↔ ObjectTakes keys column key := by
  simp only [TakesKey, ObjectTakes, utf8Bytes_le_iff]
  refine and_congr_right fun _ => ?_
  constructor
  · rintro (rfl | ⟨absent, agrees, least⟩)
    · exact ⟨.refl key, .inl rfl⟩
    · exact ⟨agrees, .inr ⟨absent, least⟩⟩
  · rintro ⟨agrees, chosen⟩
    exact chosen.imp_right fun ⟨absent, least⟩ => ⟨absent, agrees, least⟩

namespace Json

variable {entries : List (String × Json)} {column : String}

/-- The value that a column takes from the object of a list of entries: the last one of its key. -/
def TakesValue (entries : List (String × Json)) (column : String) (value : Json) : Prop :=
  ∃ key, TakesKey (entries.map Prod.fst) column key ∧
    Members.lastValue? entries key = some value

theorem mem_keys_ofEntries {key : String} :
    key ∈ (Members.ofEntries entries).map Prod.fst ↔ key ∈ entries.map Prod.fst := by
  refine Iff.trans ?_ Members.exists_lastValue?_iff
  simp only [List.mem_map, Prod.exists, exists_and_right, exists_eq_right,
    Members.mem_ofEntries_iff]

theorem forColumn?_eq_some_iff {value : Json} :
    (Members.ofEntries entries).forColumn? column = some value ↔
      TakesValue entries column value := by
  have keys {key : String} :
      ObjectTakes ((Members.ofEntries entries).map Prod.fst) column key ↔
        TakesKey (entries.map Prod.fst) column key := by
    rw [takesKey_iff_objectTakes]
    exact ⟨fun taken => taken.of_mem_iff fun _ => mem_keys_ofEntries.symm,
      fun taken => taken.of_mem_iff fun _ => mem_keys_ofEntries⟩
  rw [(Members.isSorted_ofEntries entries).forColumn?_eq_some_iff]
  simp only [TakesValue, keys, Prod.exists, Members.mem_ofEntries_iff]
  constructor
  · rintro ⟨key, _, last, taken, rfl⟩
    exact ⟨key, taken, last⟩
  · rintro ⟨key, taken, last⟩
    exact ⟨key, value, last, taken, rfl⟩

theorem forColumn?_eq_none_iff :
    (Members.ofEntries entries).forColumn? column = none ↔
      ∀ key ∈ entries.map Prod.fst, ¬ SameName key column := by
  rw [Members.forColumn?_eq_none_iff]
  constructor
  · intro free key member
    obtain ⟨entry, inside, rfl⟩ := List.mem_map.mp (mem_keys_ofEntries.mpr member)
    exact free entry inside
  · intro free entry inside
    exact free entry.1 (mem_keys_ofEntries.mp (List.mem_map_of_mem inside))

theorem cell_eq_elim (members : Members Json) (column : String) :
    cell members column =
      (members.forColumn? column).elim (.error (.columnNotFound "JSON object" column)) toExpr := by
  rw [cell]
  cases members.forColumn? column <;> rfl

theorem cell_eq_ok_iff {expr : Expr} :
    cell (Members.ofEntries entries) column = .ok expr ↔
      ∃ value, TakesValue entries column value ∧ value.toExpr = .ok expr := by
  simp only [cell_eq_elim, Outcome.elim_eq_ok_iff, forColumn?_eq_some_iff]

theorem cell_eq_error_iff {error : Error} :
    cell (Members.ofEntries entries) column = .error error ↔
      (∀ key ∈ entries.map Prod.fst, ¬ SameName key column) ∧
          error = .columnNotFound "JSON object" column ∨
        ∃ value, TakesValue entries column value ∧ value.toExpr = .error error := by
  simp only [cell_eq_elim, Outcome.elim_eq_error_iff, forColumn?_eq_some_iff,
    forColumn?_eq_none_iff]

end Json

/-! ## The cells of an object -/

/--
An object binds to a list of columns exactly where every column takes a value and
the value converts, with one cell for each column in order.  Otherwise the error
is that of the leftmost column that takes no value or whose value does not
convert, as it is.  Entries that give every key the same last value bind alike:
distinct keys in any order, or with values left out that are replaced later.
-/
theorem Json.bind_takesLastValues (entries : List (String × Json)) (columns : List String) :
    (∀ cells, (Json.ofEntries entries).bind columns = .ok cells ↔
      List.Forall₂
        (fun column cell => ∃ value, TakesValue entries column value ∧ value.toExpr = .ok cell)
        columns cells) ∧
    ((∃ cells, (Json.ofEntries entries).bind columns = .ok cells) ↔
      ∀ column ∈ columns, ∃ value cell, TakesValue entries column value ∧
        value.toExpr = .ok cell) ∧
    (∀ error, (Json.ofEntries entries).bind columns = .error error ↔
      ∃ front column back, columns = front ++ column :: back ∧
        (∀ earlier ∈ front, ∃ value cell, TakesValue entries earlier value ∧
          value.toExpr = .ok cell) ∧
        ((∀ key ∈ entries.map Prod.fst, ¬ SameName key column) ∧
            error = .columnNotFound "JSON object" column ∨
          ∃ value, TakesValue entries column value ∧ value.toExpr = .error error)) ∧
    (∀ others : List (String × Json),
      (∀ key, Members.lastValue? others key = Members.lastValue? entries key) →
        (Json.ofEntries others).bind columns = (Json.ofEntries entries).bind columns) ∧
    (∀ others : List (String × Json), (entries.map Prod.fst).Nodup → entries.Perm others →
      (Json.ofEntries others).bind columns = (Json.ofEntries entries).bind columns) ∧
    ∀ front entry back, entries = front ++ entry :: back → entry.1 ∈ back.map Prod.fst →
      (Json.ofEntries (front ++ back)).bind columns = (Json.ofEntries entries).bind columns := by
  have converts (column : String) :
      (∃ cell, Json.cell (Members.ofEntries entries) column = .ok cell) ↔
        ∃ value cell, TakesValue entries column value ∧ value.toExpr = .ok cell := by
    simp only [cell_eq_ok_iff]
    exact exists_comm
  have bound : (Json.ofEntries entries).bind columns =
      Outcome.collect (columns.map (Json.cell (Members.ofEntries entries))) := rfl
  have alike {others : List (String × Json)}
      (same : ∀ key, Members.lastValue? others key = Members.lastValue? entries key) :
      (Json.ofEntries others).bind columns = (Json.ofEntries entries).bind columns := by
    rw [Json.ofEntries, Json.ofEntries, Members.ofEntries_congr same]
  refine ⟨fun cells => ?_, ?_, fun error => ?_, fun _ same => alike same, ?_, ?_⟩
  · rw [bound, Outcome.collect, Outcome.collectNoting_map_eq_ok_iff]
    simp only [cell_eq_ok_iff]
  · rw [bound, Outcome.collect, Outcome.exists_collectNoting_map_eq_ok_iff]
    simp only [converts]
  · rw [bound, Outcome.collect_map_eq_error_iff]
    simp only [converts, cell_eq_error_iff]
  · intro others distinct permuted
    exact alike fun key => (Members.lastValue?_perm distinct permuted key).symm
  · rintro front entry back rfl again
    exact alike fun key => (Members.lastValue?_overwritten again key).symm

/-- Keys that differ in letter case alone, one of which is given a second value. -/
def rewrittenKeys : List (String × Json) :=
  [("ID", .object []), ("id", .int 8), ("Id", .null), ("ID", .string "new")]

/-- The last values of the same keys in another order. -/
def reorderedKeys : List (String × Json) :=
  [("Id", .null), ("ID", .string "new"), ("id", .int 8)]

/-- The first value of `ID` would not convert. -/
theorem rewrittenKeys_bind :
    (Json.ofEntries rewrittenKeys).bind ["iD", "id", "name"] =
        .error (.columnNotFound "JSON object" "name") ∧
      (Json.ofEntries reorderedKeys).bind ["iD", "id"] =
        (Json.ofEntries rewrittenKeys).bind ["iD", "id"] := by
  have least : Json.TakesValue rewrittenKeys "iD" (.string "new") :=
    ⟨"ID", ⟨by decide, .inr ⟨by decide, by decide, by decide⟩⟩, rfl⟩
  have exact : Json.TakesValue rewrittenKeys "id" (.int 8) :=
    ⟨"id", ⟨by decide, .inl rfl⟩, rfl⟩
  constructor
  · refine ((Json.bind_takesLastValues rewrittenKeys _).2.2.1 _).mpr ?_
    refine ⟨["iD", "id"], "name", [], rfl, ?_, .inl ⟨by decide, rfl⟩⟩
    rw [List.forall_mem_cons, List.forall_mem_singleton]
    exact ⟨⟨_, .string "new", least, rfl⟩, ⟨_, .ofInt64 8, exact, rfl⟩⟩
  · have moved : (rewrittenKeys.drop 1).Perm reorderedKeys :=
      (List.perm_append_singleton ("id", Json.int 8)
        [("Id", Json.null), ("ID", Json.string "new")]).symm
    have shuffled := (Json.bind_takesLastValues (rewrittenKeys.drop 1) ["iD", "id"]).2.2.2.2.1
      _ (by decide) moved
    have replaced := (Json.bind_takesLastValues rewrittenKeys ["iD", "id"]).2.2.2.2.2
      [] ("ID", .object []) (rewrittenKeys.drop 1) rfl (by decide)
    exact shuffled.trans replaced

end SqlBuilder

import Mathlib.Data.List.Nodup
import SqlBuilder.Proofs.FirstFailure
import SqlBuilder.Proofs.Members
import SqlBuilder.Row

/-!
# Rows by name

A row by name is a record or a JSON object.  For a column a record takes the
field that is declared first among those that agree with the column's name up to
letter case.  An object takes the key that is the column's name, and only without
one the least key that agrees with it.

The two rows are the same, whatever the values, exactly where every column's
first declared field is the one that the object takes.
-/

namespace SqlBuilder

/-! ## The name that binds to a column -/

/-- The name that a record binds to a column: the first one that agrees with it. -/
def recordTakes? (names : List String) (column : String) : Option String :=
  names.find? fun name => decide (SameName name column)

/--
The name that an object takes for a column: the column's own name, or without it
the least one that agrees with it.
-/
def ObjectTakes (names : List String) (column name : String) : Prop :=
  name ∈ names ∧ SameName name column ∧
    (name = column ∨ column ∉ names ∧ ∀ other ∈ names, SameName other column → name ≤ other)

/-- The first name that agrees with a column, if there is one, is the name that an object takes. -/
def BindsAlike (names : List String) (column : String) : Prop :=
  ∀ name, recordTakes? names column = some name → ObjectTakes names column name

instance (names : List String) (column name : String) :
    Decidable (ObjectTakes names column name) :=
  inferInstanceAs (Decidable (_ ∧ _ ∧ _))

instance (names : List String) (column : String) : Decidable (BindsAlike names column) :=
  decidable_of_iff (∀ name ∈ recordTakes? names column, ObjectTakes names column name) Iff.rfl

namespace ObjectTakes

variable {names others : List String} {column first second : String}

theorem of_mem_iff (taken : ObjectTakes names column first)
    (same : ∀ name, name ∈ others ↔ name ∈ names) : ObjectTakes others column first := by
  rcases taken with ⟨member, agrees, chosen⟩
  refine ⟨(same first).mpr member, agrees, chosen.imp_right ?_⟩
  rintro ⟨absent, least⟩
  exact ⟨mt (same column).mp absent, fun other inside => least other ((same other).mp inside)⟩

/-- An object takes one name at most. -/
theorem unique (taken : ObjectTakes names column first)
    (another : ObjectTakes names column second) : first = second := by
  rcases taken with ⟨member, agrees, rfl | ⟨absent, least⟩⟩ <;>
    rcases another with ⟨inside, follows, rfl | ⟨missing, lowest⟩⟩
  · rfl
  · exact absurd member missing
  · exact absurd inside absent
  · exact String.le_antisymm (least second inside follows) (lowest first member agrees)

end ObjectTakes

/-! ## What the two rows hold for a column -/

/-- A record whose fields bind by their own names. -/
def Record.ofNamed (typeName : String) (entries : List (String × Json)) : Record :=
  .ofFields typeName (entries.map fun (name, value) => (⟨name, none, false⟩, .json value))

/-- A record takes the value of the first name that agrees with the column. -/
theorem Record.cell_ofNamed (typeName : String) (entries : List (String × Json))
    (column : String) :
    (Record.ofNamed typeName entries).cell column =
      match entries.find? fun entry => decide (SameName entry.1 column) with
      | some entry => entry.2.toExpr
      | none => .error (.columnNotFound typeName column) := by
  have position : FieldSpec.position? (ofNamed typeName entries).fields column =
      entries.findIdx? fun entry => decide (SameName entry.1 column) := by
    rw [FieldSpec.position?, List.findIdx?_eq_none_iff.mpr, Option.none_or]
    · simp [ofNamed, ofFields, List.findIdx?_map, Function.comp_def, FieldSpec.Matches]
    · intro field member
      simp only [ofNamed, ofFields, List.map_map, List.mem_map] at member
      rcases member with ⟨entry, _, rfl⟩
      simp [FieldSpec.MatchesStated]
  rw [cell, position, List.find?_eq_bind_findIdx?_getElem?]
  cases found : entries.findIdx? fun entry => decide (SameName entry.1 column) with
  | none => rfl
  | some index =>
      obtain ⟨inside, _⟩ := List.findIdx?_eq_some_iff_getElem.mp found
      simp [ofNamed, ofFields, List.getElem?_eq_getElem inside, Value.toExpr]

namespace Members

variable {α : Type} {column : String} {value : α} {members : Members α}

theorem forColumn?_eq_none_iff :
    members.forColumn? column = none ↔ ∀ entry ∈ members, ¬ SameName entry.1 column := by
  rw [forColumn?]
  split
  · rename_i entry found
    have named : entry.1 = column := by simpa using List.find?_some found
    simp only [reduceCtorEq, false_iff, not_forall, not_not]
    exact ⟨entry, List.mem_of_find?_eq_some found, named ▸ .refl _⟩
  · simp

theorem IsSorted.eq_of_key_eq (sorted : members.IsSorted) {first second : String × α}
    (member : first ∈ members) (inside : second ∈ members) (same : first.1 = second.1) :
    first = second := by
  refine List.inj_on_of_nodup_map (List.pairwise_map.mpr (sorted.imp ?_)) member inside same
  rintro ⟨key, _⟩ ⟨_, _⟩ before rfl
  exact String.lt_irrefl key before

/-- The first one of ascending members with a property has the least key of them. -/
theorem IsSorted.le_of_find? (sorted : members.IsSorted) {test : String × α → Bool}
    {first other : String × α} (found : members.find? test = some first)
    (member : other ∈ members) (passes : test other = true) : first.1 ≤ other.1 := by
  obtain ⟨_, front, back, rfl, failed⟩ := List.find?_eq_some_iff_append.mp found
  rcases List.mem_append.mp member with inFront | inRest
  · simpa [passes] using failed other inFront
  · rcases List.mem_cons.mp inRest with rfl | inBack
    · exact String.le_refl _
    · have later := (List.pairwise_cons.mp (List.pairwise_append.mp sorted).2.1).1 other inBack
      exact String.not_lt.mp (String.lt_asymm later)

/-- An object takes the value of the name that binds to the column. -/
theorem IsSorted.forColumn?_eq_some_iff (sorted : members.IsSorted) :
    members.forColumn? column = some value ↔
      ∃ entry ∈ members, ObjectTakes (members.map Prod.fst) column entry.1 ∧ entry.2 = value := by
  have taken {value : α} (found : members.forColumn? column = some value) :
      ∃ entry ∈ members,
        ObjectTakes (members.map Prod.fst) column entry.1 ∧ entry.2 = value := by
    rw [forColumn?] at found
    split at found
    · rename_i entry exactly
      have member := List.mem_of_find?_eq_some exactly
      have named : entry.1 = column := by simpa using List.find?_some exactly
      exact ⟨entry, member, ⟨List.mem_map_of_mem member, named ▸ .refl _, .inl named⟩,
        Option.some.inj found⟩
    · rename_i missing
      obtain ⟨entry, first, rfl⟩ := Option.map_eq_some_iff.mp found
      have member := List.mem_of_find?_eq_some first
      have agrees : SameName entry.1 column := by simpa using List.find?_some first
      refine ⟨entry, member, ⟨List.mem_map_of_mem member, agrees, .inr ⟨?_, ?_⟩⟩, rfl⟩
      · intro declared
        obtain ⟨exact, inside, named⟩ := List.mem_map.mp declared
        simpa [named] using List.find?_eq_none.mp missing exact inside
      · intro other inside follows
        obtain ⟨later, among, rfl⟩ := List.mem_map.mp inside
        exact sorted.le_of_find? first among (decide_eq_true follows)
  constructor
  · exact taken
  · rintro ⟨entry, member, chosen, rfl⟩
    cases found : members.forColumn? column with
    | none => exact absurd chosen.2.1 (forColumn?_eq_none_iff.mp found entry member)
    | some value =>
        obtain ⟨other, inside, another, rfl⟩ := taken found
        rw [sorted.eq_of_key_eq member inside (chosen.unique another)]

end Members

/-! ## The same rows -/

/-- An error as a row from a JSON object has it: the object is what lacks a column. -/
def Error.inObject : Error → Error
  | .columnNotFound _ column => .columnNotFound "JSON object" column
  | error => error

/-- A JSON value that does not convert has no column to name. -/
theorem Json.mapError_toExpr (value : Json) :
    value.toExpr.mapError Error.inObject = value.toExpr := by
  cases value with
  | uint number =>
      rw [Json.toExpr, Expr.ofUInt64]
      split <;> rfl
  | array elements =>
      rw [Json.toExpr]
      cases collected : Outcome.collectNoting .atIndex (Json.outcomes elements) with
      | ok cells => rfl
      | error cause =>
          obtain ⟨_, _, _, _, rfl⟩ := (Outcome.collectFrom_eq_error_iff _ 0 _ _).mp collected
          rfl
  | _ => rfl

theorem Outcome.eq_of_collect_singleton {α : Type} {first second : Outcome α}
    (same : collect [first] = collect [second]) : first = second := by
  cases first <;> cases second <;> cases same <;> rfl

/-- What the two rows hold for a column on which they bind alike. -/
theorem BindsAlike.cell_eq {entries : List (String × Json)} {column : String}
    (alike : BindsAlike (entries.map Prod.fst) column)
    (distinct : (entries.map Prod.fst).Nodup) (typeName : String) :
    Json.cell (Members.ofEntries entries) column =
      ((Record.ofNamed typeName entries).cell column).mapError Error.inObject := by
  obtain ⟨same, sorted⟩ := Members.ofEntries_spec distinct
  rw [Json.cell, Record.cell_ofNamed]
  cases found : entries.find? fun entry => decide (SameName entry.1 column) with
  | none =>
      have missing : (Members.ofEntries entries).forColumn? column = none := by
        refine Members.forColumn?_eq_none_iff.mpr fun entry member => ?_
        simpa using List.find?_eq_none.mp found entry (same.mem_iff.mp member)
      rw [missing]
      rfl
  | some entry =>
      have named : recordTakes? (entries.map Prod.fst) column = some entry.1 := by
        rw [recordTakes?, List.find?_map]
        exact congrArg (Option.map Prod.fst) found
      have taken : (Members.ofEntries entries).forColumn? column = some entry.2 :=
        sorted.forColumn?_eq_some_iff.mpr
          ⟨entry, same.mem_iff.mpr (List.mem_of_find?_eq_some found),
            (alike entry.1 named).of_mem_iff fun _ => (same.map Prod.fst).mem_iff, rfl⟩
      rw [taken]
      exact (Json.mapError_toExpr entry.2).symm

/-- Fields that hold their own names. -/
def selfNamed (names : List String) : List (String × Json) :=
  names.map fun name => (name, .string name)

@[simp]
theorem map_fst_selfNamed (names : List String) : (selfNamed names).map Prod.fst = names := by
  simp [selfNamed, Function.comp_def]

/-- Fields that hold their own names show which one was taken. -/
theorem bindsAlike_of_cell_eq {names : List String} {column typeName : String}
    (distinct : names.Nodup)
    (agree : Json.cell (Members.ofEntries (selfNamed names)) column =
      ((Record.ofNamed typeName (selfNamed names)).cell column).mapError Error.inObject) :
    BindsAlike names column := by
  intro name found
  have keys : ((selfNamed names).map Prod.fst).Nodup := by simpa
  obtain ⟨same, sorted⟩ := Members.ofEntries_spec keys
  have bound : (selfNamed names).find? (fun entry => decide (SameName entry.1 column)) =
      some (name, .string name) := by
    rw [selfNamed, List.find?_map]
    exact congrArg (Option.map _) found
  rw [Json.cell, Record.cell_ofNamed, bound] at agree
  cases taken : (Members.ofEntries (selfNamed names)).forColumn? column with
  | none =>
      rw [taken] at agree
      cases agree
  | some value =>
      obtain ⟨entry, member, chosen, rfl⟩ := sorted.forColumn?_eq_some_iff.mp taken
      obtain ⟨other, _, rfl⟩ := List.mem_map.mp (same.mem_iff.mp member)
      rw [taken] at agree
      cases agree
      simpa using chosen.of_mem_iff fun _ => (same.map Prod.fst).symm.mem_iff

/--
For fields with distinct names, the row of a record and the row of the JSON object
with the same values are the same, whatever the values, exactly where every column
binds alike: the same cells, or the same error at the same column.
-/
theorem object_bindsAs_record_iff :
    ∀ names : List String, names.Nodup → ∀ columns : List String,
      (∀ column ∈ columns, BindsAlike names column) ↔
        ∀ (typeName : String) (entries : List (String × Json)),
          entries.map Prod.fst = names →
            (∀ column ∈ columns,
              (Json.ofEntries entries).bind [column] =
                ((Record.ofNamed typeName entries).bind [column]).mapError Error.inObject) ∧
            (Json.ofEntries entries).bind columns =
              ((Record.ofNamed typeName entries).bind columns).mapError Error.inObject := by
  intro names distinct columns
  constructor
  · rintro alike typeName entries rfl
    have bound {chosen : List String} (among : ∀ column ∈ chosen, column ∈ columns) :
        (Json.ofEntries entries).bind chosen =
          ((Record.ofNamed typeName entries).bind chosen).mapError Error.inObject := by
      rw [Record.bind, ← Outcome.collect_mapError, List.map_map]
      refine congrArg Outcome.collect (List.map_congr_left fun column member => ?_)
      exact (alike column (among column member)).cell_eq distinct typeName
    exact ⟨fun column member => bound (by simpa), bound fun _ member => member⟩
  · intro agree column member
    have single := (agree "" (selfNamed names) (map_fst_selfNamed names)).1 column member
    rw [Record.bind, ← Outcome.collect_mapError] at single
    exact bindsAlike_of_cell_eq distinct (Outcome.eq_of_collect_singleton single)

/-- Fields whose names differ in letter case alone. -/
def twoLetterCases : List (String × Json) :=
  [("ID", .string "x"), ("id", .null)]

theorem twoLetterCases_bindAlike :
    (Json.ofEntries twoLetterCases).bind ["ID", "Id"] = .ok [.string "x", .string "x"] ∧
      (Json.ofEntries twoLetterCases).bind ["ID", "Id", "name"] =
        ((Record.ofNamed "Row" twoLetterCases).bind ["ID", "Id", "name"]).mapError
          Error.inObject := by
  constructor
  · exact ((object_bindsAs_record_iff ["ID", "id"] (by decide) ["ID", "Id"]).mp (by decide) "Row"
      twoLetterCases rfl).2
  · exact ((object_bindsAs_record_iff ["ID", "id"] (by decide) ["ID", "Id", "name"]).mp
      (by decide) "Row" twoLetterCases rfl).2

/-- A column that is named as the second of two fields is bound to the first one by a record alone. -/
theorem not_forall_object_bindsAs_record :
    ¬ ∀ (typeName : String) (entries : List (String × Json)) (columns : List String),
      (entries.map Prod.fst).Nodup →
        (Json.ofEntries entries).bind columns =
          ((Record.ofNamed typeName entries).bind columns).mapError Error.inObject := by
  intro every
  have same : (.ok [.string "y"] : Outcome (List Expr)) = .ok [.string "x"] :=
    every "Row" [("id", .string "x"), ("ID", .string "y")] ["ID"] (by decide)
  simp at same

end SqlBuilder

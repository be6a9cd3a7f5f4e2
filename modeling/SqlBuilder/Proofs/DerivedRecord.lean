import SqlBuilder.Declaration.Derive
import SqlBuilder.Proofs.AttributeGrammar
import SqlBuilder.Proofs.RecordColumns
import SqlBuilder.Row

/-!
# Records of declared types

The record type of a declaration has two tables: the specifications of all fields,
and the names of those fields that are not skipped, by position.  Both count
positions over all declared fields.

So the position that a column takes among the specifications is one that has a
name, and the value bound to the column is that of the very field it takes.  What a
record would answer at a position without a name never shows in a row.
-/

namespace SqlBuilder

/-! ## Names -/

/-- A name in the source stands for a plain name: behind the mark of raw names, or without it. -/
def Names (source name : String) : Prop :=
  source = "r#" ++ name ∨ source = name ∧ ¬ "r#".toList <+: source.toList

theorem names_plainName (source : String) : Names source (plainName source) := by
  unfold plainName
  split
  · rename_i name marked
    refine .inl (String.toList_inj.mp ?_)
    simp [marked]
  · rename_i unmarked
    refine .inr ⟨rfl, ?_⟩
    rintro ⟨name, marked⟩
    exact unmarked name marked.symm

/-! ## The fields of a declaration -/

/-- The name of a declared field, freed from layout. -/
def FieldDeclaration.name (field : FieldDeclaration) : String :=
  Lexeme.nameOf field.source

/--
The specification of a declared field: its plain name, the last column that its attributes
state, and whether they leave it out.
-/
structure FieldDeclaration.Specifies (field : FieldDeclaration) (spec : FieldSpec) : Prop where
  names : Names field.name spec.name
  options : ∃ options, Attribute.Give field.attributes options ∧
    (spec.skip = true ↔ .skip ∈ options) ∧
    spec.column = (options.filterMap FieldOption.column?).getLast?

theorem FieldDeclaration.declared_eq_ok_iff {field : FieldDeclaration} {declared : DeclaredField} :
    field.declared = .ok declared ↔
      declared.declaration = field.withBareName ∧
        FieldOptions.ofAttributes field.attributes = .ok declared.options := by
  obtain ⟨declaration, options⟩ := declared
  unfold FieldDeclaration.declared
  cases FieldOptions.ofAttributes field.attributes with
  | error cause => simp [Except.map]
  | ok own => simp [Except.map, eq_comm]

theorem FieldDeclaration.specifies_of_declared {field : FieldDeclaration}
    {declared : DeclaredField} (derived : field.declared = .ok declared) :
    field.Specifies declared.spec := by
  obtain ⟨same, accepted⟩ := declared_eq_ok_iff.mp derived
  obtain ⟨options, give, amount⟩ := FieldOptions.ofAttributes_eq_ok_iff.mp accepted
  refine ⟨?_, options, give, FieldOptions.eq_ofList_iff.mp amount⟩
  rw [DeclaredField.spec, same]
  exact names_plainName _

namespace TypeDeclaration

variable {declaration : TypeDeclaration}

/-- A declaration with named fields has a record type where all its attributes are accepted. -/
theorem exists_derive (named : declaration.kind = .namedStruct)
    (accepted : ∀ field ∈ declaration.fields, ∃ options,
      FieldOptions.ofAttributes field.attributes = .ok options) :
    ∃ recordType, declaration.derive = .ok recordType ∧
      recordType.name = Lexeme.nameOf declaration.name ∧
      List.Forall₂ (fun field declared => field.declared = .ok declared)
        declaration.fields recordType.fields := by
  have each : ∀ field ∈ declaration.fields, ∃ declared, field.declared = .ok declared := by
    intro field member
    obtain ⟨options, own⟩ := accepted field member
    exact ⟨⟨field.withBareName, options⟩, FieldDeclaration.declared_eq_ok_iff.mpr ⟨rfl, own⟩⟩
  obtain ⟨fields, collected⟩ :=
    (Outcome.exists_collectNoting_map_eq_ok_iff (fun _ cause => cause) _ _).mpr each
  refine ⟨⟨Lexeme.nameOf declaration.name, declaration.parameters.map Lexeme.nameOf, fields⟩,
    ?_, rfl, (Outcome.collectNoting_map_eq_ok_iff ..).mp collected⟩
  rw [derive, named]
  simp only [Outcome.collect, collected, Except.map]

end TypeDeclaration

/-! ## The names of the fields that are not skipped -/

/-- Where keys are distinct, a key is found with the value that it stands beside. -/
theorem lookup_eq_some_iff_mem {β : Type} {entries : List (Nat × β)} {key : Nat} {value : β}
    (distinct : (entries.map Prod.fst).Nodup) :
    entries.lookup key = some value ↔ (key, value) ∈ entries := by
  induction entries with
  | nil => simp
  | cons entry rest ih =>
      obtain ⟨first, found⟩ := entry
      rw [List.map_cons, List.nodup_cons] at distinct
      by_cases same : key = first
      · subst same
        have once (other : β) : (key, other) ∉ rest :=
          fun member => distinct.1 (List.mem_map.mpr ⟨_, member, rfl⟩)
        simp [once, eq_comm]
      · have other : (key == first) = false := beq_false_of_ne same
        simp [List.lookup_cons, other, same, ih distinct.2]

namespace RecordType

variable {recordType : RecordType} {index : Nat}

theorem nodup_arms (recordType : RecordType) : (recordType.arms.map Prod.fst).Nodup := by
  have positions : recordType.arms.map Prod.fst =
      (recordType.fields.zipIdx.filter fun entry => !entry.1.options.skip).map Prod.snd := by
    rw [arms, List.map_map]
    rfl
  have among : (recordType.arms.map Prod.fst).Sublist (recordType.fields.zipIdx.map Prod.snd) := by
    rw [positions]
    exact List.filter_sublist.map _
  rw [List.zipIdx_map_snd] at among
  exact among.nodup List.nodup_range'

/-- A position has a name exactly where a field stands there that is not skipped. -/
theorem lookup_arms_eq_some_iff {source : String} :
    recordType.arms.lookup index = some source ↔
      ∃ field, recordType.fields[index]? = some field ∧ field.options.skip = false ∧
        field.declaration.source = source := by
  rw [lookup_eq_some_iff_mem recordType.nodup_arms, arms]
  simp only [List.mem_map, List.mem_filter, List.mem_zipIdx_iff_getElem?, Bool.not_eq_true',
    Prod.mk.injEq, Prod.exists]
  constructor
  · rintro ⟨field, _, ⟨found, bound⟩, rfl, named⟩
    exact ⟨field, found, bound, named⟩
  · rintro ⟨field, found, bound, named⟩
    exact ⟨field, index, ⟨found, bound⟩, rfl, named⟩

end RecordType

/-! ## Binding -/

/-- Related lists have related items at the same positions, and end at the same one. -/
theorem getElem?_of_forall₂ {α β : Type} {related : α → β → Prop} {left : List α}
    {right : List β} (items : List.Forall₂ related left right) (index : Nat) :
    left[index]? = none ∧ right[index]? = none ∨
      ∃ first second, left[index]? = some first ∧ right[index]? = some second ∧
        related first second := by
  induction items generalizing index with
  | nil => exact .inl ⟨rfl, rfl⟩
  | cons item _ ih =>
      cases index with
      | zero => exact .inr ⟨_, _, rfl, rfl, item⟩
      | succ index => simpa using ih index

namespace TypeDeclaration

/-- A declared field stands at a position, and its specification does not leave it out. -/
def BoundAt (declaration : TypeDeclaration) (specs : List FieldSpec) (index : Nat)
    (field : FieldDeclaration) : Prop :=
  declaration.fields[index]? = some field ∧
    ∃ spec, specs[index]? = some spec ∧ spec.skip = false

/--
What a struct holds for a column: the value of the field that the column takes among the
specifications, or an error about the column where it takes none.
-/
inductive Holds (declaration : TypeDeclaration) (specs : List FieldSpec)
    (valueOf : String → Value) (column : String) : Outcome Expr → Prop
  | value {index : Nat} {field : FieldDeclaration}
      (taken : FieldSpec.TakenAt specs column index)
      (found : declaration.fields[index]? = some field) :
      Holds declaration specs valueOf column (valueOf field.name).toExpr
  | missing (free : ∀ index, ¬ FieldSpec.TakenAt specs column index) :
      Holds declaration specs valueOf column
        (.error (.columnNotFound (Lexeme.nameOf declaration.name) column))

section Derived

variable {declaration : TypeDeclaration} {recordType : RecordType} {valueOf : String → Value}
  {index : Nat} {field : FieldDeclaration} {source column : String}
  (derived : List.Forall₂ (fun field declared => field.declared = .ok declared)
    declaration.fields recordType.fields)

include derived

theorem specifies_specs :
    List.Forall₂ FieldDeclaration.Specifies declaration.fields recordType.specs :=
  List.forall₂_map_right_iff.mpr
    (derived.imp fun _ _ => FieldDeclaration.specifies_of_declared)

theorem exists_declared_of_boundAt (bound : declaration.BoundAt recordType.specs index field) :
    ∃ declared, recordType.fields[index]? = some declared ∧ declared.options.skip = false ∧
      declared.declaration.source = field.name := by
  obtain ⟨found, spec, specified, kept⟩ := bound
  rcases getElem?_of_forall₂ derived index with ⟨absent, -⟩ | ⟨_, declared, first, second, own⟩
  · rw [absent] at found
    cases found
  · cases found.symm.trans first
    rw [RecordType.specs, List.getElem?_map, second] at specified
    cases specified
    refine ⟨declared, second, kept, ?_⟩
    rw [(FieldDeclaration.declared_eq_ok_iff.mp own).1]
    rfl

theorem exists_boundAt_of_declared {declared : DeclaredField}
    (found : recordType.fields[index]? = some declared) (kept : declared.options.skip = false) :
    ∃ field, declaration.BoundAt recordType.specs index field ∧
      declared.declaration.source = field.name := by
  rcases getElem?_of_forall₂ derived index with ⟨-, absent⟩ | ⟨field, _, first, second, own⟩
  · rw [absent] at found
    cases found
  · cases found.symm.trans second
    refine ⟨field, ⟨first, declared.spec, ?_, kept⟩, ?_⟩
    · rw [RecordType.specs, List.getElem?_map, found]
      rfl
    · rw [(FieldDeclaration.declared_eq_ok_iff.mp own).1]
      rfl

/-- The names of positions are those of the fields that stand there and are not left out. -/
theorem lookup_arms_iff_boundAt :
    recordType.arms.lookup index = some source ↔
      ∃ field, declaration.BoundAt recordType.specs index field ∧ field.name = source := by
  rw [RecordType.lookup_arms_eq_some_iff]
  constructor
  · rintro ⟨declared, found, kept, rfl⟩
    obtain ⟨field, bound, named⟩ := exists_boundAt_of_declared derived found kept
    exact ⟨field, bound, named.symm⟩
  · rintro ⟨field, bound, rfl⟩
    exact exists_declared_of_boundAt derived bound

theorem fieldExpr_of_boundAt (bound : declaration.BoundAt recordType.specs index field) :
    recordType.fieldExpr valueOf index = (valueOf field.name).toExpr := by
  rw [RecordType.fieldExpr, (lookup_arms_iff_boundAt derived).mpr ⟨field, bound, rfl⟩]

theorem fieldExpr_of_not_boundAt
    (free : ∀ field, ¬ declaration.BoundAt recordType.specs index field) :
    recordType.fieldExpr valueOf index = .error (Record.noField recordType.name index) := by
  have absent : recordType.arms.lookup index = none := by
    refine Option.eq_none_iff_forall_ne_some.mpr fun source found => ?_
    obtain ⟨field, bound, -⟩ := (lookup_arms_iff_boundAt derived).mp found
    exact free field bound
  rw [RecordType.fieldExpr, absent]

/-- The field that a column takes is declared, and not left out. -/
theorem exists_boundAt_of_taken (taken : FieldSpec.TakenAt recordType.specs column index) :
    ∃ field, declaration.BoundAt recordType.specs index field := by
  obtain ⟨spec, specified, kept⟩ := taken.not_skip
  rw [RecordType.specs, List.getElem?_map, Option.map_eq_some_iff] at specified
  obtain ⟨declared, found, rfl⟩ := specified
  obtain ⟨field, bound, -⟩ := exists_boundAt_of_declared derived found kept
  exact ⟨field, bound⟩

theorem holds_cell (same : recordType.name = Lexeme.nameOf declaration.name) (column : String) :
    declaration.Holds recordType.specs valueOf column
      ((recordType.record valueOf).cell column) := by
  rw [Record.cell_eq_elim]
  cases position : FieldSpec.position? (recordType.record valueOf).fields column with
  | some index =>
      have taken := FieldSpec.position?_eq_some_iff.mp position
      obtain ⟨field, bound⟩ := exists_boundAt_of_taken derived taken
      have converted : (recordType.record valueOf).fieldExpr index = _ :=
        fieldExpr_of_boundAt derived bound
      rw [Option.elim_some, converted]
      exact .value taken bound.1
  | none =>
      rw [Option.elim_none]
      show declaration.Holds recordType.specs valueOf column
        (.error (.columnNotFound recordType.name column))
      rw [same]
      exact .missing (FieldSpec.position?_eq_none_iff.mp position)

end Derived

/--
A declaration with named fields and accepted attributes has a record type.  It has one
specification for each field in the order of declaration, and names for exactly the fields
that are not left out, at their own positions; those fields convert to their own values.
A struct of the type binds each column to the value of the field that the column takes among
the specifications.  Whatever stood for the positions without a field to convert, the rows
would be the same.
-/
theorem derive_bindsDeclaredFields {declaration : TypeDeclaration}
    (named : declaration.kind = .namedStruct)
    (accepted : ∀ field ∈ declaration.fields, ∃ options,
      FieldOptions.ofAttributes field.attributes = .ok options) :
    ∃ recordType, declaration.derive = .ok recordType ∧
      List.Forall₂ FieldDeclaration.Specifies declaration.fields recordType.specs ∧
      (∀ index source, recordType.arms.lookup index = some source ↔
        ∃ field, declaration.BoundAt recordType.specs index field ∧ field.name = source) ∧
      ∀ valueOf : String → Value,
        (∀ index field, declaration.BoundAt recordType.specs index field →
          (recordType.record valueOf).fieldExpr index = (valueOf field.name).toExpr) ∧
        (∀ index, (∀ field, ¬ declaration.BoundAt recordType.specs index field) →
          (recordType.record valueOf).fieldExpr index =
            .error (.columnNotFound (Lexeme.nameOf declaration.name) ("#" ++ index.repr))) ∧
        (∀ columns, ∃ outcomes,
          List.Forall₂ (declaration.Holds recordType.specs valueOf) columns outcomes ∧
            Row.bind columns (.record (recordType.record valueOf)) = Outcome.collect outcomes) ∧
        ∀ (other : Record) (columns : List String),
          other.typeName = Lexeme.nameOf declaration.name → other.fields = recordType.specs →
          (∀ index field, declaration.BoundAt recordType.specs index field →
            other.fieldExpr index = (valueOf field.name).toExpr) →
          Row.bind columns (.record other) =
            Row.bind columns (.record (recordType.record valueOf)) := by
  obtain ⟨recordType, succeeds, same, derived⟩ := exists_derive named accepted
  refine ⟨recordType, succeeds, specifies_specs derived,
    fun index source => lookup_arms_iff_boundAt derived, fun valueOf => ⟨?_, ?_, ?_, ?_⟩⟩
  · intro index field bound
    exact fieldExpr_of_boundAt derived bound
  · intro index free
    rw [← same]
    exact fieldExpr_of_not_boundAt derived free
  · intro columns
    refine ⟨columns.map (recordType.record valueOf).cell, ?_, rfl⟩
    exact List.forall₂_map_right_iff.mpr
      (List.forall₂_same.mpr fun column _ => holds_cell derived same column)
  · intro other columns typeName fields agree
    refine congrArg Outcome.collect (List.map_congr_left fun column _ => ?_)
    refine Record.cell_congr (typeName.trans same.symm) fields fun index taken => ?_
    obtain ⟨field, bound⟩ := exists_boundAt_of_taken derived taken
    exact (agree index field bound).trans (fieldExpr_of_boundAt derived bound).symm

/-- A declaration with a raw name, a skipped field among others, and options spread out. -/
def gappedDeclaration : TypeDeclaration where
  kind := .namedStruct
  name := "Gapped"
  parameters := []
  fields :=
    [⟨"cache", "Vec<u8>", [⟨"spanner", .bracketed [.word "skip"]⟩]⟩,
      ⟨"r#type", "String", [⟨"serde", .bracketed [.word "default"]⟩]⟩,
      ⟨"gone", "i64",
        [⟨"spanner", .bracketed [.word "column", .punctuation '=', .string "Id"]⟩,
          ⟨"spanner", .bracketed [.word "skip", .punctuation ',']⟩]⟩,
      ⟨"id", "i64",
        [⟨"spanner", .bracketed [.word "column", .punctuation '=', .string "Old"]⟩,
          ⟨"spanner", .bracketed [.word "column", .punctuation '=', .string "Id"]⟩]⟩]

/-- The fields that are left out do not show, whatever stands for their positions. -/
theorem gappedDeclaration_binds :
    gappedDeclaration.kind = .namedStruct ∧
      (∀ field ∈ gappedDeclaration.fields, ∃ options,
        FieldOptions.ofAttributes field.attributes = .ok options) ∧
      ∃ recordType, gappedDeclaration.derive = .ok recordType ∧
        recordType.arms = [(1, "r#type"), (3, "id")] ∧
        ∀ valueOf : String → Value,
          Row.bind ["TYPE", "Id"] (.record (recordType.record valueOf)) =
            Outcome.collect [(valueOf "r#type").toExpr, (valueOf "id").toExpr] := by
  have accepted : ∀ field ∈ gappedDeclaration.fields, ∃ options,
      FieldOptions.ofAttributes field.attributes = .ok options := by
    simp only [gappedDeclaration, List.forall_mem_cons]
    exact ⟨⟨_, rfl⟩, ⟨_, rfl⟩, ⟨_, rfl⟩, ⟨_, rfl⟩, fun _ none => absurd none List.not_mem_nil⟩
  obtain ⟨recordType, succeeds, -, -, binds⟩ := derive_bindsDeclaredFields rfl accepted
  refine ⟨rfl, accepted, recordType, succeeds, ?_, fun valueOf => ?_⟩
  · cases succeeds
    rfl
  · obtain ⟨-, -, -, alike⟩ := binds valueOf
    let other : Record := {
      typeName := "Gapped"
      fields := recordType.specs
      fieldExpr := fun
        | 1 => (valueOf "r#type").toExpr
        | 3 => (valueOf "id").toExpr
        | _ => .ok .null }
    rw [← alike other _ rfl rfl]
    · cases succeeds
      rfl
    · cases succeeds
      rintro (_ | _ | _ | _ | index) field ⟨found, spec, specified, kept⟩ <;>
        cases found <;> cases specified <;> cases kept <;> rfl

end TypeDeclaration

end SqlBuilder

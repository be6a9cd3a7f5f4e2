import Mathlib.Logic.Relation
import SqlBuilder.Proofs.JoinedText
import SqlBuilder.Value.Convert

/-!
# Flattening conditions

Three things about a condition do not show in its text: a wrapper around a part of
it, a group of one member, and a group that stands in a group of the same
connective.  Each of them can be taken away, at any depth, until none is left.  An
empty group is none of them, for it does not convert.

Taking one away may bring another to light, but the order makes no difference: a
condition comes to one flat condition, whatever is taken away first.  The flat
condition has the text of the first one, and where the first one does not convert
it fails with the same error.
-/

namespace SqlBuilder

namespace Condition

variable {condition other next : Condition} {connective : Connective}
variable {members front : List Condition}

/-! ## Steps -/

/-- One wrapper or one group is taken away somewhere in a condition. -/
inductive FlattensOnce : Condition → Condition → Prop where
  /-- A wrapper gives way to what it holds. -/
  | unwrap (condition : Condition) : FlattensOnce (.wrapped condition) condition
  /-- A group of one member gives way to the member. -/
  | single (connective : Connective) (member : Condition) :
      FlattensOnce (.group connective [member]) member
  /-- In a group of the same connective a group that is not empty gives way to its members. -/
  | splice (connective : Connective) (front inner back : List Condition) (present : inner ≠ []) :
      FlattensOnce (.group connective (front ++ .group connective inner :: back))
        (.group connective (front ++ (inner ++ back)))
  | inWrapper {condition other : Condition} (step : FlattensOnce condition other) :
      FlattensOnce (.wrapped condition) (.wrapped other)
  | inGroup (connective : Connective) (front back : List Condition)
      {condition other : Condition} (step : FlattensOnce condition other) :
      FlattensOnce (.group connective (front ++ condition :: back))
        (.group connective (front ++ other :: back))

/-- Any number of wrappers and groups are taken away, one after the other. -/
def FlattensTo : Condition → Condition → Prop :=
  Relation.ReflTransGen FlattensOnce

/-- There is nothing to take away from a flat condition. -/
def IsFlat (condition : Condition) : Prop :=
  ∀ other, ¬ condition.FlattensOnce other

/-! ## The flat condition -/

/-- What stands for a condition in a group: its members if it is such a group itself and not empty. -/
def spliced (connective : Connective) : Condition → List Condition
  | .group inner (first :: rest) =>
      if inner = connective then first :: rest else [.group inner (first :: rest)]
  | condition => [condition]

/-- The group of some members, or the member if there is only one. -/
def ofMembers (connective : Connective) : List Condition → Condition
  | [member] => member
  | members => .group connective members

mutual

/-- A condition without wrappers, groups of one member, and groups in groups of their connective. -/
def flatten : Condition → Condition
  | .group connective members =>
      ofMembers connective ((flattenAll members).flatMap (spliced connective))
  | .wrapped condition => condition.flatten
  | condition => condition

def flattenAll : List Condition → List Condition
  | [] => []
  | condition :: rest => condition.flatten :: flattenAll rest

end

@[simp]
theorem flattenAll_eq_map (conditions : List Condition) :
    flattenAll conditions = conditions.map flatten := by
  induction conditions with
  | nil => rfl
  | cons condition rest ih => simp [flattenAll, ih]

theorem flatten_group (connective : Connective) (members : List Condition) :
    (group connective members).flatten =
      ofMembers connective ((members.map flatten).flatMap (spliced connective)) := by
  rw [flatten, flattenAll_eq_map]

/-- A condition that is neither a group nor wrapped. -/
def IsLeaf : Condition → Prop
  | .group _ _ => False
  | .wrapped _ => False
  | _ => True

theorem flatten_of_isLeaf (leaf : condition.IsLeaf) : condition.flatten = condition := by
  cases condition with
  | group => exact leaf.elim
  | wrapped => exact leaf.elim
  | _ => rfl

/-- What holds of every condition, given that it holds of each whose members it holds of. -/
theorem induction_members {motive : Condition → Prop}
    (leaf : ∀ condition : Condition, condition.IsLeaf → motive condition)
    (wrapped : ∀ condition, motive condition → motive (.wrapped condition))
    (group : ∀ connective members, (∀ member ∈ members, motive member) →
      motive (.group connective members)) :
    (condition : Condition) → motive condition
  | .group connective members =>
      group connective members fun member _ => induction_members leaf wrapped group member
  | .wrapped condition => wrapped condition (induction_members leaf wrapped group condition)
  | .compare operator left right => leaf (.compare operator left right) trivial
  | .isNull operand negated => leaf (.isNull operand negated) trivial
  | .inArray operand elements negated => leaf (.inArray operand elements negated) trivial
  | .inList operand elements negated => leaf (.inList operand elements negated) trivial
  | .inQuery operand query negated => leaf (.inQuery operand query negated) trivial
  | .between operand low high negated => leaf (.between operand low high negated) trivial
  | .bool value => leaf (.bool value) trivial
  | .expr expression => leaf (.expr expression) trivial
termination_by condition => sizeOf condition

/-! ## What is flat -/

/-- A group that gives way to its members in a group of a connective. -/
def Merges (connective : Connective) (condition : Condition) : Prop :=
  ∃ inner, inner ≠ [] ∧ condition = .group connective inner

theorem spliced_group {inner : List Condition} (present : inner ≠ []) :
    spliced connective (.group connective inner) = inner := by
  cases inner with
  | nil => exact absurd rfl present
  | cons first rest => simp [spliced]

theorem spliced_of_not_merges (alone : ¬ condition.Merges connective) :
    spliced connective condition = [condition] := by
  cases condition with
  | group inner members =>
      cases members with
      | nil => rfl
      | cons first rest =>
          have other : inner ≠ connective := by
            rintro rfl
            exact alone ⟨first :: rest, List.cons_ne_nil _ _, rfl⟩
          simp [spliced, other]
  | _ => rfl

theorem spliced_ne_nil (connective : Connective) (condition : Condition) :
    spliced connective condition ≠ [] := by
  by_cases merges : condition.Merges connective
  · obtain ⟨inner, present, rfl⟩ := merges
    rwa [spliced_group present]
  · simp [spliced_of_not_merges merges]

theorem isFlat_of_isLeaf (leaf : condition.IsLeaf) : condition.IsFlat := by
  intro other step
  cases step <;> exact leaf

theorem isFlat_group_iff :
    (group connective members).IsFlat ↔
      members.length ≠ 1 ∧
        ∀ member ∈ members, member.IsFlat ∧ ¬ member.Merges connective := by
  constructor
  · intro flat
    constructor
    · intro lone
      obtain ⟨member, rfl⟩ := List.length_eq_one_iff.mp lone
      exact flat member (.single connective member)
    · intro member inside
      obtain ⟨front, back, rfl⟩ := List.append_of_mem inside
      constructor
      · exact fun other step => flat _ (.inGroup connective front back step)
      · rintro ⟨inner, present, rfl⟩
        exact flat _ (.splice connective front inner back present)
  · rintro ⟨several, each⟩ other step
    generalize whole : group connective members = condition at step
    cases step with
    | unwrap => cases whole
    | inWrapper => cases whole
    | single =>
        cases whole
        exact several rfl
    | splice _ front inner back present =>
        cases whole
        exact (each _ (by simp)).2 ⟨inner, present, rfl⟩
    | inGroup _ front back step =>
        cases whole
        exact (each _ (by simp)).1 _ step

theorem IsFlat.ofMembers
    (each : ∀ member ∈ members, member.IsFlat ∧ ¬ member.Merges connective) :
    (ofMembers connective members).IsFlat := by
  match members with
  | [] => exact isFlat_group_iff.mpr ⟨by simp, each⟩
  | [member] => exact (each member (List.mem_singleton_self member)).1
  | first :: second :: rest => exact isFlat_group_iff.mpr ⟨by simp, each⟩

/-- What flat conditions put into a group is flat, and does not give way in turn. -/
theorem IsFlat.of_mem_spliced (flat : condition.IsFlat)
    (inside : other ∈ spliced connective condition) :
    other.IsFlat ∧ ¬ other.Merges connective := by
  by_cases merges : condition.Merges connective
  · obtain ⟨inner, present, rfl⟩ := merges
    rw [spliced_group present] at inside
    exact (isFlat_group_iff.mp flat).2 other inside
  · rw [spliced_of_not_merges merges, List.mem_singleton] at inside
    exact inside ▸ ⟨flat, merges⟩

theorem flat_of_mem_flatMap (flat : ∀ member ∈ members, member.IsFlat)
    (inside : other ∈ members.flatMap (spliced connective)) :
    other.IsFlat ∧ ¬ other.Merges connective := by
  obtain ⟨member, among, put⟩ := List.mem_flatMap.mp inside
  exact (flat member among).of_mem_spliced put

theorem isFlat_flatten (condition : Condition) : condition.flatten.IsFlat := by
  induction condition using induction_members with
  | leaf condition leaf =>
      rw [flatten_of_isLeaf leaf]
      exact isFlat_of_isLeaf leaf
  | wrapped condition ih => exact ih
  | group connective members ih =>
      rw [flatten_group]
      exact IsFlat.ofMembers fun _ inside =>
        flat_of_mem_flatMap (List.forall_mem_map.mpr ih) inside

/-- A flat group puts its own members together again. -/
theorem flatMap_spliced_of_isFlat
    (each : ∀ member ∈ members, ¬ member.Merges connective) :
    members.flatMap (spliced connective) = members := by
  have single : members.map (spliced connective) = members.map fun member => [member] :=
    List.map_congr_left fun member inside => spliced_of_not_merges (each member inside)
  rw [List.flatMap_def, single, ← List.flatMap_def, List.flatMap_singleton']

theorem ofMembers_of_length_ne_one (several : members.length ≠ 1) :
    ofMembers connective members = .group connective members := by
  match members with
  | [] => rfl
  | [_] => exact absurd rfl several
  | _ :: _ :: _ => rfl

theorem flatten_of_isFlat (flat : condition.IsFlat) : condition.flatten = condition := by
  induction condition using induction_members with
  | leaf condition leaf => exact flatten_of_isLeaf leaf
  | wrapped condition _ => exact absurd (.unwrap condition) (flat condition)
  | group connective members ih =>
      obtain ⟨several, each⟩ := isFlat_group_iff.mp flat
      have fixed : members.map flatten = members := by
        refine (List.map_congr_left fun member inside => ?_).trans (List.map_id members)
        exact ih member inside (each member inside).1
      rw [flatten_group, fixed, flatMap_spliced_of_isFlat fun member inside => (each member inside).2,
        ofMembers_of_length_ne_one several]

/-! ## Every way leads to the flat condition -/

theorem FlattensTo.inGroup (reached : condition.FlattensTo other) (connective : Connective)
    (front back : List Condition) :
    (group connective (front ++ condition :: back)).FlattensTo
      (group connective (front ++ other :: back)) := by
  induction reached with
  | refl => exact .refl
  | tail _ step ih => exact ih.tail (.inGroup connective front back step)

/-- The members of a group are flattened one after the other. -/
theorem flattensTo_map_flatten (connective : Connective) (front : List Condition)
    (each : ∀ member ∈ members, member.FlattensTo member.flatten) :
    (group connective (front ++ members)).FlattensTo
      (group connective (front ++ members.map flatten)) := by
  induction members generalizing front with
  | nil => exact .refl
  | cons member rest ih =>
      rw [List.forall_mem_cons] at each
      have first := each.1.inGroup connective front rest
      have others := ih (front ++ [member.flatten]) each.2
      rw [List.append_assoc, List.append_assoc] at others
      exact first.trans others

/-- The members of a group give way one after the other. -/
theorem flattensTo_spliced (connective : Connective) (front members : List Condition) :
    (group connective (front ++ members)).FlattensTo
      (group connective (front ++ members.flatMap (spliced connective))) := by
  induction members generalizing front with
  | nil => exact .refl
  | cons member rest ih =>
      have others := ih (front ++ spliced connective member)
      rw [List.append_assoc, List.append_assoc, ← List.flatMap_cons] at others
      by_cases merges : member.Merges connective
      · obtain ⟨inner, present, rfl⟩ := merges
        rw [spliced_group present] at others
        exact .head (.splice connective front inner rest present) others
      · rw [spliced_of_not_merges merges] at others
        exact others

theorem flattensTo_ofMembers : (group connective members).FlattensTo (ofMembers connective members) := by
  match members with
  | [] => exact .refl
  | [member] => exact .single (.single connective member)
  | _ :: _ :: _ => exact .refl

theorem flattensTo_flatten (condition : Condition) : condition.FlattensTo condition.flatten := by
  induction condition using induction_members with
  | leaf condition leaf =>
      rw [flatten_of_isLeaf leaf]
      exact .refl
  | wrapped condition ih => exact .head (.unwrap condition) ih
  | group connective members ih =>
      rw [flatten_group]
      have flattened := flattensTo_map_flatten connective [] ih
      have spliced := flattensTo_spliced connective [] (members.map flatten)
      exact (flattened.trans spliced).trans flattensTo_ofMembers

/-- A flat condition stands for itself in a group on its own. -/
theorem ofMembers_spliced (flat : condition.IsFlat) :
    ofMembers connective (spliced connective condition) = condition := by
  by_cases merges : condition.Merges connective
  · obtain ⟨inner, present, rfl⟩ := merges
    rw [spliced_group present, ofMembers_of_length_ne_one (isFlat_group_iff.mp flat).1]
  · rw [spliced_of_not_merges merges]
    rfl

/-- Members that do not give way are put into a group by their own group as they are. -/
theorem spliced_ofMembers (present : members ≠ [])
    (each : ∀ member ∈ members, ¬ member.Merges connective) :
    spliced connective (ofMembers connective members) = members := by
  match members with
  | [] => exact absurd rfl present
  | [member] => exact spliced_of_not_merges (each member (List.mem_singleton_self member))
  | _ :: _ :: _ => exact spliced_group (List.cons_ne_nil _ _)

/-- A step does not change the flat condition. -/
theorem FlattensOnce.flatten_eq (step : condition.FlattensOnce other) :
    other.flatten = condition.flatten := by
  induction step with
  | unwrap condition => rfl
  | single connective member =>
      rw [flatten_group, List.map_singleton, List.flatMap_singleton]
      exact (ofMembers_spliced member.isFlat_flatten).symm
  | splice connective front inner back present =>
      have some : (inner.map flatten).flatMap (spliced connective) ≠ [] := by
        obtain ⟨first, rest, rfl⟩ := List.exists_cons_of_ne_nil present
        simp [spliced_ne_nil]
      have flat : ∀ member ∈ (inner.map flatten).flatMap (spliced connective),
          ¬ member.Merges connective := fun member inside =>
        (flat_of_mem_flatMap (List.forall_mem_map.mpr fun member _ => member.isFlat_flatten)
          inside).2
      simp only [flatten_group, List.map_append, List.map_cons, List.flatMap_append,
        List.flatMap_cons, spliced_ofMembers some flat]
  | inWrapper step ih => exact ih
  | inGroup connective front back step ih =>
      simp only [flatten_group, List.map_append, List.map_cons, ih]

theorem FlattensTo.flatten_eq (reached : condition.FlattensTo other) :
    other.flatten = condition.flatten := by
  induction reached with
  | refl => rfl
  | tail _ step ih => exact step.flatten_eq.trans ih

/-! ## What does not show -/

/-- What is seen of a condition: the outline of its expression, or its error. -/
def outline (condition : Condition) : Outcome Outline :=
  condition.toExpr.map Expr.outline

theorem outline_group (connective : Connective) (members : List Condition) :
    (group connective members).outline = Outline.joined connective (members.map outline) := by
  rw [outline, toExpr, outline_joined, outcomes_eq_map, List.map_map]
  rfl

theorem sql_of_outline (condition : Condition) :
    condition.toExpr.map Expr.sql =
      condition.outline.map fun outline => String.ofList outline.text := by
  rw [outline]
  cases condition.toExpr <;> rfl

/-- A step changes nothing that is seen. -/
theorem FlattensOnce.outline_eq (step : condition.FlattensOnce other) :
    other.outline = condition.outline := by
  induction step with
  | unwrap condition => rw [outline, outline, toExpr]
  | single connective member =>
      rw [outline_group, List.map_singleton, Outline.joined_singleton]
  | splice connective front inner back present =>
      have some : inner.map outline ≠ [] := by simpa using present
      simp only [outline_group, List.map_append, List.map_cons]
      exact (Outline.joined_splice some).symm
  | inWrapper step ih => rwa [outline, outline, toExpr, toExpr]
  | inGroup connective front back step ih =>
      simp only [outline_group, List.map_append, List.map_cons, ih]

theorem FlattensTo.outline_eq (reached : condition.FlattensTo other) :
    other.outline = condition.outline := by
  induction reached with
  | refl => rfl
  | tail _ step ih => exact step.outline_eq.trans ih

/--
The flat condition of a condition has the same SQL text, or fails with the same
error.  It comes about by taking away wrappers and groups until none is left, and
so does every condition on the way; whatever is taken away first, the flat
condition is the same.
-/
theorem flatten_sameText (condition : Condition) :
    condition.flatten.toExpr.map Expr.sql = condition.toExpr.map Expr.sql ∧
      condition.FlattensTo condition.flatten ∧
      condition.flatten.IsFlat ∧
      ∀ other, condition.FlattensTo other →
        other.toExpr.map Expr.sql = condition.toExpr.map Expr.sql ∧
          (other.IsFlat → other = condition.flatten) := by
  have sameText {other : Condition} (reached : condition.FlattensTo other) :
      other.toExpr.map Expr.sql = condition.toExpr.map Expr.sql := by
    rw [sql_of_outline, sql_of_outline, reached.outline_eq]
  have reached := condition.flattensTo_flatten
  refine ⟨sameText reached, reached, condition.isFlat_flatten, ?_⟩
  intro other onTheWay
  refine ⟨sameText onTheWay, fun flat => ?_⟩
  rw [← onTheWay.flatten_eq, flatten_of_isFlat flat]

end Condition

/-- The condition that a column is null. -/
def isNullColumn (column : String) (negated : Bool) : Condition :=
  .isNull (.expr (.name column)) negated

/--
The inner OR comes to light when its wrapper and the lone group around it are
gone, and the AND behind it when the wrapper is.
-/
def tangledCondition : Condition :=
  .group .or
    [.group .and [.wrapped (.group .or [isNullColumn "a" false, isNullColumn "b" false])],
      .group .and [isNullColumn "c" true,
        .wrapped (.group .and [.group .or [isNullColumn "d" true, .bool false], .bool true])]]

/-- The same condition with nothing left to take away. -/
def untangledCondition : Condition :=
  .group .or
    [isNullColumn "a" false, isNullColumn "b" false,
      .group .and [isNullColumn "c" true,
        .group .or [isNullColumn "d" true, .bool false], .bool true]]

theorem tangledCondition_sameText :
    tangledCondition.FlattensTo untangledCondition ∧ untangledCondition.IsFlat ∧
      untangledCondition.toExpr.map Expr.sql =
        .ok "a IS NULL OR b IS NULL OR (c IS NOT NULL AND (d IS NOT NULL OR FALSE) AND TRUE)" ∧
      tangledCondition.toExpr.map Expr.sql = untangledCondition.toExpr.map Expr.sql := by
  have flat : tangledCondition.flatten = untangledCondition := rfl
  obtain ⟨sameText, reached, isFlat, -⟩ := Condition.flatten_sameText tangledCondition
  rw [flat] at sameText reached isFlat
  exact ⟨reached, isFlat, congrArg Except.ok (by decide +kernel), sameText.symm⟩

end SqlBuilder

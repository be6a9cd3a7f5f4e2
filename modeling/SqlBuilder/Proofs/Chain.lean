import SqlBuilder.Proofs.Precedence
import SqlBuilder.Proofs.Traversal

/-!
# Chains of one connective

A connective is associative, and its chains are written without brackets.  So an
expression is known from its text up to the way in which such chains are put
together.  The left chained form puts each of them together from the left, and
leaves everything else as it is.
-/

namespace SqlBuilder

namespace Expr

/-- The links of a chain of one connective, from left to right along its left side. -/
def links (connective : Connective) : Expr → List Expr
  | .binary operator left right =>
      if operator = .logical connective then links connective left ++ [right]
      else [.binary operator left right]
  | expr => [expr]

/-- A chain with the links of its right side put behind those of its left side. -/
def relinked : Expr → Expr
  | .binary (.logical connective) left right =>
      (right.links connective).foldl (.binary (.logical connective)) left
  | expr => expr

/-- An expression with all chains in it put together from the left. -/
def leftChained (expr : Expr) : Expr :=
  expr.rebuild relinked id

end Expr

def Select.leftChained (query : Select) : Select :=
  query.rebuild Expr.relinked id

/-- A statement with all chains in it put together from the left. -/
def Statement.leftChained (statement : Statement) : Statement :=
  statement.rebuild Expr.relinked id

namespace Expr

variable {connective : Connective} {expr left : Expr}

@[simp]
theorem links_logical (connective : Connective) (left right : Expr) :
    (binary (.logical connective) left right).links connective =
      left.links connective ++ [right] := by
  simp [links]

/-- What has another top operator is a link on its own. -/
theorem links_eq_singleton (other : expr.topOperator? ≠ some (.logical connective)) :
    expr.links connective = [expr] := by
  cases expr with
  | binary operator left right =>
      have different : operator ≠ .logical connective := by simpa using other
      simp [links, different]
  | _ => rfl

theorem links_ne_nil (connective : Connective) (expr : Expr) : expr.links connective ≠ [] := by
  by_cases same : expr.topOperator? = some (.logical connective)
  · cases expr with
    | binary operator left right =>
        obtain rfl : operator = .logical connective := by simpa using same
        simp
    | _ => cases same
  · simp [links_eq_singleton same]

theorem links_foldl (left : Expr) (rest : List Expr) :
    (rest.foldl (binary (.logical connective)) left).links connective =
      left.links connective ++ rest := by
  induction rest generalizing left with
  | nil => simp
  | cons next others ih => simp [ih]

/-- Putting a chain together in another way keeps its links. -/
theorem links_relinked (connective : Connective) (left right : Expr) :
    (binary (.logical connective) left right).relinked.links connective =
      left.links connective ++ right.links connective :=
  links_foldl left (right.links connective)

/-- A chain is the chain of its links. -/
theorem chained?_links (connective : Connective) (expr : Expr) :
    Part.chained? (binary (.logical connective)) (expr.links connective) = some expr := by
  induction expr using Expr.links.induct connective with
  | case1 left right ih =>
      rcases List.exists_cons_of_ne_nil (links_ne_nil connective left) with ⟨first, rest, links⟩
      rw [links] at ih
      have chain : rest.foldl (binary (.logical connective)) first = left := by
        simpa [Part.chained?] using ih
      simp [links, Part.chained?, chain]
  | case2 operator left right other =>
      simp [links, other, Part.chained?]
  | case3 expr other =>
      have alone : expr.topOperator? ≠ some (.logical connective) := by
        cases expr with
        | binary operator left right => exact absurd rfl (other operator left right)
        | _ => simp [topOperator?]
      simp [links_eq_singleton alone, Part.chained?]

@[simp]
theorem topOperator?_relinked (expr : Expr) : expr.relinked.topOperator? = expr.topOperator? := by
  have top (rest : List Expr) (present : rest ≠ []) (connective : Connective) (left : Expr) :
      (rest.foldl (binary (.logical connective)) left).topOperator? =
        some (.logical connective) := by
    rw [← List.dropLast_concat_getLast present, List.foldl_append]
    rfl
  cases expr with
  | binary operator left right =>
      cases operator with
      | logical connective => exact top _ (links_ne_nil connective right) connective left
      | _ => rfl
  | _ => rfl

@[simp]
theorem topOperator?_leftChained (expr : Expr) :
    expr.leftChained.topOperator? = expr.topOperator? := by
  cases expr with
  | binary operator left right =>
      exact topOperator?_relinked (binary operator left.leftChained right.leftChained)
  | _ => rfl

/-- The way in which a chain is put together does not show in its left chained form. -/
theorem leftChained_assoc (connective : Connective) (first second third : Expr) :
    (binary (.logical connective) (binary (.logical connective) first second) third).leftChained =
      (binary (.logical connective) first
        (binary (.logical connective) second third)).leftChained := by
  simp only [leftChained, rebuild]
  rw [relinked, relinked, relinked, links_relinked, List.foldl_append]

/-- The left chained form of a binary expression is made from those of its sides. -/
theorem leftChained_binary (operator : Operator) (left right : Expr) :
    (binary operator left right).leftChained =
      (binary operator left.leftChained right.leftChained).relinked := rfl

theorem leftChained_foldl_congr (connective : Connective) {first second : Expr}
    (links : List Expr) (same : first.leftChained = second.leftChained) :
    (links.foldl (binary (.logical connective)) first).leftChained =
      (links.foldl (binary (.logical connective)) second).leftChained := by
  induction links generalizing first second with
  | nil => exact same
  | cons next others ih =>
      apply ih
      rw [leftChained_binary, leftChained_binary, same]

/-- Links joined to an operand one by one are joined to it as a chain. -/
theorem leftChained_foldl_chained {links : List Expr}
    (chain : Part.chained? (binary (.logical connective)) links = some right) :
    (links.foldl (binary (.logical connective)) left).leftChained =
      (binary (.logical connective) left right).leftChained := by
  cases links with
  | nil => cases chain
  | cons first rest =>
      cases chain
      induction rest generalizing first with
      | nil => rfl
      | cons next others ih =>
          have moved := leftChained_foldl_congr connective others
            (leftChained_assoc connective left first next)
          exact moved.trans (ih (binary (.logical connective) first next))

/-! ## Left chained forms -/

/-- A row of links that are left chained themselves, and none of them a chain, is left as it is. -/
theorem leftChained_foldl {rest : List Expr} (start : left.leftChained = left)
    (fixed : ∀ link ∈ rest, link.leftChained = link)
    (links : ∀ link ∈ rest, link.topOperator? ≠ some (.logical connective)) :
    (rest.foldl (binary (.logical connective)) left).leftChained =
      rest.foldl (binary (.logical connective)) left := by
  induction rest generalizing left with
  | nil => exact start
  | cons next others ih =>
      rw [List.forall_mem_cons] at fixed links
      refine ih ?_ fixed.2 links.2
      have single := links_eq_singleton links.1
      show (binary (.logical connective) left.leftChained next.leftChained).relinked = _
      rw [start, fixed.1, relinked, single]
      rfl

/-- The links of a left chained form are left chained, and none of them is a chain of its own. -/
def LinksFixed (expr : Expr) : Prop :=
  ∀ connective, ∀ link ∈ expr.links connective,
    link.leftChained = link ∧ link.topOperator? ≠ some (.logical connective)

/-- What has no connective at its top is its only link. -/
theorem linksFixed_of_topOperator?
    (noLogical : ∀ connective, expr.topOperator? ≠ some (.logical connective))
    (fixed : expr.leftChained = expr) : expr.LinksFixed := by
  intro connective
  rw [links_eq_singleton (noLogical connective), List.forall_mem_singleton]
  exact ⟨fixed, noLogical connective⟩

theorem leftChained_relinked {left right : Expr} (connective : Connective)
    (start : left.leftChained = left) (first : left.LinksFixed) (second : right.LinksFixed) :
    (binary (.logical connective) left right).relinked.leftChained =
        (binary (.logical connective) left right).relinked ∧
      (binary (.logical connective) left right).relinked.LinksFixed := by
  have fixed : (binary (.logical connective) left right).relinked.leftChained =
      (binary (.logical connective) left right).relinked :=
    leftChained_foldl start (fun link member => (second connective link member).1)
      fun link member => (second connective link member).2
  refine ⟨fixed, fun other => ?_⟩
  by_cases same : connective = other
  · subst other
    rw [links_relinked, List.forall_mem_append]
    exact ⟨first connective, second connective⟩
  · have top : (binary (.logical connective) left right).relinked.topOperator? ≠
        some (.logical other) := by
      rw [topOperator?_relinked]
      simpa using same
    rw [links_eq_singleton top, List.forall_mem_singleton]
    exact ⟨fixed, top⟩

/-- Every left chained form is left as it is. -/
theorem leftChained_leftChained_all :
    (∀ expr : Expr, expr.leftChained.leftChained = expr.leftChained ∧
      expr.leftChained.LinksFixed) ∧
    (∀ candidates : Candidates, (candidates.rebuild relinked id).rebuild relinked id =
      candidates.rebuild relinked id) ∧
    ∀ query : Select, query.leftChained.leftChained = query.leftChained := by
  have factor {expr : Expr}
      (noLogical : ∀ connective, expr.topOperator? ≠ some (.logical connective))
      (fixed : expr.leftChained.leftChained = expr.leftChained) :
      expr.leftChained.leftChained = expr.leftChained ∧ expr.leftChained.LinksFixed := by
    refine ⟨fixed, linksFixed_of_topOperator? (fun connective => ?_) fixed⟩
    rw [topOperator?_leftChained]
    exact noLogical connective
  have list {elements : List Expr} (each : ∀ element ∈ elements,
      element.leftChained.leftChained = element.leftChained ∧ element.leftChained.LinksFixed) :
      rebuildAll relinked id (rebuildAll relinked id elements) =
        rebuildAll relinked id elements := by
    rw [rebuildAll_eq_map, rebuildAll_eq_map, List.map_map]
    exact List.map_congr_left fun element member => (each element member).1
  apply Expr.Cases.all
  constructor
  case leaf =>
    intro expr isLeaf
    cases expr with
    | path segments =>
        refine factor (by simp [topOperator?]) (congrArg path ?_)
        rw [List.map_id, List.map_id]
    | array => exact isLeaf.elim
    | binary => exact isLeaf.elim
    | isNull => exact isLeaf.elim
    | isIn => exact isLeaf.elim
    | between => exact isLeaf.elim
    | subquery => exact isLeaf.elim
    | paren => exact isLeaf.elim
    | _ => exact factor (by simp [topOperator?]) rfl
  case array =>
    intro elements ih
    exact factor (by simp [topOperator?]) (congrArg array (list ih))
  case binary =>
    intro operator left right first second
    have operands : binary operator left.leftChained.leftChained right.leftChained.leftChained =
        binary operator left.leftChained right.leftChained := by
      rw [first.1, second.1]
    cases operator with
    | logical connective => exact leftChained_relinked connective first.1 first.2 second.2
    | _ => exact factor (by simp) operands
  case isNull =>
    intro operand negated ih
    exact factor (by simp [topOperator?]) (congrArg (isNull · negated) ih.1)
  case isIn =>
    intro operand candidates negated first second
    refine factor (by simp [topOperator?]) ?_
    show isIn operand.leftChained.leftChained
        ((candidates.rebuild relinked id).rebuild relinked id) negated =
      isIn operand.leftChained (candidates.rebuild relinked id) negated
    rw [first.1, second]
  case between =>
    intro operand low high negated first second third
    refine factor (by simp [topOperator?]) ?_
    show between operand.leftChained.leftChained low.leftChained.leftChained
        high.leftChained.leftChained negated =
      between operand.leftChained low.leftChained high.leftChained negated
    rw [first.1, second.1, third.1]
  case subquery =>
    intro form query ih
    exact factor (by simp [topOperator?]) (congrArg (subquery form) ih)
  case paren =>
    intro inner ih
    exact factor (by simp [topOperator?]) (congrArg paren ih.1)
  case values =>
    intro elements ih
    exact congrArg Candidates.values (list ih)
  case unnest =>
    intro elements ih
    exact congrArg Candidates.unnest ih.1
  case rows =>
    intro query ih
    exact congrArg Candidates.subquery ih
  case query =>
    intro items table filter orderBy limit ofItems ofFilter ofKeys ofLimit
    have projected : SelectItem.rebuildAll relinked id (SelectItem.rebuildAll relinked id items) =
        SelectItem.rebuildAll relinked id items := by
      rw [SelectItem.rebuildAll_eq_map, SelectItem.rebuildAll_eq_map, List.map_map]
      refine List.map_congr_left ?_
      rintro ⟨expr, label⟩ member
      show SelectItem.mk expr.leftChained.leftChained ((label.map id).map id) =
        ⟨expr.leftChained, label.map id⟩
      rw [(ofItems _ member).1, Option.map_id, id, id]
    have tested : rebuild? relinked id (rebuild? relinked id filter) =
        rebuild? relinked id filter := by
      cases filter with
      | none => rfl
      | some expr => exact congrArg some (ofFilter expr rfl).1
    have sorted : OrderKey.rebuildAll relinked id (OrderKey.rebuildAll relinked id orderBy) =
        OrderKey.rebuildAll relinked id orderBy := by
      rw [OrderKey.rebuildAll_eq_map, OrderKey.rebuildAll_eq_map, List.map_map]
      refine List.map_congr_left ?_
      rintro ⟨expr, direction⟩ member
      exact congrArg (OrderKey.mk · direction) (ofKeys _ member).1
    have ranged : Limit.rebuild? relinked id (Limit.rebuild? relinked id limit) =
        Limit.rebuild? relinked id limit := by
      cases limit with
      | none => rfl
      | some range =>
          obtain ⟨count, offset⟩ := range
          obtain ⟨counted, skipped⟩ := ofLimit _ rfl
          have passed : rebuild? relinked id (rebuild? relinked id offset) =
              rebuild? relinked id offset := by
            cases offset with
            | none => rfl
            | some expr => exact congrArg some (skipped expr rfl).1
          show some (Limit.mk count.leftChained.leftChained
              (rebuild? relinked id (rebuild? relinked id offset))) =
            some ⟨count.leftChained, rebuild? relinked id offset⟩
          rw [counted.1, passed]
    show Select.mk _ table _ _ _ = ⟨_, table, _, _, _⟩
    rw [projected, tested, sorted, ranged]

@[simp]
theorem leftChained_leftChained (expr : Expr) : expr.leftChained.leftChained = expr.leftChained :=
  (leftChained_leftChained_all.1 expr).1

/-! ## The text of chains -/

theorem text_logical (connective : Connective) (left right : Expr) :
    (binary (.logical connective) left right).text =
      left.text ++ ' ' :: connective.sql.toList ++ ' ' :: right.text := rfl

theorem text_foldl_links (connective : Connective) (left right : Expr) :
    ((right.links connective).foldl (binary (.logical connective)) left).text =
      left.text ++ ' ' :: connective.sql.toList ++ ' ' :: right.text := by
  induction right using Expr.links.induct connective with
  | case1 front last ih =>
      rw [links_logical, List.foldl_append, List.foldl_cons, List.foldl_nil, text_logical, ih,
        text_logical]
      simp only [List.append_assoc, List.cons_append]
  | case2 operator front last other =>
      rw [links, if_neg other]
      rfl
  | case3 right other =>
      have alone : right.topOperator? ≠ some (.logical connective) := by
        cases right with
        | binary operator front last => exact absurd rfl (other operator front last)
        | _ => simp [topOperator?]
      rw [links_eq_singleton alone]
      rfl

theorem text_relinked (expr : Expr) : expr.relinked.text = expr.text := by
  cases expr with
  | binary operator left right =>
      cases operator with
      | logical connective => exact text_foldl_links connective left right
      | _ => rfl
  | _ => rfl

end Expr

/-- A statement is written as its left chained form is. -/
theorem Statement.text_leftChained (statement : Statement) :
    statement.leftChained.text = statement.text :=
  statement.text_rebuild Expr.text_relinked

end SqlBuilder

import SqlBuilder.Expr.Join
import SqlBuilder.Expr.Render
import SqlBuilder.Proofs.FirstFailure

/-!
# The text of joined conditions

When conditions are joined, no more than two things are seen of each of them: its
text and its top operator.  The two are the outline of an expression.  The outline
of a joined condition is known from the outlines of its members, and so is the
error where one of them does not convert.

The main statement is about a member that is joined itself.  If its connective is
the same, and it has members, its members can stand in its place: neither the
outline nor the error of the whole changes.
-/

namespace SqlBuilder

/-! ## Outlines -/

/-- What a connective sees of an expression: its text and its top operator. -/
structure Outline where
  text : Text
  top : Option Operator

def Expr.outline (expr : Expr) : Outline :=
  ⟨expr.text, expr.topOperator?⟩

namespace Outline

variable {connective : Connective}

/-- An outline in brackets if its top operator is the other connective. -/
def grouped (connective : Connective) (outline : Outline) : Outline :=
  match outline.top with
  | some (.logical inner) =>
      if inner = connective then outline else ⟨Text.parenthesised outline.text, none⟩
  | _ => outline

/-- The text of the links of a chain behind the first one. -/
def following (connective : Connective) (links : List Outline) : Text :=
  links.flatMap fun link => ' ' :: connective.sql.toList ++ ' ' :: (link.grouped connective).text

@[simp]
theorem following_append (front back : List Outline) :
    following connective (front ++ back) =
      following connective front ++ following connective back :=
  List.flatMap_append

@[simp]
theorem following_cons (link : Outline) (rest : List Outline) :
    following connective (link :: rest) =
      ' ' :: connective.sql.toList ++ ' ' :: (link.grouped connective).text ++
        following connective rest := rfl

/-- The outline of a chain of links, of which there has to be one. -/
def chain (connective : Connective) : List Outline → Outcome Outline
  | [] => .error (.emptyConditionList connective)
  | [lone] => .ok lone
  | first :: rest =>
      .ok ⟨(first.grouped connective).text ++ following connective rest,
        some (.logical connective)⟩

theorem chain_of_ne_nil (first : Outline) {rest : List Outline} (present : rest ≠ []) :
    chain connective (first :: rest) =
      .ok ⟨(first.grouped connective).text ++ following connective rest,
        some (.logical connective)⟩ := by
  cases rest with
  | nil => exact absurd rfl present
  | cons next others => rfl

/-- A chain stands without brackets in another chain of its connective. -/
theorem text_grouped_chain {first outline : Outline} {rest : List Outline}
    (made : chain connective (first :: rest) = .ok outline) :
    (outline.grouped connective).text =
      (first.grouped connective).text ++ following connective rest := by
  cases rest with
  | nil =>
      cases made
      simp [following]
  | cons next others =>
      cases made
      simp [grouped]

/-- The links of a chain can stand in its place in another chain of its connective. -/
theorem chain_splice {front inner back : List Outline} {outline : Outline}
    (made : chain connective inner = .ok outline) :
    chain connective (front ++ outline :: back) =
      chain connective (front ++ (inner ++ back)) := by
  cases inner with
  | nil => cases made
  | cons first rest =>
      have text := text_grouped_chain made
      cases front with
      | nil =>
          cases back with
          | nil => rw [List.append_nil, List.nil_append, List.nil_append, made, chain]
          | cons next others =>
              rw [List.nil_append, List.nil_append, List.cons_append,
                chain_of_ne_nil _ (List.cons_ne_nil _ _), chain_of_ne_nil _ (by simp), text,
                following_append, List.append_assoc]
      | cons opening others =>
          rw [List.cons_append, List.cons_append, chain_of_ne_nil _ (by simp),
            chain_of_ne_nil _ (by simp)]
          simp only [following_append, following_cons, List.cons_append, text,
            List.append_assoc]

/-- The outline of a group, or the first error of its members. -/
def joined (connective : Connective) (outcomes : List (Outcome Outline)) : Outcome Outline :=
  (Outcome.collect outcomes).bind (chain connective)

@[simp]
theorem joined_singleton (outcome : Outcome Outline) : joined connective [outcome] = outcome := by
  cases outcome <;> rfl

/--
A member that is joined with the same connective, and is not empty, can be
replaced by its own members.
-/
theorem joined_splice {front inner back : List (Outcome Outline)} (present : inner ≠ []) :
    joined connective (front ++ joined connective inner :: back) =
      joined connective (front ++ (inner ++ back)) := by
  simp only [joined, Outcome.collect_append, Outcome.collect_cons]
  cases Outcome.collect front with
  | error cause => rfl
  | ok before =>
      cases collected : Outcome.collect inner with
      | error cause => rfl
      | ok links =>
          obtain ⟨first, rest, rfl⟩ :=
            List.exists_cons_of_ne_nil (Outcome.collect_ne_nil collected present)
          obtain ⟨outline, made⟩ : ∃ outline, chain connective (first :: rest) = .ok outline := by
            cases rest <;> exact ⟨_, rfl⟩
          cases Outcome.collect back with
          | error cause => simp only [Except.bind, Except.map, made]
          | ok behind =>
              simp only [Except.bind, Except.map, made]
              exact chain_splice made

end Outline

namespace Expr

theorem outline_grouped (connective : Connective) (expr : Expr) :
    (expr.grouped connective).outline = expr.outline.grouped connective := by
  have top : expr.outline.top = expr.topOperator? := rfl
  rw [grouped, Outline.grouped, top]
  cases expr.topOperator? with
  | none => rfl
  | some operator =>
      cases operator with
      | logical inner => exact apply_ite outline _ _ _
      | _ => rfl

/-- A chain that goes on is known from the text it has so far and from the outlines that follow. -/
theorem outline_foldl_link (connective : Connective) (front next : Expr) (rest : List Expr) :
    ((next :: rest).foldl (link connective) front).outline =
      ⟨front.text ++ Outline.following connective ((next :: rest).map outline),
        some (.logical connective)⟩ := by
  have linked (left right : Expr) : (link connective left right).text =
      left.text ++ Outline.following connective [right.outline] := by
    rw [Outline.following_cons, ← outline_grouped]
    show left.text ++ ' ' :: connective.sql.toList ++ ' ' :: (right.grouped connective).text =
      left.text ++
        (' ' :: connective.sql.toList ++ ' ' :: (right.grouped connective).text ++ [])
    rw [List.append_nil, List.append_assoc]
  induction rest generalizing front next with
  | nil => exact congrArg (Outline.mk · _) (linked front next)
  | cons later others ih =>
      rw [List.foldl_cons, ih, linked, List.append_assoc, ← Outline.following_append]
      rfl

theorem outline_chain (connective : Connective) (first : Expr) (rest : List Expr) :
    .ok (first.chain connective rest).outline =
      Outline.chain connective (first.outline :: rest.map outline) := by
  cases rest with
  | nil => rfl
  | cons next others =>
      rw [chain, outline_foldl_link]
      · rw [List.map_cons, Outline.chain_of_ne_nil _ (List.cons_ne_nil _ _), ← outline_grouped]
        rfl
      · exact List.cons_ne_nil _ _

end Expr

/-- Joining is known from the outlines of what is joined. -/
theorem outline_joined (connective : Connective) (outcomes : List (Outcome Expr)) :
    (joined connective outcomes).map Expr.outline =
      Outline.joined connective (outcomes.map (Except.map Expr.outline)) := by
  rw [joined, Outline.joined, Outcome.collect_map_map]
  cases Outcome.collect outcomes with
  | error cause => rfl
  | ok exprs =>
      cases exprs with
      | nil => rfl
      | cons first rest => exact Expr.outline_chain connective first rest

end SqlBuilder

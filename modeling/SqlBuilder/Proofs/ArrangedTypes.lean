import SqlBuilder.Proofs.ReaderSteps

/-!
# Readers of types

The readers that bring a type into canonical form call each other, each with one
call less to go.  `ArrangingAt` says of all of them at once that they arrange what
they take, and each does so if the readers that it calls do.  This module has the
readers of types, paths and bounds, and of lists between angle brackets.
-/

namespace SqlBuilder

namespace Arrange

open Lexeme Reader

/-- Every reader arranges what it takes, up to a depth of calls. -/
structure ArrangingAt (depth : Nat) : Prop where
  attribution : ArrangingOrNothing (attribution depth)
  attributions : ArrangingOrNothing (attributions depth)
  typeExpr (plus : Bool) : Arranging (typeExpr depth plus)
  simpleType (plus : Bool) : Arranging (simpleType depth plus)
  quantifier : Arranging (quantifier depth)
  boundList (plus : Bool) : Arranging (boundList depth plus)
  bound : Arranging (bound depth)
  traitBound : ArrangingIfFound (traitBound depth)
  statedBounds : Arranging (statedBounds depth)
  typeList : Arranging (typeList depth)
  functionTypes (isFirst : Bool) : Arranging (functionTypes depth isFirst)
  output (plus : Bool) : Arranging (output depth plus)
  qualifier : Arranging (qualifier depth)
  path : Arranging (path depth)
  segments : Arranging (segments depth)
  genericSegment : Arranging (genericSegment depth)
  functionTrait : Arranging (functionTrait depth)
  arguments : Arranging (arguments depth)
  argumentList : Takes listed (argumentList depth)
  argument : Arranging (argument depth)
  parameters : Takes listed (parameters depth)
  parameter : Arranging (parameter depth)
  generics : Arranging (generics depth)
  conditions : Arranging (conditions depth)
  conditionList : Arranging (conditionList depth)
  block : Arranging (block depth)
  alternatives : Arranging (alternatives depth)
  patternList : Arranging (patternList depth)
  pattern : Arranging (pattern depth)
  bindings (ofFunction : Bool) : Arranging (bindings depth ofFunction)
  binding (ofFunction : Bool) : Arranging (binding depth ofFunction)
  fields : Arranging (fields depth)
  variants : Arranging (variants depth)
  members (scope : Scope) : Arranging (members depth scope)
  item (scope : Scope) : Arranging (item depth scope)
  bareItem (scope : Scope) (modifiers : Modifiers) :
    ArrangingIfFound (bareItem depth scope modifiers)
  functionBody : Arranging (functionBody depth)
  function (scope : Scope) (modifiers : Modifiers) :
    ArrangingIfFound (function depth scope modifiers)
  assigned : Arranging (assigned depth)
  constant (scope : Scope) (modifiers : Modifiers) :
    ArrangingIfFound (constant depth scope modifiers)
  staticItem (scope : Scope) : ArrangingIfFound (staticItem depth scope)
  typeAlias (scope : Scope) (modifiers : Modifiers) :
    ArrangingIfFound (typeAlias depth scope modifiers)
  structureItem : Arranging (structureItem depth)
  traitItem : Arranging (traitItem depth)
  subject : Takes (fun found => itself found.1) (subject depth)
  implementation (modifiers : Modifiers) : ArrangingIfFound (implementation depth modifiers)
  closureHead : Arranging (closureHead depth)
  otherwise : Arranging (otherwise depth)
  arms (position : Position) : Arranging (arms depth position)
  attributed (position : Position) : Arranging (attributed depth position)
  code (position : Position) : Arranging (code depth position)
  codeMark (position : Position) (c : Char) (joined : Bool) (next : List Lexeme) :
    Continues itself [] (codeMark depth position c joined next) (.mark c joined :: next)
  codeWord (position : Position) (name : String) (next : List Lexeme) :
    Continues itself [] (codeWord depth position name next) (.word name :: next)

variable {depth : Nat}

theorem eq_of_atColon {input : List Lexeme} (next : atColon input = true) :
    ∃ joined rest, input = .mark ':' joined :: rest := by
  unfold atColon at next
  split at next
  · cases next
  · exact ⟨_, _, rfl⟩
  · cases next

/-- Colons in front of the types of a function are left out. -/
theorem arranges_colons {colons : List Lexeme}
    (each : ∀ lexeme ∈ colons, atSymbol ':' [lexeme] = true) :
    Arranges colons [] := by
  induction colons with
  | nil => exact .refl _
  | cons colon rest ih =>
      obtain ⟨first, others⟩ := List.forall_mem_cons.mp each
      obtain ⟨joined, rfl⟩ : ∃ joined, colon = .mark ':' joined := by
        unfold atSymbol at first
        split at first
        · rename_i same
          simp_all
        · cases first
      exact .append (.colon joined) (ih others)

/-- The comma behind a member of a list between angle brackets is a plain one. -/
theorem arranges_member (isLifetime : Bool) (found : List Lexeme) (joined : Bool)
    (members : AngleList) :
    Arranges (found ++ [.mark ',' joined] ++ members.inOrder)
      (AngleList.inOrder (⟨isLifetime, found, true⟩ :: members)) :=
  .append (.append (.refl found) (.gap ',' joined false)) (.refl members.inOrder)

theorem arranges_last (isLifetime : Bool) (found : List Lexeme) :
    Arranges found (AngleList.inOrder [⟨isLifetime, found, false⟩]) := by
  simp [AngleList.inOrder, AngleMember.written]

theorem arranging_attribution (ih : ArrangingAt depth) :
    ArrangingOrNothing (attribution (depth + 1)) := by
  intro input
  rw [attribution]
  refine .symbol fun joined _ => .copy (copies_symbol? '!') fun mark _ _ =>
    .opening fun bracket _ => .copy (copies_takeWhile _) fun name _ _ => .get ?_
  have nothing (inner : List Lexeme) (bracket' : Bracket) :
      Arranges ([.mark '#' joined] ++ mark ++ [.opening bracket] ++ name ++ inner ++
        [.closing bracket']) [] := by
    simpa using Arranges.attribution joined (mark ++ .opening bracket :: (name ++ inner)) bracket'
  split
  · rename_i joined' _
    refine .take <| .step (ih.code _) fun value _ => .closing fun bracket' _ =>
      .eitherWay (.refl _) ?_
    simpa using nothing (.mark '=' joined' :: value) bracket'
  · exact .copy copies_content fun inner _ _ => .closing fun bracket' _ =>
      .eitherWay (.refl _) (nothing inner bracket')

theorem arranging_attributions (ih : ArrangingAt depth) :
    ArrangingOrNothing (attributions (depth + 1)) := by
  intro input
  rw [attributions]
  refine .get ?_
  split
  · exact .stepOrNothing ih.attribution fun _ _ _ one none =>
      .stepOrNothing ih.attributions fun _ _ _ more none' =>
        .eitherWay (one.append more) (none.append none')
  · exact .eitherWay (.refl _) (.refl _)

theorem arranging_typeExpr (ih : ArrangingAt depth) (plus : Bool) :
    Arranging (typeExpr (depth + 1) plus) := by
  intro input
  rw [typeExpr]
  refine .step (ih.simpleType plus) fun _ _ => .get ?_
  split
  · split
    · refine .take ?_
      split
      · exact .step (ih.boundList true) fun _ _ => .done
      · exact .arranged (by simp)
    · exact .done
  · exact .done

theorem arranging_simpleType (ih : ArrangingAt depth) (plus : Bool) :
    Arranging (simpleType (depth + 1) plus) := by
  intro input
  rw [simpleType]
  refine .get ?_
  split
  · exact .take <| .step ih.typeList fun _ _ => .closing fun _ _ => .done
  · refine .take <| .step (ih.typeExpr true) fun _ _ => .get ?_
    split
    · exact .take <| .step (ih.code _) fun _ _ => .closing fun _ _ => .done
    · exact .closing fun _ _ => .done
  · exact (copies_take 1).arranging _
  · exact (copies_take 1).arranging _
  · exact ih.bound _
  · exact .take <| .step (ih.simpleType _) fun _ _ => .done
  · exact .take <| .step (ih.simpleType _) fun _ _ => .done
  · exact .take <| .step (ih.simpleType _) fun _ _ => .done
  · exact .take <| .step (ih.simpleType _) fun _ _ => .done
  · exact .take <| .step (ih.simpleType _) fun _ _ => .done
  · exact .step ih.qualifier fun _ _ => .step ih.segments fun _ _ => .done
  · exact Takes.asWritten (fun _ => .take <| .last (ih.boundList plus)) _
  · exact .take <| .step (ih.boundList _) fun _ _ => .done
  · exact .take <| .step (ih.boundList _) fun _ _ => .done
  · exact .take <| .step (ih.simpleType _) fun _ _ => .done
  · exact .take <| .step (ih.simpleType _) fun _ _ => .done
  · exact .take <| .step (ih.simpleType _) fun _ _ => .done
  · exact .take <| .opening fun _ _ => .step (ih.functionTypes _) fun _ _ => .closing fun _ _ =>
      .step (ih.output _) fun _ _ => .done
  · exact .step ih.quantifier fun _ _ => .step (ih.simpleType _) fun _ _ => .done
  · exact ih.path _

theorem arranging_quantifier (ih : ArrangingAt depth) : Arranging (quantifier (depth + 1)) := by
  intro input
  rw [quantifier]
  exact .take <| .symbol fun _ _ => .stepList ih.parameters fun _ _ => .symbol fun _ _ => .done

theorem arranging_boundList (ih : ArrangingAt depth) (plus : Bool) :
    Arranging (boundList (depth + 1) plus) := by
  intro input
  rw [boundList]
  refine .step ih.bound fun _ _ => .get ?_
  split
  · split
    · refine .take ?_
      split
      · exact .step (ih.boundList true) fun _ _ => .done
      · exact .arranged (by simp)
    · exact .done
  · exact .done

theorem arranging_bound (ih : ArrangingAt depth) : Arranging (bound (depth + 1)) := by
  intro input
  rw [bound]
  refine .get ?_
  split
  · exact (copies_take 1).arranging _
  · exact .take <| .step ih.arguments fun _ _ => .done
  · exact ih.traitBound.arrangedOrWritten _

theorem arranging_traitBound (ih : ArrangingAt depth) :
    ArrangingIfFound (traitBound (depth + 1)) := by
  intro input
  rw [traitBound]
  refine .get ?_
  split
  · exact .take <| .stepIfFound ih.traitBound
      (fun _ _ => .closing fun _ _ => .found (.refl _)) fun _ _ => .closing fun _ _ => .notFound
  · exact .take <| .stepIfFound ih.traitBound (fun _ _ => .notFound) fun _ _ => .notFound
  · exact .take <| .stepIfFound ih.traitBound (fun _ _ => .notFound) fun _ _ => .notFound
  · exact .take <| .stepIfFound ih.traitBound (fun _ _ => .notFound) fun _ _ => .notFound
  · exact .take <| .stepIfFound ih.traitBound (fun _ _ => .found (.refl _)) fun _ _ => .notFound
  · refine .step ih.quantifier fun stated _ => .get ?_
    split
    · rename_i joined _
      exact .take <| .stepIfFound ih.traitBound
        (fun _ _ => .found (.append (.relaxation stated joined) (.refl _))) fun _ _ => .notFound
    · exact .stepIfFound ih.traitBound (fun _ _ => .found (.refl _)) fun _ _ => .notFound
  · exact .step ih.path fun _ _ => .found (.refl _)

theorem arranging_statedBounds (ih : ArrangingAt depth) :
    Arranging (statedBounds (depth + 1)) := by
  intro input
  rw [statedBounds]
  refine .get ?_
  split
  · rename_i next
    obtain ⟨joined, rest, rfl⟩ := eq_of_atColon next
    refine .take <| .get ?_
    split
    · exact .step (ih.boundList true) fun _ _ => .done
    · exact .arranged (.colon joined)
  · exact .done

theorem arranging_typeList (ih : ArrangingAt depth) : Arranging (typeList (depth + 1)) := by
  intro input
  rw [typeList]
  refine .get ?_
  split
  · exact .done
  · exact .take <| .step ih.typeList fun _ _ => .done
  · exact .step (ih.typeExpr true) fun _ _ => .step ih.typeList fun _ _ => .done

theorem arranging_functionTypes (ih : ArrangingAt depth) (isFirst : Bool) :
    Arranging (functionTypes (depth + 1) isFirst) := by
  intro input
  rw [functionTypes]
  refine .get ?_
  split
  · exact .done
  · exact .step ih.attribution.arranging fun _ _ => .step (ih.functionTypes _) fun _ _ => .done
  · exact .take <| .step (ih.functionTypes _) fun _ _ => .done
  · exact .take <| .step (ih.functionTypes _) fun _ _ => .done
  · refine .guarded fun _ => ?_
    split
    · exact .step (Takes.asWritten fun _ => .take <| .last (ih.typeExpr true)) fun _ _ =>
        .step (ih.functionTypes _) fun _ _ => .done
    · exact .take <| .step (ih.functionTypes _) fun _ _ => .done
  · split
    · exact .take <| .step (ih.functionTypes _) fun _ _ => .done
    · exact .step (ih.typeExpr true) fun _ _ => .step (ih.functionTypes _) fun _ _ => .done
  · exact .step (ih.typeExpr true) fun _ _ => .step (ih.functionTypes _) fun _ _ => .done

theorem arranging_output (ih : ArrangingAt depth) (plus : Bool) :
    Arranging (output (depth + 1) plus) := by
  intro input
  rw [output]
  refine .get ?_
  split
  · exact .take <| .step (ih.typeExpr plus) fun _ _ => .done
  · exact .done

theorem arranging_qualifier (ih : ArrangingAt depth) : Arranging (qualifier (depth + 1)) := by
  intro input
  rw [qualifier]
  refine .symbol fun _ _ => .step (ih.typeExpr true) fun _ _ => .get ?_
  split
  · exact .take <| .step ih.path fun _ _ => .symbol fun _ _ => .done
  · exact .symbol fun _ _ => .done

theorem arranging_path (ih : ArrangingAt depth) : Arranging (path (depth + 1)) := by
  intro input
  rw [path]
  refine .get ?_
  split
  · exact .take <| .step ih.path fun _ _ => .done
  · exact .take <| .step ih.segments fun _ _ => .done
  · exact .failure

theorem arranging_segments (ih : ArrangingAt depth) : Arranging (segments (depth + 1)) := by
  intro input
  rw [segments]
  refine .get ?_
  split
  · exact ih.functionTrait _
  · split
    · exact .done
    · exact ih.genericSegment _
    · exact ih.genericSegment _
    · exact .take <| .step ih.path fun _ _ => .done
    · exact .take <| .step copies_group.arranging fun _ _ => .done
    · exact .done

theorem arranging_genericSegment (ih : ArrangingAt depth) :
    Arranging (genericSegment (depth + 1)) := by
  intro input
  rw [genericSegment]
  refine .copy (copies_takeWhile _) fun colons _ each => .symbol fun joined _ =>
    .stepList ih.argumentList fun members _ => .symbol fun joined' _ => .get ?_
  split
  · rename_i empty
    obtain ⟨none, -⟩ := Bool.and_eq_true_iff.mp empty
    obtain rfl := List.isEmpty_iff.mp none
    have nothing : Arranges (colons ++ [.mark '<' joined, .mark '>' joined']) [] :=
      .append (arranges_colons each) (.angles joined joined')
    exact .weaken (by simpa using nothing) (ih.functionTrait _)
  · refine .step ih.segments fun further _ => .arranged ?_
    have sorted := Arranges.append (.append (.refl colons) (.lifetimes joined joined' members))
      (.refl further)
    simpa using sorted

theorem arranging_functionTrait (ih : ArrangingAt depth) :
    Arranging (functionTrait (depth + 1)) := by
  intro input
  rw [functionTrait]
  refine .copy (copies_takeWhile _) fun colons _ each => .weaken (arranges_colons each) ?_
  exact .opening fun _ _ => .step ih.typeList fun _ _ => .closing fun _ _ =>
    .step (ih.output _) fun _ _ => .step ih.segments fun _ _ => .done

theorem arranging_arguments (ih : ArrangingAt depth) : Arranging (arguments (depth + 1)) := by
  intro input
  rw [arguments]
  exact .symbol fun joined _ => .stepList ih.argumentList fun members _ => .symbol fun joined' _ =>
    .arranged (.lifetimes joined joined' members)

theorem takes_argumentList (ih : ArrangingAt depth) : Takes listed (argumentList (depth + 1)) := by
  intro input
  rw [argumentList]
  refine .get ?_
  split
  · exact .members (.refl _)
  · rename_i name joined _
    exact .take <| .stepList ih.argumentList fun members _ =>
      .members (arranges_member true [.lifetime name] joined members)
  · exact .take <| .members (arranges_last _ _)
  · refine .step ih.argument fun found _ => .get ?_
    split
    · rename_i joined _
      exact .take <| .stepList ih.argumentList fun members _ =>
        .members (arranges_member false found joined members)
    · exact .members (arranges_last false found)

theorem arranging_argument (ih : ArrangingAt depth) : Arranging (argument (depth + 1)) := by
  intro input
  rw [argument]
  refine .get ?_
  split
  · exact (copies_take 1).arranging _
  · exact (copies_take 2).arranging _
  · exact ih.block _
  · refine .step (ih.typeExpr true) fun _ _ => .get ?_
    split
    · exact .take <| .step ih.argument fun _ _ => .done
    · split
      · refine .take <| .get ?_
        split
        · exact .step (ih.boundList true) fun _ _ => .done
        · exact .arranged (by simp)
      · exact .done

theorem takes_parameters (ih : ArrangingAt depth) : Takes listed (parameters (depth + 1)) := by
  intro input
  rw [parameters]
  refine .get ?_
  split
  · exact .members (.refl _)
  · refine .step ih.attributions.arranging fun front _ => .get <| .step ih.parameter fun found _ =>
      .get ?_
    split
    · rename_i joined _
      exact .take <| .stepList ih.parameters fun members _ =>
        .members (arranges_member _ (front ++ found) joined members)
    · exact .members (arranges_last _ (front ++ found))

theorem arranging_parameter (ih : ArrangingAt depth) : Arranging (parameter (depth + 1)) := by
  intro input
  rw [parameter]
  refine .get ?_
  extract_lets behind
  have further (value rest : List Lexeme) : Continues itself value (behind value) rest := by
    refine .get ?_
    split
    · exact .take <| .step ih.argument fun _ _ => .done
    · exact .done
  split
  · exact .take <| .step (ih.typeExpr true) fun _ _ => .pureBind (further _ _)
  · exact .take <| .step ih.statedBounds fun _ _ => .pureBind (further _ _)

theorem arranging_generics (ih : ArrangingAt depth) : Arranging (generics (depth + 1)) := by
  intro input
  rw [generics]
  refine .get ?_
  split
  · rename_i joined _
    refine .take <| .stepList ih.parameters fun members _ => .symbol fun joined' _ => .arranged ?_
    split
    · rename_i empty
      obtain rfl := List.isEmpty_iff.mp empty
      exact .angles joined joined'
    · exact .lifetimes joined joined' members
  · exact .done

theorem arranging_conditions (ih : ArrangingAt depth) : Arranging (conditions (depth + 1)) := by
  intro input
  rw [conditions]
  refine .get ?_
  split
  · refine .take <| .step ih.conditionList fun found _ => .arranged ?_
    split
    · rename_i empty
      obtain rfl := List.isEmpty_iff.mp empty
      exact .condition
    · exact .refl _
  · exact .done

theorem arranging_conditionList (ih : ArrangingAt depth) :
    Arranging (conditionList (depth + 1)) := by
  intro input
  rw [conditionList]
  refine .get ?_
  split
  · exact .done
  · exact .done
  · exact .done
  · exact .done
  · exact .done
  · refine .step (ih.typeExpr true) fun type _ => .symbol fun joined _ => .get ?_
    extract_lets behind
    have further (bounds rest : List Lexeme) :
        Continues itself (type ++ [.mark ':' joined] ++ bounds) (behind bounds) rest := by
      refine .get ?_
      split
      · exact .take <| .step ih.conditionList fun _ _ => .done
      · exact .done
    split
    · exact .step (ih.boundList true) fun _ _ => further _ _
    · exact .pureBind (by simpa using further [] _)

end Arrange

end SqlBuilder

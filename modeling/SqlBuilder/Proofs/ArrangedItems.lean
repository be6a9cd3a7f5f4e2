import SqlBuilder.Proofs.ArrangedTypes

/-!
# Readers of items

The readers of patterns, bindings, fields and items arrange what they take if the
readers that they call do.
-/

namespace SqlBuilder

namespace Arrange

open Lexeme Reader

variable {depth : Nat}

/-! ## Words in front of items -/

theorem arranging_visibility : ArrangingOrNothing visibility := by
  intro input
  rw [visibility]
  refine .get ?_
  split
  · refine .take <| .copy copies_group ?_
    rintro _ _ ⟨bracket, inner, bracket', rfl⟩
    exact .eitherWay (.refl _) (.restriction bracket inner bracket')
  · rename_i name _ _
    split
    · refine .takeLast ?_
      simpa [orNothing] using Arranges.restriction .round [.word name] .round
    · refine .takeLast ?_
      simpa [orNothing] using Arranges.visibility
  · refine .takeLast ?_
    simpa [orNothing] using Arranges.visibility
  · exact .eitherWay (.refl _) (.refl _)

theorem takes_modifiers : Takes (fun found => itself found.lexemes) modifiers := by
  intro input
  rw [modifiers]
  refine .step arranging_visibility.arranging fun seen _ => .get ?_
  split
  · exact .pure (by simp [itself, Modifiers.lexemes])
  · refine .copy (copies_word? _) fun replaced _ _ => .pure ?_
    simp [itself, Modifiers.lexemes]

/-- Modifiers are read as they are written, and what follows them. -/
theorem stepModifiers {α : Type} {forms : α → List (List Lexeme)} {front input : List Lexeme}
    {next : Modifiers → Reader α}
    (further : ∀ found rest, Continues forms (front ++ found.lexemes) (next found) rest) :
    Continues forms front (modifiers >>= next) input :=
  .bind (takes_modifiers input) fun found _ rest _ each =>
    .weaken (.append (.refl front) (each found.lexemes (by simp [itself]))) (further found rest)

theorem arranging_qualifiers : ∀ depth, Arranging (qualifiers depth)
  | 0 => fun _ => .failure
  | depth + 1 => by
      intro input
      rw [qualifiers]
      refine .get ?_
      split
      · exact .take <| .step (arranging_qualifiers depth) fun _ _ => .done
      · split
        · exact .take <| .step (arranging_qualifiers depth) fun _ _ => .done
        · exact .done
      · exact .done

theorem arranging_plainItem : Arranging plainItem := by
  intro input
  rw [plainItem]
  exact .copy (copies_takeWhile _) fun _ _ _ => .symbol fun _ _ => .done

theorem arranging_macroDefinition : Arranging macroDefinition := by
  intro input
  rw [macroDefinition]
  refine .take <| .get ?_
  split
  · exact .step copies_group.arranging fun _ _ => .done
  · exact .step copies_group.arranging fun _ _ => .step copies_group.arranging fun _ _ => .done

theorem arranging_macroItem : Arranging macroItem := by
  intro input
  rw [macroItem]
  refine .copy (copies_takeWhile _) fun _ _ _ => .symbol fun _ _ => .get ?_
  split
  · exact .take <| .step copies_group.arranging fun _ _ =>
      .copy (copies_symbol? _) fun _ _ _ => .done
  · exact .step copies_group.arranging fun _ _ => .copy (copies_symbol? _) fun _ _ _ => .done

theorem arranging_dots : Arranging dots := by
  intro input
  rw [dots]
  refine .get ?_
  split
  · rename_i joined _
    exact .take <| .arranged (.range joined)
  · exact (copies_take 3).arranging _
  · exact (copies_take 2).arranging _
  · exact (copies_take 1).arranging _

/-! ## Patterns and bindings -/

theorem arranging_block (ih : ArrangingAt depth) : Arranging (block (depth + 1)) := by
  intro input
  rw [block]
  exact .get <| .guarded fun _ => .take <| .step (ih.code _) fun _ _ => .closing fun _ _ => .done

theorem arranging_alternatives (ih : ArrangingAt depth) :
    Arranging (alternatives (depth + 1)) := by
  intro input
  rw [alternatives]
  refine .copy (copies_symbol? _) fun _ _ _ => .step ih.pattern fun _ _ => .guarded fun _ => .get ?_
  split
  · exact .step ih.alternatives fun _ _ => .done
  · exact .done

theorem arranging_patternList (ih : ArrangingAt depth) :
    Arranging (patternList (depth + 1)) := by
  intro input
  rw [patternList]
  refine .get ?_
  split
  · exact .done
  · exact .step ih.attribution.arranging fun _ _ => .step ih.patternList fun _ _ => .done
  · exact .take <| .step ih.patternList fun _ _ => .done
  · rename_i source joined _
    refine .take <| .take <| .step ih.patternList fun found _ => .arranged ?_
    exact .append (.append (.position source) (.refl [.mark ':' joined])) (.refl found)
  · split
    · exact .take <| .step ih.patternList fun _ _ => .done
    · exact .step ih.alternatives fun _ _ => .step ih.patternList fun _ _ => .done
  · exact .step ih.alternatives fun _ _ => .step ih.patternList fun _ _ => .done

theorem arranging_pattern (ih : ArrangingAt depth) : Arranging (pattern (depth + 1)) := by
  intro input
  rw [pattern]
  refine .get ?_
  split
  · exact .take <| .step ih.patternList fun _ _ => .closing fun _ _ =>
      .step ih.pattern fun _ _ => .done
  · exact .take <| .step ih.pattern fun _ _ => .done
  · exact .take <| .step ih.pattern fun _ _ => .done
  · exact .done
  · exact .done
  · exact Takes.asWritten (fun _ => .take <| .last ih.pattern) _
  · exact .take <| .step copies_group.arranging fun _ _ => .step ih.pattern fun _ _ => .done
  · exact .take <| .step copies_group.arranging fun _ _ => .step ih.pattern fun _ _ => .done
  · exact .take <| .step ih.pattern fun _ _ => .done
  · exact .step ih.qualifier fun _ _ => .step ih.pattern fun _ _ => .done
  · exact .take <| .step ih.arguments fun _ _ => .step ih.pattern fun _ _ => .done
  · exact .take <| .step ih.pattern fun _ _ => .done
  · refine .step arranging_dots fun _ _ => .get ?_
    split
    · exact .take <| .step ih.block fun _ _ => .done
    · exact .step ih.pattern fun _ _ => .done
  · split
    · exact .take <| .step ih.pattern fun _ _ => .done
    · exact .done
  · exact .done

theorem arranging_bindings (ih : ArrangingAt depth) (ofFunction : Bool) :
    Arranging (bindings (depth + 1) ofFunction) := by
  intro input
  rw [bindings]
  refine .get ?_
  split
  · exact .done
  · exact .done
  · exact .take <| .step (ih.bindings _) fun _ _ => .done
  · exact .step (ih.binding _) fun _ _ => .step (ih.bindings _) fun _ _ => .done

theorem arranging_binding (ih : ArrangingAt depth) (ofFunction : Bool) :
    Arranging (binding (depth + 1) ofFunction) := by
  intro input
  rw [binding]
  refine .stepOrNothing ih.attributions fun attributes taken _ arranges nothing => .get ?_
  have kept (found : List Lexeme) : Arranges (taken ++ found) (attributes ++ found) :=
    arranges.append (.refl found)
  split
  · refine .take <| .arranged (kept _)
  · refine .guarded fun _ => .step (ih.typeExpr true) fun type _ => .arranged ?_
    have named := (kept []).append (.append .unnamed (.refl type))
    simpa using named
  · refine .step ih.pattern fun found _ => .guarded fun _ => .get ?_
    split
    · exact .take <| .arranged (by simpa using kept _)
    · exact .take <| .step (ih.typeExpr true) fun _ _ => .arranged (by simpa using kept _)
    · split
      · exact .arranged (by simpa using nothing.append (.refl found))
      · exact .arranged (kept _)

/-! ## Fields, variants and members -/

theorem arranging_fields (ih : ArrangingAt depth) : Arranging (fields (depth + 1)) := by
  intro input
  rw [fields]
  refine .get ?_
  split
  · exact .done
  · exact .step ih.attribution.arranging fun _ _ => .step ih.fields fun _ _ => .done
  · exact .take <| .step ih.fields fun _ _ => .done
  · exact .step arranging_visibility.arranging fun _ _ => .step ih.fields fun _ _ => .done
  · exact .take <| .step copies_group.arranging fun _ _ => .step ih.fields fun _ _ => .done
  · exact .take <| .step copies_group.arranging fun _ _ => .step ih.fields fun _ _ => .done
  · split
    · exact .take <| .step (ih.typeExpr true) fun _ _ => .step ih.fields fun _ _ => .done
    · exact .step (ih.typeExpr true) fun _ _ => .step ih.fields fun _ _ => .done
  · exact .step (ih.typeExpr true) fun _ _ => .step ih.fields fun _ _ => .done

theorem arranging_variants (ih : ArrangingAt depth) : Arranging (variants (depth + 1)) := by
  intro input
  rw [variants]
  refine .get ?_
  split
  · exact .done
  · exact .step ih.attribution.arranging fun _ _ => .step ih.variants fun _ _ => .done
  · exact .take <| .step ih.variants fun _ _ => .done
  · exact .take <| .step (ih.code _) fun _ _ => .step ih.variants fun _ _ => .done
  · exact .stepOrNothing arranging_visibility fun _ _ _ _ nothing =>
      .weaken nothing (ih.variants _)
  · exact .take <| .step ih.fields fun _ _ => .closing fun _ _ =>
      .step ih.variants fun _ _ => .done
  · exact .take <| .step ih.variants fun _ _ => .done
  · exact .failure

theorem arranging_members (ih : ArrangingAt depth) (scope : Scope) :
    Arranging (members (depth + 1) scope) := by
  intro input
  rw [members]
  refine .get ?_
  split
  · exact .done
  · exact .step ih.attribution.arranging fun _ _ => .step (ih.members _) fun _ _ => .done
  · exact .step (ih.item _) fun _ _ => .step (ih.members _) fun _ _ => .done

/-! ## Items -/

theorem arranging_item (ih : ArrangingAt depth) (scope : Scope) :
    Arranging (item (depth + 1) scope) := by
  intro input
  rw [item]
  refine ArrangingIfFound.arrangedOrWritten (fun _ => ?_) input
  exact .step ih.attributions.arranging fun _ _ => stepModifiers fun _ _ =>
    .stepIfFound (ih.bareItem _ _) (fun _ _ => .found (.refl _)) fun _ _ => .notFound

theorem arranging_bareItem (ih : ArrangingAt depth) (scope : Scope) (modifiers : Modifiers) :
    ArrangingIfFound (bareItem (depth + 1) scope modifiers) := by
  intro input
  rw [bareItem]
  refine .get ?_
  split
  · exact ih.function _ _ _
  split
  · exact ih.staticItem _ _
  split
  · exact .step (arranging_qualifiers _) fun _ _ => .opening fun _ _ =>
      .step (ih.members _) fun _ _ => .closing fun _ _ => .found (.refl _)
  split
  · exact .take <| .stepIfFound (ih.bareItem _ _) (fun _ _ => .found (.refl _)) fun _ _ => .notFound
  · exact .take <| .stepIfFound (ih.bareItem _ _) (fun _ _ => .found (.refl _)) fun _ _ => .notFound
  · exact ih.constant _ _ _
  · exact ih.typeAlias _ _ _
  · exact .step arranging_plainItem fun _ _ => .found (.refl _)
  · exact .step arranging_plainItem fun _ _ => .found (.refl _)
  · exact .take <| .step (ih.members _) fun _ _ => .closing fun _ _ => .found (.refl _)
  · exact .step arranging_plainItem fun _ _ => .found (.refl _)
  · exact .step ih.structureItem fun _ _ => .found (.refl _)
  · exact .step ih.structureItem fun _ _ => .found (.refl _)
  · exact .take <| .step ih.generics fun _ _ => .step ih.conditions fun _ _ => .opening fun _ _ =>
      .step ih.variants fun _ _ => .closing fun _ _ => .found (.refl _)
  · exact .step ih.traitItem fun _ _ => .found (.refl _)
  · exact ih.implementation _ _
  · exact .step arranging_macroDefinition fun _ _ => .notFound
  · exact .step arranging_macroItem fun _ _ => .found (.refl _)

theorem arranging_functionBody (ih : ArrangingAt depth) :
    Arranging (functionBody (depth + 1)) := by
  intro input
  rw [functionBody]
  refine .get ?_
  split
  · exact ih.block _
  · exact (copies_symbol _).arranging _

theorem arranging_function (ih : ArrangingAt depth) (scope : Scope) (modifiers : Modifiers) :
    ArrangingIfFound (function (depth + 1) scope modifiers) := by
  intro input
  rw [function]
  refine .step (arranging_qualifiers _) fun front _ => .take <| .step ih.generics fun _ _ =>
    .opening fun _ _ => .step (ih.bindings _) fun _ _ => .closing fun _ _ =>
      .step (ih.output _) fun _ _ => .step ih.conditions fun _ _ => .get <|
        .step ih.functionBody fun _ _ => .foundIf fun _ => ?_
  simp

theorem arranging_assigned (ih : ArrangingAt depth) : Arranging (assigned (depth + 1)) := by
  intro input
  rw [assigned]
  refine .get ?_
  split
  · exact .take <| .step (ih.code _) fun _ _ => .done
  · exact .done

theorem arranging_constant (ih : ArrangingAt depth) (scope : Scope) (modifiers : Modifiers) :
    ArrangingIfFound (constant (depth + 1) scope modifiers) := by
  intro input
  rw [constant]
  refine .take <| .get <| .step ih.generics fun _ _ => .symbol fun _ _ =>
    .step (ih.typeExpr true) fun _ _ => .step ih.assigned fun _ _ => .get <|
      .step ih.conditions fun _ _ => .symbol fun _ _ => .foundIf fun _ => ?_
  simp

theorem arranging_staticItem (ih : ArrangingAt depth) (scope : Scope) :
    ArrangingIfFound (staticItem (depth + 1) scope) := by
  intro input
  rw [staticItem]
  refine .step (arranging_qualifiers _) fun safety next => .take <|
    .copy (copies_word? _) fun mutable next' _ => .take <| .get ?_
  extract_lets behind
  have further (type rest : List Lexeme) :
      Continues Option.toList (safety ++ next.take 1 ++ mutable ++ next'.take 1 ++ type)
        (behind type) rest := by
    refine .step ih.assigned fun _ _ => .symbol fun _ _ => .foundIf fun _ => ?_
    simp
  split
  · exact .take <| .step (ih.typeExpr true) fun _ _ => .pureBind (by simpa using further _ _)
  · exact .pureBind (by simpa using further [] _)

theorem arranging_typeAlias (ih : ArrangingAt depth) (scope : Scope) (modifiers : Modifiers) :
    ArrangingIfFound (typeAlias (depth + 1) scope modifiers) := by
  intro input
  rw [typeAlias]
  refine .take <| .step ih.generics fun parameters _ => .get <|
    .step ih.statedBounds fun bounds _ => .step ih.conditions fun conditions _ => .get ?_
  extract_lets isDefined isArranged behind
  have further (definition rest : List Lexeme) :
      Continues Option.toList (input.take 2 ++ parameters ++ bounds ++ conditions ++ definition)
        (behind definition) rest := by
    refine .step ih.conditions fun _ _ => .symbol fun _ _ => .foundIf fun _ => ?_
    simp
  split
  · exact .take <| .step (ih.typeExpr true) fun _ _ => .pureBind (by simpa using further _ _)
  · exact .pureBind (by simpa using further [] _)

theorem arranging_structureItem (ih : ArrangingAt depth) :
    Arranging (structureItem (depth + 1)) := by
  intro input
  rw [structureItem]
  refine .take <| .step ih.generics fun _ _ => .step ih.conditions fun _ _ => .get ?_
  split
  · exact .take <| .step ih.fields fun _ _ => .closing fun _ _ => .step ih.conditions fun _ _ =>
      .copy (copies_symbol? _) fun _ _ _ => .done
  · exact .symbol fun _ _ => .done

theorem arranging_traitItem (ih : ArrangingAt depth) : Arranging (traitItem (depth + 1)) := by
  intro input
  rw [traitItem]
  refine .take <| .step ih.generics fun parameters _ => .step ih.statedBounds fun bounds _ =>
    .get ?_
  split
  · rename_i joined _
    refine .take <| .get ?_
    extract_lets behind
    have further (others rest : List Lexeme) :
        Continues itself (input.take 2 ++ parameters ++ bounds ++ [.mark '=' joined] ++ others)
          (behind others) rest :=
      .step ih.conditions fun _ _ => .symbol fun _ _ => .done
    split
    · exact .step (ih.boundList true) fun _ _ => further _ _
    · exact .pureBind (by simpa using further [] _)
  · exact .step ih.conditions fun _ _ => .opening fun _ _ => .step (ih.members _) fun _ _ =>
      .closing fun _ _ => .done

theorem takes_subject (ih : ArrangingAt depth) :
    Takes (fun found => itself found.1) (subject (depth + 1)) := by
  intro input
  rw [subject]
  refine .get ?_
  extract_lets behindPolarity
  have afterPolarity {polarity taken rest : List Lexeme} (whole : input = taken ++ rest)
      (arranges : Arranges taken polarity) :
      Continues (fun found => itself found.1) taken (behindPolarity polarity) rest := by
    refine .get ?_
    extract_lets opensPath behindFirst
    have afterFirst {first taken' rest' : List Lexeme} (whole' : rest = taken' ++ rest')
        (arranges' : Arranges taken' first) :
        Continues (fun found => itself found.1) (taken ++ taken') (behindFirst first) rest' := by
      refine .get ?_
      extract_lets isPath behindFurther
      refine .get ?_
      have afterFurther (further taken'' rest'' : List Lexeme) (whole'' : rest' = taken'' ++ rest'')
          (arranges'' : Arranges taken'' further) :
          Continues (fun found => itself found.1) (taken ++ taken' ++ taken'')
            (behindFurther further) rest'' := by
        have all := (arranges.append arranges').append arranges''
        refine .get ?_
        split
        · refine .weaken all <| .take <| .step (ih.typeExpr true) fun _ _ => .pure ?_
          simp [itself]
        · split
          · rename_i empty
            obtain rfl := List.isEmpty_iff.mp empty
            exact .pure (by simpa [itself] using all)
          · refine .get <| .pure ?_
            have back : input.take (input.length - rest''.length) = taken ++ taken' ++ taken'' :=
              take_length_sub (by simp [whole, whole', whole''])
            simp [itself, back]
      split
      · refine .take <|
          .stepTaken (ih.boundList true) fun bounds taken'' rest'' whole'' arranges'' => .pureBind ?_
        have plus : rest' = rest'.take 1 ++ taken'' ++ rest'' := by
          rw [List.append_assoc, ← whole'', List.take_append_drop]
        simpa using afterFurther _ _ rest'' plus (.append (.refl _) arranges'')
      · exact .pureBind (by simpa using afterFurther [] [] rest' rfl (.refl []))
    split
    · exact .stepTaken ih.path fun _ _ _ => afterFirst
    · exact .stepTaken (ih.typeExpr true) fun _ _ _ => afterFirst
  split
  · exact .pureBind (afterPolarity rfl (.refl _))
  · exact .stepTaken (copies_symbol? '!').arranging fun _ _ _ => afterPolarity

theorem arranging_implementation (ih : ArrangingAt depth) (modifiers : Modifiers) :
    ArrangingIfFound (implementation (depth + 1) modifiers) := by
  intro input
  rw [implementation]
  refine .take <| .get ?_
  extract_lets behind
  have further (parameters rest : List Lexeme) :
      Continues Option.toList (input.take 1 ++ parameters) (behind parameters) rest := by
    refine .copy (copies_symbol? '?') fun relaxing _ _ =>
      .copy (copies_word? "const") fun constant _ _ =>
        .bind (ih.subject _) fun subject taken _ _ each => ?_
    obtain ⟨subject, isArranged⟩ := subject
    have arranges : Arranges taken subject := each subject (by simp [itself])
    refine .weaken (.append (.refl _) arranges) <| .step ih.conditions fun _ _ =>
      .opening fun _ _ => .step (ih.members _) fun _ _ => .closing fun _ _ =>
        .foundIf fun holds => ?_
    obtain ⟨-, plain, -⟩ := holds
    obtain ⟨rfl, rfl⟩ := List.append_eq_nil_iff.mp (List.isEmpty_iff.mp plain)
    simp
  split
  · exact .step ih.generics fun _ _ => further _ _
  · exact .pureBind (by simpa using further [] _)

end Arrange

end SqlBuilder

import SqlBuilder.Declaration.TypeText
import SqlBuilder.Proofs.ArrangedItems

/-!
# Readers of expressions

The readers of expressions and statements arrange what they take if the readers
that they call do.  With them every reader is accounted for, and an induction on
the depth of the calls puts all of them together.

The canonical form of a type is therefore an arrangement of its lexemes
(`Arrange.arranges_typeLexemes`), whatever the lexemes are: nothing that stays
what it is gets added to it, and nothing gets lost unless an attribute or a word
on visibility is written.
-/

namespace SqlBuilder

namespace Arrange

open Lexeme Reader

variable {depth : Nat}

theorem arranging_closureHead (ih : ArrangingAt depth) : Arranging (closureHead (depth + 1)) := by
  intro input
  rw [closureHead]
  exact .symbol fun _ _ => .step (ih.bindings _) fun _ _ => .symbol fun _ _ => .done

theorem arranging_otherwise (ih : ArrangingAt depth) : Arranging (otherwise (depth + 1)) := by
  intro input
  rw [otherwise]
  refine .get ?_
  split
  · exact .take <| .step (ih.code _) fun _ _ => .step ih.block fun _ _ =>
      .step ih.otherwise fun _ _ => .done
  · exact .take <| .step ih.block fun _ _ => .done
  · exact .done

theorem arranging_arms (ih : ArrangingAt depth) (position : Position) :
    Arranging (arms (depth + 1) position) := by
  intro input
  rw [arms]
  refine .get ?_
  split
  · exact .done
  · exact .step ih.attribution.arranging fun _ _ => .step (ih.arms _) fun _ _ => .done
  · exact .take <| .step (ih.arms _) fun _ _ => .done
  · exact .step ih.alternatives fun _ _ => .copy (copies_word? _) fun _ _ _ =>
      .step (ih.code _) fun _ _ => .done

theorem arranging_attributed (ih : ArrangingAt depth) (position : Position) :
    Arranging (attributed (depth + 1) position) := by
  intro input
  rw [attributed]
  refine .get ?_
  split
  · refine .stepOrNothing ih.attributions.asWritten fun _ _ _ arranges nothing => ?_
    split
    · exact .weaken nothing (ih.code _ _)
    · exact .weaken arranges <| .step (ih.code _) fun _ _ => .done
  · exact .step ih.attribution.arranging fun _ _ => .step (ih.code _) fun _ _ => .done

theorem arranging_code (ih : ArrangingAt depth) (position : Position) :
    Arranging (code (depth + 1) position) := by
  intro input
  rw [code]
  refine .get ?_
  split
  · exact ih.arms _ _
  split
  · exact .step (ih.item _) fun _ _ => .step (ih.code _) fun _ _ => .done
  split
  · exact .done
  · exact .done
  · split
    · exact .done
    · exact .take <| .step (ih.code _) fun _ _ => .closing fun _ _ =>
        .step (ih.code _) fun _ _ => .done
  · rename_i source _ _
    refine .take <| .step (ih.code _) fun found _ => .arranged ?_
    split
    · exact .append (.position source) (.refl found)
    · exact .refl _
  · exact .take <| .step (ih.code _) fun _ _ => .done
  · exact .take <| .step (ih.code _) fun _ _ => .done
  · exact ih.codeMark _ _ _ _
  · exact ih.codeWord _ _ _

theorem arranging_codeMark (ih : ArrangingAt depth) (position : Position) (c : Char)
    (joined : Bool) (next : List Lexeme) :
    Continues itself [] (codeMark (depth + 1) position c joined next) (.mark c joined :: next) := by
  unfold codeMark
  split
  · exact ih.attributed _ _
  · split
    · exact .done
    · exact .take <| .step (ih.code _) fun _ _ => .done
  · split
    · exact .done
    · exact .take <| .step (ih.code _) fun _ _ => .done
  · exact .take <| .step (ih.code _) fun _ _ => .done
  · exact .step (ih.output _) fun _ _ => .step (ih.code _) fun _ _ => .done
  · exact .take <| .step ih.arguments fun _ _ => .step (ih.code _) fun _ _ => .done
  · exact .take <| .step (ih.code _) fun _ _ => .done
  · rename_i source _
    refine .take <| .take <| .step (ih.code _) fun found _ => .arranged ?_
    exact .append (.append (.refl [.mark '.' false]) (.position source)) (.refl found)
  · refine .step arranging_dots fun _ _ => .get ?_
    split
    · exact .done
    · exact .step (ih.code _) fun _ _ => .done
  · exact .take <| .step (ih.code _) fun _ _ => .done
  · split
    · exact .take <| .step (ih.code _) fun _ _ => .done
    · exact .step ih.qualifier fun _ _ => .step (ih.code _) fun _ _ => .done
  · split
    · exact .take <| .step (ih.code _) fun _ _ => .done
    · exact .step ih.qualifier fun _ _ => .step (ih.code _) fun _ _ => .done
  · exact .take <| .step (ih.code _) fun _ _ => .done
  · split
    · exact .take <| .step (ih.code _) fun _ _ => .done
    · exact .step ih.closureHead fun _ _ => .step (ih.code _) fun _ _ => .done
  · exact .take <| .step (ih.code _) fun _ _ => .done

theorem arranging_codeWord (ih : ArrangingAt depth) (position : Position) (name : String)
    (next : List Lexeme) :
    Continues itself [] (codeWord (depth + 1) position name next) (.word name :: next) := by
  unfold codeWord
  split
  · exact .done
  · exact .take <| .step (ih.simpleType _) fun _ _ => .step (ih.code _) fun _ _ => .done
  · refine .take <| .step ih.alternatives fun pattern _ => .get ?_
    extract_lets behind
    have further (type rest : List Lexeme) :
        Continues itself ([.word "let"] ++ pattern ++ type) (behind type) rest :=
      .step (ih.code _) fun _ _ => .done
    split
    · exact .take <| .step (ih.typeExpr true) fun _ _ => .pureBind (by simpa using further _ _)
    · exact .pureBind (by simpa using further [] _)
  · exact .take <| .step (ih.code _) fun _ _ => .step ih.block fun _ _ =>
      .step ih.otherwise fun _ _ => .step (ih.code _) fun _ _ => .done
  · exact .take <| .step (ih.code _) fun _ _ => .step ih.block fun _ _ =>
      .step (ih.code _) fun _ _ => .done
  · exact .take <| .step (ih.code _) fun _ _ => .opening fun _ _ => .step (ih.code _) fun _ _ =>
      .closing fun _ _ => .step (ih.code _) fun _ _ => .done
  · exact .step ih.quantifier fun _ _ => .step (ih.code _) fun _ _ => .done
  · exact .step ih.quantifier fun _ _ => .step (ih.code _) fun _ _ => .done
  · exact .take <| .step ih.alternatives fun _ _ => .copy (copies_word? _) fun _ _ _ =>
      .step (ih.code _) fun _ _ => .step ih.block fun _ _ => .step (ih.code _) fun _ _ => .done
  · exact .step (Takes.asWritten fun _ => .take <| .last (ih.code _)) fun _ _ =>
      .step (ih.code _) fun _ _ => .done
  · exact .take <| .step copies_group.arranging fun _ _ => .step (ih.code _) fun _ _ => .done
  · split
    · exact .take <| .step copies_group.arranging fun _ _ => .step (ih.code _) fun _ _ => .done
    · exact .take <| .step (ih.code _) fun _ _ => .done
  · exact .take <| .step (ih.code _) fun _ _ => .done

/-! ## All readers together -/

theorem ArrangingAt.zero : ArrangingAt 0 where
  attribution _ := .failure
  attributions _ := .failure
  typeExpr _ _ := .failure
  simpleType _ _ := .failure
  quantifier _ := .failure
  boundList _ _ := .failure
  bound _ := .failure
  traitBound _ := .failure
  statedBounds _ := .failure
  typeList _ := .failure
  functionTypes _ _ := .failure
  output _ _ := .failure
  qualifier _ := .failure
  path _ := .failure
  segments _ := .failure
  genericSegment _ := .failure
  functionTrait _ := .failure
  arguments _ := .failure
  argumentList _ := .failure
  argument _ := .failure
  parameters _ := .failure
  parameter _ := .failure
  generics _ := .failure
  conditions _ := .failure
  conditionList _ := .failure
  block _ := .failure
  alternatives _ := .failure
  patternList _ := .failure
  pattern _ := .failure
  bindings _ _ := .failure
  binding _ _ := .failure
  fields _ := .failure
  variants _ := .failure
  members _ _ := .failure
  item _ _ := .failure
  bareItem _ _ _ := .failure
  functionBody _ := .failure
  function _ _ _ := .failure
  assigned _ := .failure
  constant _ _ _ := .failure
  staticItem _ _ := .failure
  typeAlias _ _ _ := .failure
  structureItem _ := .failure
  traitItem _ := .failure
  subject _ := .failure
  implementation _ _ := .failure
  closureHead _ := .failure
  otherwise _ := .failure
  arms _ _ := .failure
  attributed _ _ := .failure
  code _ _ := .failure
  codeMark _ _ _ _ := .failure
  codeWord _ _ _ := .failure

theorem ArrangingAt.succ (ih : ArrangingAt depth) : ArrangingAt (depth + 1) where
  attribution := arranging_attribution ih
  attributions := arranging_attributions ih
  typeExpr := arranging_typeExpr ih
  simpleType := arranging_simpleType ih
  quantifier := arranging_quantifier ih
  boundList := arranging_boundList ih
  bound := arranging_bound ih
  traitBound := arranging_traitBound ih
  statedBounds := arranging_statedBounds ih
  typeList := arranging_typeList ih
  functionTypes := arranging_functionTypes ih
  output := arranging_output ih
  qualifier := arranging_qualifier ih
  path := arranging_path ih
  segments := arranging_segments ih
  genericSegment := arranging_genericSegment ih
  functionTrait := arranging_functionTrait ih
  arguments := arranging_arguments ih
  argumentList := takes_argumentList ih
  argument := arranging_argument ih
  parameters := takes_parameters ih
  parameter := arranging_parameter ih
  generics := arranging_generics ih
  conditions := arranging_conditions ih
  conditionList := arranging_conditionList ih
  block := arranging_block ih
  alternatives := arranging_alternatives ih
  patternList := arranging_patternList ih
  pattern := arranging_pattern ih
  bindings := arranging_bindings ih
  binding := arranging_binding ih
  fields := arranging_fields ih
  variants := arranging_variants ih
  members := arranging_members ih
  item := arranging_item ih
  bareItem := arranging_bareItem ih
  functionBody := arranging_functionBody ih
  function := arranging_function ih
  assigned := arranging_assigned ih
  constant := arranging_constant ih
  staticItem := arranging_staticItem ih
  typeAlias := arranging_typeAlias ih
  structureItem := arranging_structureItem ih
  traitItem := arranging_traitItem ih
  subject := takes_subject ih
  implementation := arranging_implementation ih
  closureHead := arranging_closureHead ih
  otherwise := arranging_otherwise ih
  arms := arranging_arms ih
  attributed := arranging_attributed ih
  code := arranging_code ih
  codeMark := arranging_codeMark ih
  codeWord := arranging_codeWord ih

theorem arrangingAt : ∀ depth, ArrangingAt depth
  | 0 => .zero
  | depth + 1 => (arrangingAt depth).succ

/-- The canonical form of a type is an arrangement of its lexemes. -/
theorem arranges_typeLexemes (lexemes : List Lexeme) :
    Arranges lexemes (typeLexemes lexemes) := by
  unfold typeLexemes
  split
  · rename_i arranged read
    obtain ⟨taken, whole, each⟩ := (arrangingAt _).typeExpr true lexemes arranged [] read
    obtain rfl : lexemes = taken := by simpa using whole
    simpa using each arranged (by simp [itself])
  · exact .refl lexemes

/-- Nothing that stays what it is stands in the canonical form more often than it is written. -/
theorem kept_typeLexemes_subperm (lexemes : List Lexeme) :
    (kept (typeLexemes lexemes)).Subperm (kept lexemes) :=
  (arranges_typeLexemes lexemes).kept_subperm

/--
In the canonical form of a type without attributes and visibilities stand the
names, lifetimes, literals and brackets that are written, each as often.
-/
theorem kept_typeLexemes_perm {lexemes : List Lexeme}
    (none : ∀ lexeme ∈ lexemes, ¬ OpensOmitted lexeme) :
    (kept (typeLexemes lexemes)).Perm (kept lexemes) :=
  (arranges_typeLexemes lexemes).kept_perm none

/-- The canonical text is that of the lexemes in another arrangement. -/
theorem exists_arranges_canonicalType {source : Text} {lexemes : List Lexeme}
    (read : ofText? source = some lexemes) :
    ∃ arranged, Arranges lexemes arranged ∧
      canonicalType source = (spelled arranged).filter fun c => ¬IsSpace c := by
  refine ⟨typeLexemes lexemes, arranges_typeLexemes lexemes, ?_⟩
  simp only [canonicalType, read]

end Arrange

end SqlBuilder

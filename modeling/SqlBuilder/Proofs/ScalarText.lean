import SqlBuilder.Proofs.RoundTrip

/-!
# The text of scalars

A scalar is a value without parts: a literal, a null in whichever way it is given,
a column, or a parameter with a plain name.  The text of a scalar tells which
expression it stands for, whatever kind the scalar is of.

The one exception is the word for a value that is not a number.  It is a plain
word and not a reserved one, so a column of that name is written in the same way.
The words for the infinities open with a sign, and no column is written so.
-/

namespace SqlBuilder

/-! ## Scalars -/

/-- A value without parts, and a plain name where it is a parameter. -/
def Value.IsScalar : Value → Prop
  | .present value => Value.IsScalar value
  | .nullable payload valid => valid = true → Value.IsScalar payload
  | .wrapped value => Value.IsScalar value
  | .parameter value => IsPlain value.name
  | .sequence _ => False
  | .dynamic _ => False
  | .json _ => False
  | .expr _ => False
  | .subquery _ => False
  | _ => True

/-- The words for the floating-point values that are not finite. -/
def nonFiniteWords : List String := ["NaN", "+Inf", "-Inf"]

/-- A value that is not a number. -/
def quietNaN : Double := ⟨0x7ff8000000000000⟩

/-- A leaf that is read back from its text, or the word for a number that is not finite. -/
def Expr.IsScalar (expr : Expr) : Prop :=
  (expr.IsLeaf ∧ expr.IsReadableNode) ∨ ∃ word ∈ nonFiniteWords, expr = .float word

theorem isFloatText_of_mem {word : String} (member : word ∈ nonFiniteWords) :
    IsFloatText word := by
  simp only [nonFiniteWords, List.mem_cons, List.not_mem_nil, or_false] at member
  rcases member with rfl | rfl | rfl
  · exact ⟨.double, quietNaN, rfl⟩
  · exact ⟨.double, ⟨0x7ff0000000000000⟩, rfl⟩
  · exact ⟨.double, ⟨0xfff0000000000000⟩, rfl⟩

namespace BinaryFloat

variable {format : BinaryFormat} (value : BinaryFloat format)

theorem text_mem_nonFiniteWords (notFinite : ¬ value.IsFinite) :
    String.ofList value.text ∈ nonFiniteWords := by
  rw [text, if_neg notFinite]
  by_cases noNumber : value.fraction ≠ 0
  · rw [if_pos noNumber]
    exact List.mem_cons_self ..
  rw [if_neg noNumber]
  cases value.negative with
  | true => exact List.mem_of_elem_eq_true rfl
  | false => exact List.mem_of_elem_eq_true rfl

theorem text_of_isNaN (noNumber : value.IsNaN) : value.text = "NaN".toList := by
  have notFinite : ¬ value.IsFinite := not_not.mpr noNumber.1
  rw [text, if_neg notFinite, if_pos noNumber.2]

theorem isScalar_ofFloat : (Expr.ofFloat value).IsScalar := by
  by_cases finite : value.IsFinite
  · exact .inl ⟨trivial, format, value, finite, rfl⟩
  · exact .inr ⟨_, value.text_mem_nonFiniteWords finite, rfl⟩

end BinaryFloat

theorem Expr.isScalar_of_ok {expr : Expr} (scalar : expr.IsScalar) :
    ∀ result, (.ok expr : Outcome Expr) = .ok result → result.IsScalar := by
  rintro result ⟨⟩
  exact scalar

/-- The expression of a scalar. -/
theorem Value.isScalar_toExpr :
    (value : Value) → value.IsScalar → ∀ expr, value.toExpr = .ok expr → expr.IsScalar
  | .null, _ => Expr.isScalar_of_ok (.inl ⟨trivial, trivial⟩)
  | .string _, _ => Expr.isScalar_of_ok (.inl ⟨trivial, trivial⟩)
  | .bytes _, _ => Expr.isScalar_of_ok (.inl ⟨trivial, trivial⟩)
  | .int value, _ => Expr.isScalar_of_ok (.inl ⟨trivial, value, rfl⟩)
  | .uint value, _ => by
      intro expr converted
      rw [Value.toExpr, Expr.ofUInt64] at converted
      split at converted
      · cases converted
        exact .inl ⟨trivial, isIntegerText_repr ‹_›⟩
      · cases converted
  | .bool _, _ => Expr.isScalar_of_ok (.inl ⟨trivial, trivial⟩)
  | .float64 value, _ => Expr.isScalar_of_ok value.isScalar_ofFloat
  | .float32 value, _ => Expr.isScalar_of_ok value.isScalar_ofFloat
  | .timestamp _, _ => Expr.isScalar_of_ok (.inl ⟨trivial, trivial⟩)
  | .date _, _ => Expr.isScalar_of_ok (.inl ⟨trivial, trivial⟩)
  | .uuid _, _ => Expr.isScalar_of_ok (.inl ⟨trivial, trivial⟩)
  | .present value, scalar => Value.isScalar_toExpr value scalar
  | .nullable payload true, scalar => Value.isScalar_toExpr payload (scalar rfl)
  | .nullable _ false, _ => Expr.isScalar_of_ok (.inl ⟨trivial, trivial⟩)
  | .wrapped value, scalar => Value.isScalar_toExpr value scalar
  | .identifier value, _ => by
      intro expr converted
      rw [Value.toExpr, Identifier.toExpr] at converted
      split at converted
      · cases converted
      · cases converted
        exact .inl ⟨trivial, ‹_›⟩
  | .parameter _, plain => Expr.isScalar_of_ok (.inl ⟨trivial, plain⟩)

/-! ## Reading a scalar -/

namespace Expr

variable {expr left right : Expr}

theorem IsScalar.wellSpelled (scalar : expr.IsScalar) : expr.WellSpelled := by
  rcases scalar with ⟨isLeaf, readable⟩ | ⟨word, member, rfl⟩
  · exact every_of_isLeaf _ _ isLeaf readable.isSpelled
  · exact isFloatText_of_mem member

/-- Expressions with the same text have the same parts. -/
theorem pieces_eq_of_text_eq (first : left.WellSpelled) (second : right.WellSpelled)
    (same : left.text = right.text) : left.pieces = right.pieces := by
  have tokens := (left.spells first).tokenize?_eq
  rw [same, (right.spells second).tokenize?_eq] at tokens
  have grouped := TokenTree.group?_flatten right.trees
  rw [Option.some.inj tokens, TokenTree.group?_flatten] at grouped
  rw [pieces, parts, Option.some.inj grouped]
  rfl

/-- The literal of a value that is not a number. -/
def IsNaN (expr : Expr) : Prop :=
  ∃ value : Double, value.IsNaN ∧ expr = .ofFloat value

/-- Every value that is not a number is written with the one word. -/
theorem isNaN_iff : expr.IsNaN ↔ expr = .float "NaN" := by
  constructor
  · rintro ⟨value, noNumber, rfl⟩
    rw [ofFloat, value.text_of_isNaN noNumber, String.ofList_toList]
  · rintro rfl
    exact ⟨quietNaN, by decide, rfl⟩

/-- A leaf with the parts of a number that is not finite is the column of that name. -/
theorem eq_name_of_pieces_eq {word : String} (member : word ∈ nonFiniteWords)
    (isLeaf : expr.IsLeaf) (readable : expr.IsReadableNode)
    (same : expr.pieces = (Expr.float word).pieces) :
    (Expr.float word).IsNaN ∧ expr = .name "NaN" := by
  have read := ofOperand?_leaf isLeaf readable
  rw [same] at read
  simp only [nonFiniteWords, List.mem_cons, List.not_mem_nil, or_false] at member
  rcases member with rfl | rfl | rfl
  · exact ⟨isNaN_iff.mpr rfl, (Option.some.inj read).symm⟩
  · -- What follows the sign of an infinity is read as a name and not as a number.
    cases read
  · cases read

theorem IsScalar.of_text_eq (first : left.IsScalar) (second : right.IsScalar)
    (same : left.text = right.text) :
    left = right ∨ (left.IsNaN ∧ right = .name "NaN") ∨ (left = .name "NaN" ∧ right.IsNaN) := by
  have together := pieces_eq_of_text_eq first.wellSpelled second.wellSpelled same
  rcases first with ⟨isLeaf, readable⟩ | ⟨word, member, rfl⟩ <;>
    rcases second with ⟨otherLeaf, another⟩ | ⟨other, known, rfl⟩
  · left
    have read := ofOperand?_leaf isLeaf readable
    rw [together, ofOperand?_leaf otherLeaf another] at read
    exact (Option.some.inj read).symm
  · exact .inr (.inr (eq_name_of_pieces_eq known isLeaf readable together).symm)
  · exact .inr (.inl (eq_name_of_pieces_eq member otherLeaf another together.symm))
  · left
    exact congrArg Expr.float (String.toList_injective same)

end Expr

/--
Scalars are written in the same way only where they are the same expression, or
where one of them is not a number and the other is the column `NaN`.
-/
theorem scalar_sql_eq_iff :
    ∀ left right : Value, left.IsScalar → right.IsScalar →
      ∀ leftExpr rightExpr, left.toExpr = .ok leftExpr → right.toExpr = .ok rightExpr →
        (leftExpr.sql = rightExpr.sql ↔
          leftExpr = rightExpr ∨ (leftExpr.IsNaN ∧ rightExpr = .name "NaN") ∨
            (leftExpr = .name "NaN" ∧ rightExpr.IsNaN)) := by
  intro left right first second leftExpr rightExpr converted made
  rw [Expr.sql, Expr.sql, String.ofList_inj]
  constructor
  · exact (left.isScalar_toExpr first leftExpr converted).of_text_eq
      (right.isScalar_toExpr second rightExpr made)
  · rw [Expr.isNaN_iff, Expr.isNaN_iff]
    rintro (rfl | ⟨rfl, rfl⟩ | ⟨rfl, rfl⟩) <;> rfl

theorem hostileScalars_sql :
    (Expr.float "NaN").sql = (Expr.name "NaN").sql ∧
      (Expr.bool true).sql ≠ (Expr.name "TRUE").sql ∧
        (Expr.string "1").sql ≠ (Expr.integer "1").sql := by
  refine ⟨?_, ?_, ?_⟩
  · have noNumber : (Expr.float "NaN").IsNaN := Expr.isNaN_iff.mpr rfl
    exact (scalar_sql_eq_iff (.present (.float64 quietNaN)) (.identifier ⟨["NaN"]⟩) trivial
      trivial _ _ rfl rfl).mpr (.inr (.inl ⟨noNumber, rfl⟩))
  · intro same
    rcases (scalar_sql_eq_iff (.bool true) (.identifier ⟨["TRUE"]⟩) trivial trivial _ _ rfl
      rfl).mp same with equal | ⟨_, equal⟩ | ⟨equal, _⟩
    · cases equal
    · simp [Expr.name] at equal
    · cases equal
  · intro same
    rcases (scalar_sql_eq_iff (.string "1") (.int 1) trivial trivial _ _ rfl
      rfl).mp same with equal | ⟨_, equal⟩ | ⟨equal, _⟩ <;> cases equal

/-- Text alone does not tell scalars apart: one may be not a number and the other a column. -/
theorem not_forall_eq_of_sql_eq :
    ¬ ∀ left right : Value, left.IsScalar → right.IsScalar →
      ∀ leftExpr rightExpr, left.toExpr = .ok leftExpr → right.toExpr = .ok rightExpr →
        leftExpr.sql = rightExpr.sql → leftExpr = rightExpr := by
  intro every
  have same := every (.float64 quietNaN) (.identifier ⟨["NaN"]⟩) trivial trivial
    (.float "NaN") (.name "NaN") rfl rfl rfl
  cases same

end SqlBuilder

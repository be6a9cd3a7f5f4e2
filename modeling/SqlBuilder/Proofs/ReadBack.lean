import SqlBuilder.Proofs.Chain
import SqlBuilder.Proofs.Parser

/-!
# Reading statements back

The text of a statement is read as the statement again, up to the way in which
chains of one connective are put together.

This needs expressions that the precedence of the dialect keeps whole: operands
are compared and tested, and what stands beside an AND is no OR without brackets.
Numbers are finite literals and parameters have plain names.
-/

namespace SqlBuilder

/-! ## Readable expressions -/

namespace Expr

/-- A literal or a parameter is well spelled, and a comparison, a test or a connective stands between what it may. -/
def IsReadableNode : Expr → Prop
  | .integer digits => IsIntegerText digits
  | .float digits => IsFiniteText digits
  | .parameter name => IsPlain name
  | .path segments => segments ≠ []
  | .binary (.logical connective) left right =>
      left.StandsBeside connective ∧ right.StandsBeside connective
  | .binary _ left right => left.IsOperand ∧ right.IsOperand
  | .isNull operand _ => operand.IsOperand
  | .isIn operand _ _ => operand.IsOperand
  | .between operand low high _ => operand.IsOperand ∧ low.IsOperand ∧ high.IsOperand
  | _ => True

/-- An INT64 literal. -/
def IsInteger : Expr → Prop
  | .integer _ => True
  | _ => False

end Expr

/-- The number of rows that a query is limited to is a literal. -/
def Select.IsReadableNode (query : Select) : Prop :=
  ∀ limit ∈ query.limit, limit.count.IsInteger

/-- Every node of an expression is readable. -/
def Expr.IsReadable (expr : Expr) : Prop :=
  expr.Every Expr.IsReadableNode Select.IsReadableNode

def Select.IsReadable (query : Select) : Prop :=
  query.Every Expr.IsReadableNode Select.IsReadableNode

/-- Every node of a statement is readable, and assignments have a column. -/
def Statement.IsReadable (statement : Statement) : Prop :=
  statement.Every Expr.IsReadableNode Select.IsReadableNode ∧
    match statement with
    | .update command => ∀ assignment ∈ command.assignments, assignment.target ≠ []
    | _ => True

theorem Expr.IsReadableNode.isSpelled {expr : Expr} (readable : expr.IsReadableNode) :
    expr.IsSpelled := by
  cases expr with
  | float digits => exact readable.isFloatText
  | integer digits => exact readable
  | parameter name => exact readable
  | _ => trivial

theorem Statement.IsReadable.wellSpelled {statement : Statement}
    (readable : statement.IsReadable) : statement.WellSpelled :=
  readable.1.mono (fun _ => Expr.IsReadableNode.isSpelled) fun _ _ => trivial

/-! ## Numbers -/

/-- A number is a digit and what follows it, perhaps behind a hyphen. -/
def IsSigned (digits : String) : Prop :=
  ∃ negative first rest,
    first.isDigit = true ∧ digits.toList = signText negative ++ first :: rest

theorem toDigits_eq_cons (number : Nat) :
    ∃ first rest, first.isDigit = true ∧ Nat.toDigits 10 number = first :: rest := by
  obtain ⟨first, rest, written⟩ :=
    List.exists_cons_of_ne_nil (Nat.toDigits_ne_nil (b := 10) (n := number))
  have member : first ∈ Nat.toDigits 10 number := by simp [written]
  exact ⟨first, rest, isDigit_of_mem_toDigits member, written⟩

theorem IsIntegerText.isSigned {digits : String} (integer : IsIntegerText digits) :
    IsSigned digits := by
  rcases integer with ⟨value, rfl⟩
  generalize value.toInt = number
  rw [Int.repr_eq_if]
  by_cases natural : 0 ≤ number
  · rcases toDigits_eq_cons number.toNat with ⟨first, rest, digit, written⟩
    exact ⟨false, first, rest, digit, by simp [natural, Nat.toList_repr, signText, written]⟩
  · rcases toDigits_eq_cons (-number).toNat with ⟨first, rest, digit, written⟩
    exact ⟨true, first, rest, digit, by simp [natural, Nat.toList_repr, signText, written]⟩

theorem IsFiniteText.isSigned {digits : String} (finite : IsFiniteText digits) :
    IsSigned digits := by
  rcases finite with ⟨format, value, isFinite, rfl⟩
  rcases toDigits_eq_cons value.shortest.digits with ⟨first, rest, digit, written⟩
  rw [BinaryFloat.text, if_pos isFinite, Decimal.scientific, written]
  exact ⟨value.negative, first, _, digit, String.toList_ofList⟩

theorem IsSigned.words {digits : String} (signed : IsSigned digits) (number word : String → Word)
    (same : ∀ first rest, first.isDigit = true →
      number (String.ofList (first :: rest)) = word (String.ofList (first :: rest))) :
    ∃ unsigned,
      digits = unsigned ∧ signedWords number digits.toList = [word unsigned] ∨
        digits = "-" ++ unsigned ∧
          signedWords number digits.toList = [.symbol "-", word unsigned] := by
  rcases signed with ⟨negative, first, rest, digit, written⟩
  have whole : digits = String.ofList (signText negative ++ first :: rest) := by
    rw [← written, String.ofList_toList]
  refine ⟨String.ofList (first :: rest), ?_⟩
  cases negative with
  | false =>
      rw [signText, if_neg Bool.false_ne_true, List.nil_append] at written whole
      left
      refine ⟨whole, ?_⟩
      rw [written, signedWords_of_isAlphanum number (isAlphanum_of_isDigit digit),
        same first rest digit]
  | true =>
      right
      constructor
      · rw [whole, signText, if_pos rfl, String.ofList_append]
      · rw [written, ← same first rest digit]
        rfl

/-! ## Operands -/

/-- The parts of an expression, with what stands in brackets read. -/
def Expr.pieces (expr : Expr) : List Piece :=
  expr.parts Content.ofParts?

/-- The parts of trees, with what stands in brackets read. -/
def TokenTree.pieces (trees : List TokenTree) : List Piece :=
  trees.map (TokenTree.part Content.ofParts?)

theorem TokenTree.pieces_group (bracket : Bracket) (inner : List TokenTree) :
    pieces [.group bracket inner] = [.group bracket (Content.ofParts? (pieces inner))] := by
  simp [pieces]

/-- The names behind the first one of a path are read. -/
theorem pathRest?_tail (segment : String) (rest : List String) :
    ∃ tail, TokenTree.pieces (pathTrees (segment :: rest)) = .word (nameWord segment) :: tail ∧
      pathRest? tail = some rest ∧ ∀ content, tail ≠ [.word (.string content)] := by
  induction rest generalizing segment with
  | nil => exact ⟨[], rfl, rfl, by simp⟩
  | cons next others ih =>
      rcases ih next with ⟨tail, written, read, _⟩
      refine ⟨.word (.symbol ".") :: .word (nameWord next) :: tail, ?_, ?_, by simp⟩
      · rw [pathTrees_cons_cons, ← written]
        simp [TokenTree.pieces]
      · simp [pathRest?, nameWord, read]

theorem path?_pathTrees {segments : List String} (present : segments ≠ []) :
    path? (TokenTree.pieces (pathTrees segments)) = some segments := by
  rcases List.exists_cons_of_ne_nil present with ⟨segment, rest, rfl⟩
  rcases pathRest?_tail segment rest with ⟨tail, written, read, _⟩
  simp [written, path?, nameWord, read]

namespace Expr

variable {expr : Expr}

theorem ofOperand?_path {segments : List String} (present : segments ≠ []) :
    ofOperand? (path segments).pieces = some (path segments) := by
  rcases List.exists_cons_of_ne_nil present with ⟨segment, rest, rfl⟩
  rcases pathRest?_tail segment rest with ⟨tail, written, read, noLiteral⟩
  have whole : (path (segment :: rest)).pieces = .word (nameWord segment) :: tail := written
  rw [whole, nameWord, ofOperand?, ofName?.eq_def]
  split
  · exact absurd rfl (noLiteral _)
  · simp [read]

theorem ofOperand?_integer {digits : String} (integer : IsIntegerText digits) :
    ofOperand? (Expr.integer digits).pieces = some (.integer digits) := by
  obtain ⟨unsigned, ⟨same, words⟩ | ⟨same, words⟩⟩ :=
    integer.isSigned.words .integer .integer fun _ _ _ => rfl
  all_goals
    simp only [pieces, parts, trees, integerWords, words]
    rw [same]
    rfl

theorem ofOperand?_float {digits : String} (finite : IsFiniteText digits) :
    ofOperand? (Expr.float digits).pieces = some (.float digits) := by
  obtain ⟨unsigned, ⟨same, words⟩ | ⟨same, words⟩⟩ :=
    finite.isSigned.words floatWord .float fun _ rest digit => floatWord_of_isDigit digit rest
  all_goals
    simp only [pieces, parts, trees, floatWords, words]
    rw [same]
    rfl

theorem ofOperand?_leaf (isLeaf : expr.IsLeaf) (readable : expr.IsReadableNode) :
    ofOperand? expr.pieces = some expr := by
  cases expr with
  | integer digits => exact ofOperand?_integer readable
  | float digits => exact ofOperand?_float readable
  | path segments => exact ofOperand?_path readable
  | bool value => cases value <;> rfl
  | array => exact isLeaf.elim
  | binary => exact isLeaf.elim
  | isNull => exact isLeaf.elim
  | isIn => exact isLeaf.elim
  | between => exact isLeaf.elim
  | subquery => exact isLeaf.elim
  | paren => exact isLeaf.elim
  | _ => rfl

/-! ## Factors and chains of them -/

/-- An expression is read back, up to the way in which chains in it are put together. -/
structure IsReadBack (expr : Expr) : Prop where
  operand : expr.IsOperand → ofOperand? expr.pieces = some expr.leftChained
  conjunction : expr.topOperator? ≠ some (.logical .or) →
    Part.ReadsConjunction ofFactor? expr.pieces (expr.leftChained.links .and)
  disjunction :
    Part.ReadsDisjunction ofFactor? expr.pieces ((expr.leftChained.links .or).map (links .and))

namespace IsReadBack

variable {left right : Expr}

theorem ofParts? (back : expr.IsReadBack) : ofParts? expr.pieces = some expr.leftChained := by
  have terms : Part.terms? ofFactor? expr.pieces =
      some ((expr.leftChained.links .or).map (links .and)) := back.disjunction
  have conjunctions :
      ((expr.leftChained.links .or).map (links .and)).mapM
          (Part.chained? (binary (.logical .and))) =
        some ((expr.leftChained.links .or).map id) := by
    rw [List.mapM_map]
    exact Part.mapM_eq_some_map fun link _ => chained?_links .and link
  rw [List.map_id] at conjunctions
  simp [Expr.ofParts?, Part.read?, terms, conjunctions, chained?_links]

/-- What is no OR is read at both levels once it is read as a conjunction. -/
theorem of_conjunction (noOr : expr.topOperator? ≠ some (.logical .or))
    (operand : expr.IsOperand → ofOperand? expr.pieces = some expr.leftChained)
    (conjunction :
      Part.ReadsConjunction ofFactor? expr.pieces (expr.leftChained.links .and)) :
    expr.IsReadBack where
  operand := operand
  conjunction := fun _ => conjunction
  disjunction := by
    have alone : expr.leftChained.links .or = [expr.leftChained] := by
      apply links_eq_singleton
      rwa [topOperator?_leftChained]
    rw [alone]
    exact conjunction.disjunction

theorem of_factor (noLogical : ∀ connective, expr.topOperator? ≠ some (.logical connective))
    (operand : expr.IsOperand → ofOperand? expr.pieces = some expr.leftChained)
    (factor : Part.IsFactor expr.pieces) (read : ofFactor? expr.pieces = some expr.leftChained) :
    expr.IsReadBack := by
  have alone : expr.leftChained.links .and = [expr.leftChained] := by
    apply links_eq_singleton
    rw [topOperator?_leftChained]
    exact noLogical .and
  refine of_conjunction (noLogical .or) operand ?_
  rw [alone]
  exact factor.conjunction read

/-- A connective between what may stand beside it without brackets. -/
theorem logical {connective : Connective} (first : left.IsReadBack) (second : right.IsReadBack)
    (beside : left.StandsBeside connective) (following : right.StandsBeside connective) :
    (binary (.logical connective) left right).IsReadBack := by
  have row : (binary (.logical connective) left right).pieces =
      left.pieces ++ .word (.keyword connective.sql) :: right.pieces := by
    simp [pieces, parts_binary, Operator.words]
  have chained (other : Connective) :
      (binary (.logical other) left right).leftChained.links other =
        left.leftChained.links other ++ right.leftChained.links other :=
    links_relinked other left.leftChained right.leftChained
  cases connective with
  | and =>
      refine of_conjunction (by simp) (fun isOperand => isOperand.elim) ?_
      rw [row, chained]
      exact (first.conjunction (beside rfl)).and (second.conjunction (following rfl))
  | or =>
      refine ⟨fun isOperand => isOperand.elim, fun noOr => absurd rfl noOr, ?_⟩
      rw [row, chained, List.map_append]
      exact first.disjunction.or second.disjunction

end IsReadBack

/-! ## Operands, comparisons and tests -/

/-- The operand in front of a test is cut off whole. -/
theorem ofFactor?_append {front back : List Piece} {operand : Expr}
    (inside : ∀ part ∈ front, part.inOperand = true)
    (stop : ∀ part ∈ back.head?, part.inOperand = false)
    (read : ofOperand? front = some operand) :
    ofFactor? (front ++ back) = ofTest? operand back := by
  rcases takeWhile_append_of_stop inside stop with ⟨taken, dropped⟩
  simp [ofFactor?, taken, dropped, read]

theorem IsReadBack.of_operand (isOperand : expr.IsOperand)
    (read : ofOperand? expr.pieces = some expr.leftChained) : expr.IsReadBack := by
  have inside := inOperand_parts Content.ofParts? isOperand
  refine of_factor (by simp [isOperand.topOperator?_eq_none]) (fun _ => read) ?_ ?_
  · exact .of_ordinary fun part member => (Part.InTest.of_inOperand (inside part member)).ordinary
  · have stop : ∀ part ∈ ([] : List Piece).head?, part.inOperand = false := by simp
    have whole := ofFactor?_append inside stop read
    rwa [List.append_nil] at whole

theorem IsReadBack.of_test (test : expr.IsTest)
    (read : ofFactor? expr.pieces = some expr.leftChained) : expr.IsReadBack := by
  refine of_factor (fun connective => test.topOperator?_ne_logical) ?_ ?_ read
  · exact fun isOperand => absurd isOperand test.not_isOperand
  · exact isFactor_of_isTest Content.ofParts? test

theorem ofTest?_predicate (word : String) (known : word ∈ ["LIKE", "IN", "BETWEEN"])
    (operand : Expr) (negated : Bool) (rest : List Piece) :
    ofTest? operand ((predicateWords word negated).map .word ++ rest) =
      ofPredicate? operand negated word rest := by
  simp only [List.mem_cons, List.not_mem_nil, or_false] at known
  rcases known with rfl | rfl | rfl <;> cases negated <;> rfl

section Tests

variable {operand left right low high : Expr}
variable {reading leftReading rightReading lowReading highReading : Expr}

/-- The reading of a test, given what its operand and the parts behind it are read as. -/
theorem ofFactor?_test {back : List Piece} (isOperand : operand.IsOperand)
    (first : ofOperand? operand.pieces = some reading)
    (stop : ∀ part ∈ back.head?, part.inOperand = false) :
    ofFactor? (operand.pieces ++ back) = ofTest? reading back :=
  ofFactor?_append (inOperand_parts Content.ofParts? isOperand) stop first

theorem ofFactor?_comparison {operator : Operator} (comparison : operator.isLogical = false)
    (isOperand : left.IsOperand) (first : ofOperand? left.pieces = some leftReading)
    (read : ofOperand? right.pieces = some rightReading) :
    ofFactor? (binary operator left right).pieces =
      some (.binary operator leftReading rightReading) := by
  have row : (binary operator left right).pieces =
      left.pieces ++ (operator.words.map .word ++ right.pieces) :=
    parts_binary Content.ofParts? operator left right
  have stop : ∀ part ∈ (operator.words.map Part.word ++ right.pieces).head?,
      part.inOperand = false := by
    cases operator with
    | logical connective => cases comparison
    | _ => simp [Operator.words, Part.inOperand, Word.inOperand, Operator.sql]
  rw [row, ofFactor?_test isOperand first stop]
  cases operator with
  | logical connective => cases comparison
  | like =>
      have test := ofTest?_predicate "LIKE" (by decide) leftReading false right.pieces
      rw [ofPredicate?, if_pos rfl, read] at test
      exact test
  | notLike =>
      have test := ofTest?_predicate "LIKE" (by decide) leftReading true right.pieces
      rw [ofPredicate?, if_pos rfl, read] at test
      exact test
  | _ =>
      simp [Operator.words, Operator.sql, ofTest?, Operator.ofSymbol?, read]

theorem inOperand_predicateWords (word : String) (other : (Word.keyword word).inOperand = false)
    (negated : Bool) (rest : List Piece) :
    ∀ part ∈ ((predicateWords word negated).map Part.word ++ rest).head?,
      part.inOperand = false := by
  cases negated with
  | false => simpa [predicateWords, Part.inOperand] using other
  | true => simp [predicateWords, Part.inOperand, Word.inOperand]

theorem ofFactor?_isNull (negated : Bool) (isOperand : operand.IsOperand)
    (first : ofOperand? operand.pieces = some reading) :
    ofFactor? (isNull operand negated).pieces = some (.isNull reading negated) := by
  have row : (isNull operand negated).pieces =
      operand.pieces ++ .word (.keyword "IS") :: (predicateWords "NULL" negated).map Part.word :=
    parts_isNull Content.ofParts? operand negated
  rw [row, ofFactor?_test isOperand first (by simp [Part.inOperand, Word.inOperand])]
  cases negated <;> rfl

theorem ofFactor?_isIn {candidates : Candidates} {others : Candidates} (negated : Bool)
    (isOperand : operand.IsOperand) (first : ofOperand? operand.pieces = some reading)
    (read : Candidates.ofParts? (TokenTree.pieces candidates.trees) = some others) :
    ofFactor? (isIn operand candidates negated).pieces =
      some (.isIn reading others negated) := by
  have row : (isIn operand candidates negated).pieces =
      operand.pieces ++ ((predicateWords "IN" negated).map Part.word ++
        TokenTree.pieces candidates.trees) :=
    parts_isIn Content.ofParts? operand candidates negated
  rw [row, ofFactor?_test isOperand first (inOperand_predicateWords "IN" rfl negated _),
    ofTest?_predicate "IN" (by decide)]
  simp [ofPredicate?, read]

theorem ofFactor?_between (negated : Bool) (isOperand : operand.IsOperand)
    (lower : low.IsOperand) (first : ofOperand? operand.pieces = some reading)
    (readLow : ofOperand? low.pieces = some lowReading)
    (readHigh : ofOperand? high.pieces = some highReading) :
    ofFactor? (between operand low high negated).pieces =
      some (.between reading lowReading highReading negated) := by
  have row : (between operand low high negated).pieces =
      operand.pieces ++ ((predicateWords "BETWEEN" negated).map Part.word ++
        (low.pieces ++ .word (.keyword "AND") :: high.pieces)) := by
    simp [pieces, parts_between]
  have stop : ∀ part ∈ (Part.word (.keyword "AND") :: high.pieces).head?,
      part.inOperand = false := by
    simp [Part.inOperand, Word.inOperand]
  have inside : ∀ part ∈ low.pieces, part.inOperand = true :=
    inOperand_parts Content.ofParts? lower
  rcases takeWhile_append_of_stop inside stop with ⟨taken, dropped⟩
  rw [row, ofFactor?_test isOperand first (inOperand_predicateWords "BETWEEN" rfl negated _),
    ofTest?_predicate "BETWEEN" (by decide)]
  simp [ofPredicate?, taken, dropped, readLow, readHigh]

end Tests

end Expr

/-! ## Lists of expressions -/

/-- A symbol that cannot stand within an expression is no part of one. -/
theorem Part.isSymbol_of_inExpr {α : Type} {part : Part α} (within : part.inExpr = true)
    {mark : String} (other : (Word.symbol mark).inExpr = false) :
    part.isSymbol mark = false := by
  refine (Bool.not_eq_true _).mp fun same => ?_
  cases part with
  | group bracket content => cases same
  | word content =>
      cases content with
      | symbol spelling =>
          obtain rfl : spelling = mark := of_decide_eq_true same
          rw [Part.inExpr, other] at within
          cases within
      | _ => cases same

namespace Expr

variable {expr : Expr}

theorem lacks {isMark : Piece → Bool}
    (outside : ∀ part : Piece, part.inExpr = true → isMark part = false) (expr : Expr) :
    Part.Lacks Content.ofParts? isMark expr.trees :=
  fun part member => outside part (inExpr_parts Content.ofParts? expr part member)

theorem lacks_keyword {word : String} (other : (Word.keyword word).inExpr = false)
    (expr : Expr) : Part.Lacks Content.ofParts? (Part.isKeyword word) expr.trees :=
  expr.lacks fun _ within => Part.isKeyword_of_inExpr within other

theorem lacks_comma (expr : Expr) :
    Part.Lacks Content.ofParts? (Part.isSymbol ",") expr.trees :=
  expr.lacks fun _ within => Part.isSymbol_of_inExpr within rfl

/-- Nothing is read as an expression where there is no part. -/
theorem trees_ne_nil_of_ofParts? {reading : Expr} (read : ofParts? expr.pieces = some reading) :
    expr.trees ≠ [] := by
  intro empty
  have none : expr.pieces = [] := by simp [pieces, parts, empty]
  rw [none] at read
  cases read

theorem IsReadable.trees_ne_nil (readable : expr.IsReadable) : expr.trees ≠ [] := by
  refine Expr.trees_ne_nil ?_
  rintro rfl
  exact readable rfl

end Expr

/-- A row without SELECT is a list. -/
theorem Content.ofParts?_list {parts : List Piece} {elements : List Expr}
    (noQuery : ∀ part ∈ parts, part.isKeyword "SELECT" = false)
    (read : Part.members? Expr.ofParts? parts = some elements) :
    Content.ofParts? parts = some (.list elements) := by
  rw [Content.ofParts?.eq_def]
  split
  · have opens := noQuery _ (List.mem_cons_self ..)
    cases opens
  · simp [read]

namespace Expr

variable {expr : Expr} {elements : List Expr}

theorem content_separated {reading : Expr → Expr}
    (read : ∀ element ∈ elements, ofParts? element.pieces = some (reading element)) :
    Content.ofParts? (TokenTree.pieces (TokenTree.separated "," (elements.map trees))) =
      some (.list (elements.map reading)) := by
  apply Content.ofParts?_list
  · refine Part.Lacks.separated rfl ?_
    rw [List.forall_mem_map]
    exact fun element _ => element.lacks_keyword rfl
  · refine Part.members?_separated elements ?_ ?_ ?_
    · exact fun element member => trees_ne_nil_of_ofParts? (read element member)
    · exact fun element _ => element.lacks_comma
    · exact read

theorem content_single {reading : Expr} (read : ofParts? expr.pieces = some reading) :
    Content.ofParts? (TokenTree.pieces expr.trees) = some (.list [reading]) := by
  have list : Content.ofParts? (TokenTree.pieces (TokenTree.separated "," ([expr].map trees))) =
      some (.list ([expr].map fun _ => reading)) :=
    content_separated (List.forall_mem_singleton.mpr read)
  simpa using list

end Expr

/-! ## Queries -/

section Query

variable {isMark : Piece → Bool}

theorem SelectItem.lacks (outside : ∀ part : Piece, part.inExpr = true → isMark part = false)
    (keyword : isMark (.word (.keyword "AS")) = false) (item : SelectItem) :
    Part.Lacks Content.ofParts? isMark item.trees := by
  rcases item with ⟨expr, label⟩
  cases label with
  | none => exact expr.lacks outside
  | some label =>
      rw [SelectItem.trees, Part.Lacks.append, Part.Lacks.leaf_cons, Part.Lacks.leaf_cons]
      exact ⟨expr.lacks outside, keyword, outside _ rfl, .nil⟩

theorem OrderKey.lacks (outside : ∀ part : Piece, part.inExpr = true → isMark part = false)
    (keyword : ∀ direction : Direction, isMark (.word (.keyword direction.sql)) = false)
    (key : OrderKey) : Part.Lacks Content.ofParts? isMark key.trees := by
  rcases key with ⟨expr, direction⟩
  cases direction with
  | none => exact expr.lacks outside
  | some direction =>
      rw [OrderKey.trees, Part.Lacks.append, Part.Lacks.leaf_cons]
      exact ⟨expr.lacks outside, keyword direction, .nil⟩

/-- What stands behind an expression is cut off from it. -/
theorem Expr.cut_inExpr (expr : Expr) {back : List Piece}
    (stop : ∀ part ∈ back.head?, part.inExpr = false) :
    (expr.pieces ++ back).takeWhile Part.inExpr = expr.pieces ∧
      (expr.pieces ++ back).dropWhile Part.inExpr = back :=
  takeWhile_append_of_stop (Expr.inExpr_parts Content.ofParts? expr) stop

theorem SelectItem.ofParts?_trees (item : SelectItem) (back : item.expr.IsReadBack) :
    SelectItem.ofParts? (TokenTree.pieces item.trees) =
      some (item.rebuild Expr.relinked id) := by
  rcases item with ⟨expr, label⟩
  have read := back.ofParts?
  cases label with
  | none =>
      have stop : ∀ part ∈ ([] : List Piece).head?, part.inExpr = false := by simp
      rcases expr.cut_inExpr stop with ⟨taken, dropped⟩
      rw [List.append_nil] at taken dropped
      show SelectItem.ofParts? expr.pieces = some ⟨expr.leftChained, none⟩
      simp [SelectItem.ofParts?, taken, dropped, read]
  | some label =>
      have stop : ∀ part ∈ [Part.word (.keyword "AS"), (.word (nameWord label) : Piece)].head?,
          part.inExpr = false := by
        simp [Part.inExpr, Word.inExpr]
      rcases expr.cut_inExpr stop with ⟨taken, dropped⟩
      have row : TokenTree.pieces (SelectItem.trees ⟨expr, some label⟩) =
          expr.pieces ++ [.word (.keyword "AS"), .word (nameWord label)] := by
        simp [TokenTree.pieces, SelectItem.trees, Expr.pieces, Expr.parts]
      show SelectItem.ofParts? _ = some ⟨expr.leftChained, some label⟩
      rw [row, SelectItem.ofParts?, taken, dropped, read]
      rfl

theorem OrderKey.ofParts?_trees (key : OrderKey) (back : key.expr.IsReadBack) :
    OrderKey.ofParts? (TokenTree.pieces key.trees) = some (key.rebuild Expr.relinked id) := by
  rcases key with ⟨expr, direction⟩
  have read := back.ofParts?
  cases direction with
  | none =>
      have stop : ∀ part ∈ ([] : List Piece).head?, part.inExpr = false := by simp
      rcases expr.cut_inExpr stop with ⟨taken, dropped⟩
      rw [List.append_nil] at taken dropped
      show OrderKey.ofParts? expr.pieces = some ⟨expr.leftChained, none⟩
      simp [OrderKey.ofParts?, taken, dropped, read]
  | some direction =>
      have stop : ∀ part ∈ [(Part.word (.keyword direction.sql) : Piece)].head?,
          part.inExpr = false := by
        cases direction <;> simp [Part.inExpr, Word.inExpr, Direction.sql]
      have known : Direction.ofWord? direction.sql = some direction := by
        cases direction <;> rfl
      rcases expr.cut_inExpr stop with ⟨taken, dropped⟩
      have row : TokenTree.pieces (OrderKey.trees ⟨expr, some direction⟩) =
          expr.pieces ++ [.word (.keyword direction.sql)] := by
        simp [TokenTree.pieces, OrderKey.trees, Expr.pieces, Expr.parts]
      show OrderKey.ofParts? _ = some ⟨expr.leftChained, some direction⟩
      rw [row]
      simp [OrderKey.ofParts?, taken, dropped, read, known]

/-- The body of a clause that may be absent is read. -/
theorem mapM_clause {ι φ : Type} {write : ι → List TokenTree} {read? : List Piece → Option φ}
    {result : ι → φ} (body : Option ι)
    (each : ∀ item ∈ body, read? (TokenTree.pieces (write item)) = some (result item)) :
    ((body.map write).map fun trees =>
        [].map Part.word ++ trees.map (TokenTree.part Content.ofParts?)).mapM read? =
      some (body.map result) := by
  cases body with
  | none => rfl
  | some item =>
      have read := each item rfl
      rw [TokenTree.pieces] at read
      simp [read]

/-- A limit is read back if its number of rows is a literal. -/
theorem Limit.ofParts?_trees (limit : Limit) (integer : limit.count.IsInteger)
    (back : limit.count.IsReadBack) (others : ∀ offset ∈ limit.offset, offset.IsReadBack) :
    Limit.ofParts? (TokenTree.pieces limit.trees) = some (limit.rebuild Expr.relinked id) := by
  rcases limit with ⟨count, offset⟩
  have noOffset :
      Part.Lacks Content.ofParts? (Part.isBareWord "OFFSET") count.trees := by
    cases count with
    | integer digits =>
        apply Part.Lacks.words
        exact forall_mem_signedWords
          (fun word => (Part.word word : Piece).isBareWord "OFFSET" = false) .integer
          rfl rfl (fun _ => rfl) digits.toList
    | _ => exact integer.elim
  have opens : (Part.word (.name "OFFSET" false) : Piece).isBareWord "OFFSET" = true := by decide
  have cut := noOffset.cut_clause _ [] (offset.map Expr.trees) opens
  have tail := mapM_clause offset fun expr member => (others expr member).ofParts?
  have row : TokenTree.pieces (Limit.trees ⟨count, offset⟩) =
      (count.trees ++ clauseTrees [.name "OFFSET" false] (offset.map Expr.trees)).map
        (TokenTree.part Content.ofParts?) := by
    rw [TokenTree.pieces, Limit.trees, Expr.trees?_eq_map]
  have read : Expr.ofParts? (count.trees.map (TokenTree.part Content.ofParts?)) =
      some count.leftChained := back.ofParts?
  rw [row, Limit.ofParts?, cut]
  simp only [read, tail, Option.bind_eq_bind, Option.bind_some, Limit.rebuild,
    Expr.rebuild?_eq_map]
  rfl

theorem OrderKey.ofClause?_trees (keys : List OrderKey)
    (present : ∀ key ∈ keys, key.expr.IsReadable) (back : ∀ key ∈ keys, key.expr.IsReadBack) :
    OrderKey.ofClause? ((listTrees (keys.map OrderKey.trees)).map fun trees =>
        [Word.keyword "BY"].map .word ++ trees.map (TokenTree.part Content.ofParts?)) =
      some (keys.map (OrderKey.rebuild Expr.relinked id)) := by
  cases keys with
  | nil => rfl
  | cons first rest =>
      refine Part.members?_separated (first :: rest) ?_ ?_ ?_
      · intro key member
        have some := (present key member).trees_ne_nil
        rcases key with ⟨expr, direction⟩
        cases direction with
        | none => exact some
        | some direction => exact List.append_ne_nil_of_left_ne_nil some _
      · exact fun key _ => key.lacks (fun _ within => Part.isSymbol_of_inExpr within rfl)
          fun _ => rfl
      · exact fun key member => key.ofParts?_trees (back key member)

theorem SelectItem.members?_trees (items : List SelectItem)
    (present : ∀ item ∈ items, item.expr.IsReadable)
    (back : ∀ item ∈ items, item.expr.IsReadBack) :
    Part.members? SelectItem.ofParts?
        (TokenTree.pieces (TokenTree.separated "," (items.map SelectItem.trees))) =
      some (items.map (SelectItem.rebuild Expr.relinked id)) := by
  refine Part.members?_separated items ?_ ?_ ?_
  · intro item member
    have some := (present item member).trees_ne_nil
    rcases item with ⟨expr, label⟩
    cases label with
    | none => exact some
    | some label => exact List.append_ne_nil_of_left_ne_nil some _
  · exact fun item _ => item.lacks (fun _ within => Part.isSymbol_of_inExpr within rfl) rfl
  · exact fun item member => item.ofParts?_trees (back item member)

section Clauses

variable {word : String} (other : (Word.keyword word).inExpr = false)

include other

theorem SelectItem.lacks_keyword (noLabel : "AS" ≠ word) (items : List SelectItem) :
    Part.Lacks Content.ofParts? (Part.isKeyword word)
      (TokenTree.separated "," (items.map SelectItem.trees)) := by
  refine Part.Lacks.separated rfl ?_
  rw [List.forall_mem_map]
  exact fun item _ => item.lacks (fun _ within => Part.isKeyword_of_inExpr within other)
    (decide_eq_false noLabel)

theorem Expr.lacks_filter (opens : "WHERE" ≠ word) (filter : Option Expr) :
    Part.Lacks Content.ofParts? (Part.isKeyword word)
      (clauseTrees [.keyword "WHERE"] (filter.map Expr.trees)) := by
  refine Part.Lacks.clause (List.forall_mem_singleton.mpr (decide_eq_false opens)) ?_
  intro trees member
  rcases Option.map_eq_some_iff.mp member with ⟨expr, _, rfl⟩
  exact expr.lacks_keyword other

theorem OrderKey.lacks_keyword (opens : "ORDER" ≠ word) (follows : "BY" ≠ word)
    (noDirection : ∀ direction : Direction, direction.sql ≠ word) (keys : List OrderKey) :
    Part.Lacks Content.ofParts? (Part.isKeyword word)
      (clauseTrees [.keyword "ORDER", .keyword "BY"]
        (listTrees (keys.map OrderKey.trees))) := by
  refine Part.Lacks.clause ?_ ?_
  · rw [List.forall_mem_cons, List.forall_mem_singleton]
    exact ⟨decide_eq_false opens, decide_eq_false follows⟩
  · intro trees member
    cases keys with
    | nil => cases member
    | cons first rest =>
        cases member
        refine Part.Lacks.separated rfl ?_
        rw [List.forall_mem_map]
        exact fun key _ => key.lacks (fun _ within => Part.isKeyword_of_inExpr within other)
          fun direction => decide_eq_false (noDirection direction)

end Clauses

theorem lacks_source {word : String} (opens : "FROM" ≠ word) (table : String) :
    Part.Lacks Content.ofParts? (Part.isKeyword word)
      (clauseTrees [.keyword "FROM"] (some [.leaf (nameWord table)])) := by
  refine Part.Lacks.clause (List.forall_mem_singleton.mpr (decide_eq_false opens)) ?_
  rintro trees ⟨⟩
  rw [Part.Lacks.leaf_cons]
  exact ⟨rfl, .nil⟩

theorem Select.pieces_trees (items : List SelectItem) (table : String) (filter : Option Expr)
    (orderBy : List OrderKey) (limit : Option Limit) :
    TokenTree.pieces (Select.trees ⟨items, table, filter, orderBy, limit⟩) =
      .word (.keyword "SELECT") ::
        (TokenTree.separated "," (items.map SelectItem.trees) ++
          clauseTrees [.keyword "FROM"] (some [.leaf (nameWord table)]) ++
          clauseTrees [.keyword "WHERE"] (filter.map Expr.trees) ++
          clauseTrees [.keyword "ORDER", .keyword "BY"]
            (listTrees (orderBy.map OrderKey.trees)) ++
          clauseTrees [.keyword "LIMIT"] (limit.map Limit.trees)).map
            (TokenTree.part Content.ofParts?) := by
  rw [TokenTree.pieces, Select.trees, SelectItem.treeLists_eq_map, Expr.trees?_eq_map,
    OrderKey.treeLists_eq_map, Limit.trees?_eq_map]
  simp [clauseTrees]

/-- A query is read back, clause by clause from the last one on. -/
theorem Select.ofParts?_trees (items : List SelectItem) (table : String) (filter : Option Expr)
    (orderBy : List OrderKey) (limit : Option Limit)
    (present : ∀ item ∈ items, item.expr.IsReadable)
    (readItems : ∀ item ∈ items, item.expr.IsReadBack)
    (readFilter : ∀ expr ∈ filter, expr.IsReadBack)
    (sorted : ∀ key ∈ orderBy, key.expr.IsReadable)
    (readKeys : ∀ key ∈ orderBy, key.expr.IsReadBack)
    (integer : ∀ range ∈ limit, range.count.IsInteger)
    (readLimit : ∀ range ∈ limit, range.count.IsReadBack ∧
      ∀ offset ∈ range.offset, offset.IsReadBack) :
    Content.ofParts? (TokenTree.pieces (Select.trees ⟨items, table, filter, orderBy, limit⟩)) =
      some (.query (Select.leftChained ⟨items, table, filter, orderBy, limit⟩)) := by
  -- The last clause is cut off first, so all that stands in front has to lack its keyword.
  have projection (word : String) (other : (Word.keyword word).inExpr = false)
      (noLabel : "AS" ≠ word) := SelectItem.lacks_keyword other noLabel items
  have source (word : String) (opens : "FROM" ≠ word) := lacks_source opens table
  have filtered (word : String) (other : (Word.keyword word).inExpr = false)
      (opens : "WHERE" ≠ word) := Expr.lacks_filter other opens filter
  have ordered : Part.Lacks Content.ofParts? (Part.isKeyword "LIMIT")
      (clauseTrees [.keyword "ORDER", .keyword "BY"]
        (listTrees (orderBy.map OrderKey.trees))) :=
    OrderKey.lacks_keyword rfl (by decide) (by decide) (by rintro ⟨⟩ <;> decide) orderBy
  have cutFrom := (projection "FROM" rfl (by decide)).cut_clause (.keyword "FROM") []
    (some [.leaf (nameWord table)]) rfl
  have cutWhere := (Part.Lacks.append.mpr
    ⟨projection "WHERE" rfl (by decide), source "WHERE" (by decide)⟩).cut_clause
      (.keyword "WHERE") [] (filter.map Expr.trees) rfl
  have cutOrder := (Part.Lacks.append.mpr
    ⟨Part.Lacks.append.mpr ⟨projection "ORDER" rfl (by decide), source "ORDER" (by decide)⟩,
      filtered "ORDER" rfl (by decide)⟩).cut_clause (.keyword "ORDER") [.keyword "BY"]
        (listTrees (orderBy.map OrderKey.trees)) rfl
  have cutLimit := (Part.Lacks.append.mpr
    ⟨Part.Lacks.append.mpr
      ⟨Part.Lacks.append.mpr ⟨projection "LIMIT" rfl (by decide), source "LIMIT" (by decide)⟩,
        filtered "LIMIT" rfl (by decide)⟩, ordered⟩).cut_clause (.keyword "LIMIT") []
          (limit.map Limit.trees) rfl
  have projected := SelectItem.members?_trees items present readItems
  have tested := mapM_clause filter fun expr member => (readFilter expr member).ofParts?
  have keyed := OrderKey.ofClause?_trees orderBy sorted readKeys
  have ranged := mapM_clause limit fun range member =>
    range.ofParts?_trees (integer range member) (readLimit range member).1
      (readLimit range member).2
  rw [Select.pieces_trees]
  show (Select.ofParts? _).map Content.query = _
  rw [Select.ofParts?, cutLimit]
  simp only [cutOrder, cutWhere, cutFrom]
  rw [TokenTree.pieces] at projected
  simp only [projected, tested, keyed, ranged, Option.bind_eq_bind, Option.bind_some]
  simp only [Select.leftChained, Select.rebuild, SelectItem.rebuildAll_eq_map,
    Expr.rebuild?_eq_map, OrderKey.rebuildAll_eq_map, Limit.rebuild?_eq_map]
  rfl

end Query

/-! ## Every readable expression -/

namespace Expr

variable {expr : Expr}

theorem leftChained_of_isLeaf (isLeaf : expr.IsLeaf) : expr.leftChained = expr := by
  cases expr with
  | path segments => exact congrArg path (List.map_id segments)
  | array => exact isLeaf.elim
  | binary => exact isLeaf.elim
  | isNull => exact isLeaf.elim
  | isIn => exact isLeaf.elim
  | between => exact isLeaf.elim
  | subquery => exact isLeaf.elim
  | paren => exact isLeaf.elim
  | _ => rfl

theorem isOperand_of_isLeaf (isLeaf : expr.IsLeaf) (readable : expr.IsReadableNode) :
    expr.IsOperand := by
  cases expr with
  | path segments => exact readable
  | array => exact isLeaf.elim
  | binary => exact isLeaf.elim
  | isNull => exact isLeaf.elim
  | isIn => exact isLeaf.elim
  | between => exact isLeaf.elim
  | subquery => exact isLeaf.elim
  | paren => exact isLeaf.elim
  | _ => trivial

section Groups

variable {elements : List Expr} {query : Select}

theorem IsReadBack.of_array
    (content : Content.ofParts? (TokenTree.pieces (TokenTree.separated "," (elements.map trees))) =
      some (.list (elements.map leftChained))) :
    (array elements).IsReadBack := by
  have row : (array elements).pieces =
      [.word (.keyword "ARRAY"), .group .square (Content.ofParts?
        (TokenTree.pieces (TokenTree.separated "," (elements.map trees))))] := by
    simp [pieces, parts, trees, TokenTree.pieces]
  refine .of_operand trivial ?_
  rw [row, content]
  simp only [ofOperand?, ofKeyword?, leftChained, rebuild, relinked, rebuildAll_eq_map]
  rfl

theorem IsReadBack.of_subquery (form : SubqueryForm)
    (content : Content.ofParts? (TokenTree.pieces query.trees) =
      some (.query query.leftChained)) :
    (subquery form query).IsReadBack := by
  refine .of_operand trivial ?_
  cases form with
  | scalar =>
      have row : (subquery .scalar query).pieces =
          [.group .round (Content.ofParts? (TokenTree.pieces query.trees))] := by
        simp [pieces, parts, trees, TokenTree.pieces]
      rw [row, content]
      rfl
  | array =>
      have row : (subquery .array query).pieces =
          [.word (.keyword "ARRAY"),
            .group .round (Content.ofParts? (TokenTree.pieces query.trees))] := by
        simp [pieces, parts, trees, TokenTree.pieces]
      rw [row, content]
      rfl

theorem IsReadBack.of_paren
    (content : Content.ofParts? (TokenTree.pieces expr.trees) =
      some (.list [expr.leftChained])) :
    (paren expr).IsReadBack := by
  have row : (paren expr).pieces =
      [.group .round (Content.ofParts? (TokenTree.pieces expr.trees))] := by
    simp [pieces, parts, trees, TokenTree.pieces]
  refine .of_operand trivial ?_
  rw [row, content]
  rfl

end Groups

-- Groups are read on their own, so each case is left with the row around them.
theorem readBack_all :
    (∀ expr : Expr, expr.IsReadable → expr.IsReadBack) ∧
      (∀ candidates : Candidates,
        candidates.Every IsReadableNode Select.IsReadableNode →
          Candidates.ofParts? (TokenTree.pieces candidates.trees) =
            some (candidates.rebuild relinked id)) ∧
      ∀ query : Select, query.IsReadable →
        Content.ofParts? (TokenTree.pieces query.trees) = some (.query query.leftChained) := by
  apply Expr.Cases.all
  constructor
  case leaf =>
    intro expr isLeaf readable
    have node := readable.self
    refine .of_operand (isOperand_of_isLeaf isLeaf node) ?_
    rw [leftChained_of_isLeaf isLeaf]
    exact ofOperand?_leaf isLeaf node
  case array =>
    intro elements ih readable
    have each := (everyAll_iff _ _ _).mp readable.2
    exact .of_array (content_separated fun element member =>
      (ih element member (each element member)).ofParts?)
  case binary =>
    intro operator left right first second readable
    rcases readable with ⟨node, readLeft, readRight⟩
    have back := first readLeft
    have following := second readRight
    cases operator with
    | logical connective => exact back.logical following node.1 node.2
    | _ =>
        exact .of_test ⟨rfl, node⟩ (ofFactor?_comparison rfl node.1
          (back.operand node.1) (following.operand node.2))
  case isNull =>
    intro operand negated ih readable
    rcases readable with ⟨node, readOperand⟩
    exact .of_test node (ofFactor?_isNull negated node ((ih readOperand).operand node))
  case isIn =>
    intro operand candidates negated first second readable
    rcases readable with ⟨node, readOperand, readCandidates⟩
    exact .of_test node
      (ofFactor?_isIn negated node ((first readOperand).operand node) (second readCandidates))
  case between =>
    intro operand low high negated first second third readable
    rcases readable with ⟨node, readOperand, readLow, readHigh⟩
    exact .of_test node
      (ofFactor?_between negated node.1 node.2.1 ((first readOperand).operand node.1)
        ((second readLow).operand node.2.1) ((third readHigh).operand node.2.2))
  case subquery =>
    intro form query ih readable
    exact .of_subquery form (ih readable.2)
  case paren =>
    intro inner ih readable
    exact .of_paren (content_single (ih readable.2).ofParts?)
  case values =>
    intro elements ih readable
    have each := (everyAll_iff _ _ _).mp readable
    have content := content_separated fun element member =>
      (ih element member (each element member)).ofParts?
    rw [Candidates.trees, treeLists_eq_map, TokenTree.pieces_group, content,
      Candidates.rebuild, rebuildAll_eq_map]
    rfl
  case unnest =>
    intro elements ih readable
    have content := content_single (ih readable).ofParts?
    have row : TokenTree.pieces (Candidates.unnest elements).trees =
        [.word (.keyword "UNNEST"),
          .group .round (Content.ofParts? (TokenTree.pieces elements.trees))] := by
      simp [TokenTree.pieces, Candidates.trees]
    rw [row, content]
    rfl
  case rows =>
    intro query ih readable
    rw [Candidates.trees, TokenTree.pieces_group, ih readable]
    rfl
  case query =>
    intro items table filter orderBy limit ofItems ofFilter ofKeys ofLimit readable
    rcases readable with ⟨node, inItems, inFilter, inKeys, inLimit⟩
    rw [SelectItem.everyAll_iff] at inItems
    rw [every?_iff] at inFilter
    rw [OrderKey.everyAll_iff] at inKeys
    rw [Limit.every?_iff] at inLimit
    apply Select.ofParts?_trees
    · exact inItems
    · exact fun item member => ofItems item member (inItems item member)
    · exact fun expr member => ofFilter expr member (inFilter expr member)
    · exact inKeys
    · exact fun key member => ofKeys key member (inKeys key member)
    · exact node
    · intro range member
      refine ⟨(ofLimit range member).1 (inLimit range member).1, fun offset inside => ?_⟩
      exact (ofLimit range member).2 offset inside ((inLimit range member).2 offset inside)

end Expr

theorem Expr.IsReadable.isReadBack {expr : Expr} (readable : expr.IsReadable) :
    expr.IsReadBack :=
  Expr.readBack_all.1 expr readable

/-! ## Statements -/

theorem lacks_pathTrees {isMark : Piece → Bool}
    (point : isMark (.word (.symbol ".")) = false)
    (name : ∀ segment, isMark (.word (nameWord segment)) = false) (segments : List String) :
    Part.Lacks Content.ofParts? isMark (pathTrees segments) := by
  rw [Part.Lacks, List.forall_mem_map]
  intro tree member
  obtain ⟨word, rfl, other⟩ :=
    forall_mem_pathTrees (fun word => isMark (.word word) = false) point name segments tree member
  rw [TokenTree.part_leaf]
  exact other

/-- The columns of an INSERT are read as paths of one segment. -/
theorem content_columns (columns : List String) :
    Content.ofParts? (TokenTree.pieces
        (TokenTree.separated "," (columns.map fun column => [.leaf (nameWord column)]))) =
      some (.list (columns.map Expr.name)) := by
  have readable : ∀ expr ∈ columns.map Expr.name, expr.IsReadable := by
    rw [List.forall_mem_map]
    exact fun column _ => List.cons_ne_nil _ _
  have content := Expr.content_separated fun expr member =>
    (readable expr member).isReadBack.ofParts?
  rw [List.map_map, List.map_map] at content
  exact content

theorem mapM_name? (columns : List String) :
    (columns.map Expr.name).mapM Expr.name? = some columns := by
  have names : columns.mapM (Expr.name? ∘ Expr.name) = some (columns.map id) :=
    Part.mapM_eq_some_map fun _ _ => rfl
  rw [List.map_id] at names
  rwa [List.mapM_map]

theorem cells?_rowTrees {cells : List Expr} (readable : ∀ cell ∈ cells, cell.IsReadable) :
    cells? (TokenTree.pieces (rowTrees cells)) = some (cells.map Expr.leftChained) := by
  have content := Expr.content_separated fun cell member =>
    (readable cell member).isReadBack.ofParts?
  have row : TokenTree.pieces (rowTrees cells) =
      [.group .round (Content.ofParts? (TokenTree.pieces
        (TokenTree.separated "," (cells.map Expr.trees))))] := by
    simp [TokenTree.pieces, rowTrees]
  rw [row, content]
  rfl

/-- An INSERT is read back, with each cell in its row and at its place. -/
theorem Insert.ofParts?_trees (command : Insert)
    (readable : ∀ cells ∈ command.rows, ∀ cell ∈ cells, cell.IsReadable) :
    Statement.ofParts? (TokenTree.pieces command.trees) =
      some (Statement.insert command).leftChained := by
  have rows : Part.members? cells?
      (TokenTree.pieces (TokenTree.separated "," (command.rows.map rowTrees))) =
        some (command.rows.map (List.map Expr.leftChained)) := by
    apply Part.members?_separated
    · exact fun cells _ => List.cons_ne_nil _ _
    · exact fun cells _ => by simp [Part.Lacks, rowTrees, Part.isSymbol]
    · exact fun cells member => cells?_rowTrees (readable cells member)
  have row : TokenTree.pieces command.trees =
      .word (.name "INSERT" false) :: .word (.keyword "INTO") :: .word (nameWord command.table) ::
        .group .round (Content.ofParts? (TokenTree.pieces (TokenTree.separated ","
          (command.columns.map fun column => [.leaf (nameWord column)])))) ::
        .word (.name "VALUES" false) ::
        TokenTree.pieces (TokenTree.separated "," (command.rows.map rowTrees)) := by
    simp [TokenTree.pieces, Insert.trees]
  have opens : (Part.word (.name "INSERT" false) : Piece).isBareWord "INSERT" = true := by decide
  have values : (Part.word (.name "VALUES" false) : Piece).isBareWord "VALUES" = true := by decide
  rw [row, content_columns]
  simp only [Statement.ofParts?, Part.isKeyword, opens, Bool.false_eq_true, if_false, if_true,
    Insert.ofParts?, nameWord, values, mapM_name?, rows]
  rw [Statement.leftChained, Statement.rebuild, List.map_id]
  rfl

theorem Assignment.ofParts?_trees (assignment : Assignment) (present : assignment.target ≠ [])
    (readable : assignment.value.IsReadable) :
    Assignment.ofParts? (TokenTree.pieces assignment.trees) =
      some ⟨assignment.target, assignment.value.leftChained⟩ := by
  have target := path?_pathTrees present
  have value := readable.isReadBack.ofParts?
  have noMark : Part.Lacks Content.ofParts? (Part.isSymbol "=") (pathTrees assignment.target) :=
    lacks_pathTrees rfl (fun _ => rfl) _
  have opens : (Part.word (.symbol "=") : Piece).isSymbol "=" = true := rfl
  have cut := Part.cut_append_cons noMark opens assignment.value.pieces
  have row : TokenTree.pieces assignment.trees =
      (pathTrees assignment.target).map (TokenTree.part Content.ofParts?) ++
        .word (.symbol "=") :: assignment.value.pieces := by
    simp [TokenTree.pieces, Assignment.trees, Expr.pieces, Expr.parts]
  rw [TokenTree.pieces] at target
  rw [row, Assignment.ofParts?, cut]
  simp [target, value]

theorem Assignment.lacks {isMark : Piece → Bool}
    (outside : ∀ part : Piece, part.inExpr = true → isMark part = false)
    (assignment : Assignment) :
    Part.Lacks Content.ofParts? isMark assignment.trees := by
  rw [Assignment.trees, Part.Lacks.append, Part.Lacks.leaf_cons]
  exact ⟨lacks_pathTrees (outside _ rfl) (fun _ => outside _ rfl) _, outside _ rfl,
    assignment.value.lacks outside⟩

theorem Update.ofParts?_trees (command : Update)
    (present : ∀ assignment ∈ command.assignments, assignment.target ≠ [])
    (readable : ∀ assignment ∈ command.assignments, assignment.value.IsReadable)
    (filtered : command.filter.IsReadable) :
    Statement.ofParts? (TokenTree.pieces command.trees) =
      some (Statement.update command).leftChained := by
  have assignments : Part.members? Assignment.ofParts? (TokenTree.pieces
      (TokenTree.separated "," (command.assignments.map Assignment.trees))) =
        some (command.assignments.map fun assignment =>
          ⟨assignment.target, assignment.value.leftChained⟩) := by
    apply Part.members?_separated
    · exact fun assignment _ => List.append_ne_nil_of_right_ne_nil _ (List.cons_ne_nil _ _)
    · exact fun assignment _ =>
        assignment.lacks fun _ within => Part.isSymbol_of_inExpr within rfl
    · exact fun assignment member =>
        assignment.ofParts?_trees (present assignment member) (readable assignment member)
  have filter : Expr.ofParts? (command.filter.trees.map (TokenTree.part Content.ofParts?)) =
      some command.filter.leftChained := filtered.isReadBack.ofParts?
  have noFilter : Part.Lacks Content.ofParts? (Part.isKeyword "WHERE")
      (TokenTree.separated "," (command.assignments.map Assignment.trees)) := by
    refine Part.Lacks.separated rfl ?_
    rw [List.forall_mem_map]
    exact fun assignment _ =>
      assignment.lacks fun _ within => Part.isKeyword_of_inExpr within rfl
  have cut := noFilter.cut_clause (.keyword "WHERE") [] (some command.filter.trees) rfl
  have row : TokenTree.pieces command.trees =
      .word (.name "UPDATE" false) :: .word (nameWord command.table) :: .word (.keyword "SET") ::
        (TokenTree.separated "," (command.assignments.map Assignment.trees) ++
          clauseTrees [.keyword "WHERE"] (some command.filter.trees)).map
            (TokenTree.part Content.ofParts?) := by
    simp [TokenTree.pieces, Update.trees]
  have other : (Part.word (.name "UPDATE" false) : Piece).isBareWord "INSERT" = false := by decide
  have opens : (Part.word (.name "UPDATE" false) : Piece).isBareWord "UPDATE" = true := by decide
  rw [TokenTree.pieces] at assignments
  rw [row]
  simp only [Statement.ofParts?, Part.isKeyword, other, opens, Bool.false_eq_true, if_false,
    if_true, Update.ofParts?, nameWord, cut, assignments, Option.map_some, List.map_nil,
    List.nil_append, Option.bind_eq_bind, Option.bind_some, filter]
  simp only [Statement.leftChained, Statement.rebuild, List.map_id]
  rfl

theorem Delete.ofParts?_trees (command : Delete) (filtered : command.filter.IsReadable) :
    Statement.ofParts? (TokenTree.pieces command.trees) =
      some (Statement.delete command).leftChained := by
  have filter := filtered.isReadBack.ofParts?
  have row : TokenTree.pieces command.trees =
      .word (.name "DELETE" false) :: .word (.keyword "FROM") :: .word (nameWord command.table) ::
        .word (.keyword "WHERE") :: command.filter.pieces := by
    simp [TokenTree.pieces, Delete.trees, clauseTrees, Expr.pieces, Expr.parts]
  have noInsert : (Part.word (.name "DELETE" false) : Piece).isBareWord "INSERT" = false := by
    decide
  have noUpdate : (Part.word (.name "DELETE" false) : Piece).isBareWord "UPDATE" = false := by
    decide
  have opens : (Part.word (.name "DELETE" false) : Piece).isBareWord "DELETE" = true := by decide
  rw [row]
  simp only [Statement.ofParts?, Part.isKeyword, noInsert, noUpdate, opens, Bool.false_eq_true,
    if_false, if_true, Delete.ofParts?, nameWord, filter]
  rfl

namespace Statement

variable {statement : Statement}

theorem ofParts?_trees (readable : statement.IsReadable) :
    ofParts? (TokenTree.pieces statement.trees) = some statement.leftChained := by
  cases statement with
  | select query =>
      have content := Expr.readBack_all.2.2 query readable.1
      obtain ⟨rest, row⟩ :
          ∃ rest, TokenTree.pieces query.trees = .word (.keyword "SELECT") :: rest := by
        rcases query with ⟨items, table, filter, orderBy, limit⟩
        exact ⟨_, rfl⟩
      show ofParts? (TokenTree.pieces query.trees) = _
      rw [row] at content ⊢
      rcases Option.map_eq_some_iff.mp content with ⟨other, read, same⟩
      cases same
      show (Select.ofParts? rest).map Statement.select = _
      rw [read]
      rfl
  | insert command => exact command.ofParts?_trees readable.1
  | update command => exact command.ofParts?_trees readable.2 readable.1.1 readable.1.2
  | delete command => exact command.ofParts?_trees readable.1

/-- The text of a readable statement is read as the statement. -/
theorem parse?_sql (readable : statement.IsReadable) :
    parse? statement.sql = some statement.leftChained := by
  have tokens := (statement.spells readable.wellSpelled).tokenize?_eq
  rw [parse?, sql, String.toList_ofList, tokens]
  simp only [Option.bind_eq_bind, Option.bind_some, TokenTree.group?_flatten]
  exact ofParts?_trees readable

end Statement

end SqlBuilder

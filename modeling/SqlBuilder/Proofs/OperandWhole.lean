import SqlBuilder.Proofs.OwnText
import SqlBuilder.Proofs.RoundTrip

/-!
# Operands that stay whole

Operands are written as they are.  A comparison or a test takes as its operands
what stands next to its words, up to the next word that no operand holds.  So the
text of a comparison is read as the comparison of its operands exactly where each
of them is a literal, an array, a path, a parameter, a subquery or an expression in
brackets.  What stands in brackets, as the elements of a list, the array behind
UNNEST and the query behind IN do, may be any expression.

An operand of a connective may be a comparison or a test as well, and only an OR
beside an AND is taken apart.
-/

namespace SqlBuilder

/-! ## Rows and connectives -/

namespace Part

variable {α φ : Type} {front back parts : List (Part α)}

section Rows

variable {factor? : List (Part α) → Option φ} {join : Connective → φ → φ → φ}

theorem chained?_singleton (step : φ → φ → φ) (link : φ) : chained? step [link] = some link := rfl

theorem chained?_cons (step : φ → φ → φ) (first : φ) (rest : List φ) :
    chained? step (first :: rest) = some (rest.foldl step first) := rfl

theorem mapM_ne_nil {β : Type} {convert : β → Option φ} {items : List β} {results : List φ}
    (present : items ≠ []) (collected : items.mapM convert = some results) : results ≠ [] := by
  obtain ⟨item, rest, rfl⟩ := List.exists_cons_of_ne_nil present
  rw [List.mapM_cons] at collected
  obtain ⟨first, -, later⟩ := Option.bind_eq_some_iff.mp collected
  obtain ⟨others, -, same⟩ := Option.bind_eq_some_iff.mp later
  cases same
  exact List.cons_ne_nil _ _

/-- Two rows that are converted in one go each have results of their own. -/
theorem exists_append_of_mapM {β : Type} {convert : β → Option φ} {leading trailing : List β}
    {results : List φ} (inFront : leading ≠ []) (inBack : trailing ≠ [])
    (collected : (leading ++ trailing).mapM convert = some results) :
    ∃ first second, first ≠ [] ∧ second ≠ [] ∧ results = first ++ second := by
  rw [List.mapM_append] at collected
  obtain ⟨first, readFirst, later⟩ := Option.bind_eq_some_iff.mp collected
  obtain ⟨second, readSecond, same⟩ := Option.bind_eq_some_iff.mp later
  cases same
  exact ⟨first, second, mapM_ne_nil inFront readFirst, mapM_ne_nil inBack readSecond, rfl⟩

/-- A row without OR is the chain of its factors. -/
theorem read?_of_noOr (noOr : ∀ part ∈ parts, part.isKeyword "OR" = false) :
    read? factor? join parts = (factors? factor? parts).bind (chained? (join .and)) := by
  have whole : disjuncts parts = [parts] := List.splitOnP_eq_singleton noOr
  rw [read?, terms?, whole]
  cases read : factors? factor? parts with
  | none => simp [read]
  | some factors =>
      cases links : chained? (join .and) factors <;> simp [read, links, chained?_singleton]

/-- A row of one factor is read as the factor. -/
theorem IsFactor.read?_eq (factor : IsFactor parts) :
    read? factor? join parts = factor? parts := by
  rw [read?_of_noOr factor.noOr, factors?, factor.whole]
  cases read : factor? parts <;> simp [read, chained?]

theorem chained?_append {step : φ → φ → φ} {links others : List φ} {first : φ}
    (chain : chained? step links = some first) :
    chained? step (links ++ others) = some (others.foldl step first) := by
  cases links with
  | nil => cases chain
  | cons head rest =>
      cases chain
      simp [chained?]

/-- The rows on both sides of an OR are read and joined. -/
theorem read?_or {first second : φ} (left : read? factor? join front = some first)
    (right : read? factor? join back = some second) :
    ∃ links, chained? (join .or) links = some second ∧
      read? factor? join (front ++ .word (.keyword "OR") :: back) =
        some (links.foldl (join .or) first) := by
  obtain ⟨terms, readTerms, later⟩ := Option.bind_eq_some_iff.mp left
  obtain ⟨links, joined, chain⟩ := Option.bind_eq_some_iff.mp later
  obtain ⟨others, readOthers, later⟩ := Option.bind_eq_some_iff.mp right
  obtain ⟨following, joinedOthers, last⟩ := Option.bind_eq_some_iff.mp later
  refine ⟨following, last, ?_⟩
  have whole : terms? factor? (front ++ .word (.keyword "OR") :: back) = some (terms ++ others) :=
    ReadsDisjunction.or readTerms readOthers
  simp [read?, whole, joined, joinedOthers, chained?_append chain]

/-- The rows on both sides of an AND are read and joined, where no OR stands in them. -/
theorem read?_and {first second : φ} (noOr : ∀ part ∈ front, part.isKeyword "OR" = false)
    (noMore : ∀ part ∈ back, part.isKeyword "OR" = false)
    (left : read? factor? join front = some first)
    (right : read? factor? join back = some second) :
    ∃ links, chained? (join .and) links = some second ∧
      read? factor? join (front ++ .word (.keyword "AND") :: back) =
        some (links.foldl (join .and) first) := by
  rw [read?_of_noOr noOr] at left
  rw [read?_of_noOr noMore] at right
  obtain ⟨factors, readFactors, chain⟩ := Option.bind_eq_some_iff.mp left
  obtain ⟨others, readOthers, last⟩ := Option.bind_eq_some_iff.mp right
  refine ⟨others, last, ?_⟩
  obtain ⟨whole, read⟩ := ReadsConjunction.and ⟨noOr, readFactors⟩ ⟨noMore, readOthers⟩
  rw [read?_of_noOr whole, read, Option.bind_some, chained?_append chain]

/-- A row with an OR is read as two readings joined by OR. -/
theorem exists_join_of_or {reading : φ} (holds : ∃ part ∈ parts, part.isKeyword "OR" = true)
    (read : read? factor? join parts = some reading) :
    ∃ first second, reading = join .or first second := by
  obtain ⟨part, member, same⟩ := holds
  obtain ⟨front, back, rfl⟩ := List.append_of_mem member
  obtain rfl := eq_of_isKeyword same
  have cut : disjuncts (front ++ .word (.keyword "OR") :: back) =
      disjuncts front ++ disjuncts back :=
    List.splitOnP_append_cons front back rfl
  obtain ⟨terms, gathered, later⟩ := Option.bind_eq_some_iff.mp read
  obtain ⟨links, chains, chain⟩ := Option.bind_eq_some_iff.mp later
  rw [terms?, cut] at gathered
  obtain ⟨leading, trailing, someLeading, someTrailing, rfl⟩ :=
    exists_append_of_mapM (List.splitOnP_ne_nil _ front) (List.splitOnP_ne_nil _ back) gathered
  obtain ⟨heads, tails, someHeads, someTails, rfl⟩ :=
    exists_append_of_mapM someLeading someTrailing chains
  obtain ⟨head, rest, rfl⟩ := List.exists_cons_of_ne_nil someHeads
  rw [chained?_append (chained?_cons ..), ← List.dropLast_concat_getLast someTails,
    List.foldl_append] at chain
  cases chain
  exact ⟨_, _, rfl⟩

end Rows

end Part

/-! ## The shape of a reading -/

namespace Expr

variable {parts : List Piece} {expr reading operand left right low high : Expr}

theorem topOperator?_ne_logical_of_ofFactor? (read : ofFactor? parts = some expr)
    (connective : Connective) : expr.topOperator? ≠ some (.logical connective) := by
  rcases (isFactorOf_ofFactor? read).1 with isOperand | test
  · rw [isOperand.topOperator?_eq_none]
    exact nofun
  · exact test.topOperator?_ne_logical

/-- What may be read: an operand, a test of operands, or what connectives join. -/
def IsReading (expr : Expr) : Prop :=
  (∃ connective, expr.topOperator? = some (.logical connective)) ∨ expr.IsOperand ∨ expr.IsTest

theorem isReading_of_ofParts? (read : ofParts? parts = some expr) : expr.IsReading :=
  Part.made_of_read? (fun connective _ _ _ _ => .inl ⟨connective, rfl⟩)
    (fun _ _ _ made => .inr (isFactorOf_ofFactor? made).1) read

/-- An OR is at the top of a reading exactly where one stands in the row. -/
theorem topOperator?_eq_or_iff (read : ofParts? parts = some expr) :
    expr.topOperator? = some (.logical .or) ↔
      ∃ part ∈ parts, part.isKeyword "OR" = true := by
  constructor
  · intro top
    by_contra absent
    have noOr : ∀ part ∈ parts, part.isKeyword "OR" = false := by simpa using absent
    rw [ofParts?, Part.read?_of_noOr noOr] at read
    obtain ⟨factors, found, chain⟩ := Option.bind_eq_some_iff.mp read
    have links : ∀ factor ∈ factors, factor.topOperator? ≠ some (.logical .or) := by
      intro factor member
      obtain ⟨pieces, -, collected⟩ := Option.bind_eq_some_iff.mp found
      obtain ⟨piece, -, made⟩ := Part.exists_of_mem_mapM collected factor member
      exact topOperator?_ne_logical_of_ofFactor? made .or
    exact Part.made_of_chained? (fun _ _ _ _ => by simp) links chain top
  · intro holds
    obtain ⟨first, second, rfl⟩ := Part.exists_join_of_or holds read
    rfl

/-! ## The shape of a left chained form -/

theorem isOperand_leftChained_iff (expr : Expr) :
    expr.leftChained.IsOperand ↔ expr.IsOperand := by
  cases expr with
  | path segments =>
      show segments.map id ≠ [] ↔ segments ≠ []
      rw [List.map_id]
  | binary operator left right =>
      refine iff_of_false (fun isOperand => ?_) id
      have top := isOperand.topOperator?_eq_none
      rw [topOperator?_leftChained] at top
      cases top
  | _ => exact Iff.rfl

theorem isTest_leftChained_iff (expr : Expr) : expr.leftChained.IsTest ↔ expr.IsTest := by
  cases expr with
  | binary operator left right =>
      cases operator with
      | logical connective =>
          refine iff_of_false (fun test => ?_) (fun test => ?_)
          · exact test.topOperator?_ne_logical (topOperator?_leftChained _)
          · exact test.topOperator?_ne_logical rfl
      | _ =>
          exact and_congr Iff.rfl
            (and_congr (isOperand_leftChained_iff left) (isOperand_leftChained_iff right))
  | isNull operand negated => exact isOperand_leftChained_iff operand
  | isIn operand candidates negated => exact isOperand_leftChained_iff operand
  | between operand low high negated =>
      exact and_congr (isOperand_leftChained_iff operand)
        (and_congr (isOperand_leftChained_iff low) (isOperand_leftChained_iff high))
  | _ => exact Iff.rfl

/-- What is read back is an operand, a test of operands, or what connectives join. -/
theorem ReadsBack.isReading (back : expr.ReadsBack) : expr.IsReading := by
  obtain ⟨-, reading, read, same⟩ := readsBack_iff.mp back
  have shape := isReading_of_ofParts? read
  rw [IsReading, ← topOperator?_leftChained, ← isOperand_leftChained_iff,
    ← isTest_leftChained_iff, same] at shape
  rwa [topOperator?_leftChained, isOperand_leftChained_iff, isTest_leftChained_iff] at shape

theorem ReadsBack.isTest (back : expr.ReadsBack)
    (noLogical : ∀ connective, expr.topOperator? ≠ some (.logical connective))
    (noOperand : ¬ expr.IsOperand) : expr.IsTest := by
  rcases back.isReading with ⟨connective, top⟩ | isOperand | test
  · exact absurd top (noLogical connective)
  · exact absurd isOperand noOperand
  · exact test

/-- No OR is at the top of what is read back exactly where none stands outside of brackets. -/
theorem ReadsBack.standsBeside_and_iff (back : expr.ReadsBack) :
    expr.StandsBeside .and ↔ ∀ part ∈ expr.pieces, part.isKeyword "OR" = false := by
  obtain ⟨-, reading, read, same⟩ := readsBack_iff.mp back
  have top := topOperator?_eq_or_iff read
  rw [← topOperator?_leftChained, same, topOperator?_leftChained] at top
  simpa [StandsBeside] using not_congr top

/-! ## Comparisons and tests that are read back -/

/-- An operand that is read back is read as an operand. -/
theorem ReadsBack.ofOperand? (back : expr.ReadsBack) (isOperand : expr.IsOperand) :
    ∃ reading, ofOperand? expr.pieces = some reading ∧
      reading.leftChained = expr.leftChained := by
  obtain ⟨-, reading, read, same⟩ := readsBack_iff.mp back
  have inside := inOperand_parts Content.ofParts? isOperand
  have stop : ∀ part ∈ ([] : List Piece).head?, part.inOperand = false := by simp
  have factor : Part.IsFactor expr.pieces :=
    .of_ordinary fun part member => (Part.InTest.of_inOperand (inside part member)).ordinary
  rcases takeWhile_append_of_stop inside stop with ⟨taken, dropped⟩
  rw [List.append_nil] at taken dropped
  rw [ofParts?, factor.read?_eq] at read
  obtain ⟨operand, first, test⟩ := Option.bind_eq_some_iff.mp read
  have front : expr.pieces.takeWhile Part.inOperand = expr.pieces := taken
  have back : expr.pieces.dropWhile Part.inOperand = [] := dropped
  rw [front] at first
  rw [back] at test
  cases test
  exact ⟨reading, first, same⟩

theorem readsBack_of_isTest (test : expr.IsTest) (alone : expr.StandsAlone)
    (read : ofFactor? expr.pieces = some reading)
    (same : reading.leftChained = expr.leftChained) : expr.ReadsBack := by
  have factor : Part.IsFactor expr.pieces := isFactor_of_isTest Content.ofParts? test
  refine readsBack_iff.mpr ⟨alone, reading, ?_, same⟩
  rw [ofParts?, factor.read?_eq, read]

/-- A comparison is read back exactly where both of its sides are operands. -/
theorem readsBack_comparison_iff {operator : Operator} (comparison : operator.isLogical = false)
    (first : left.ReadsBack) (second : right.ReadsBack) :
    (binary operator left right).ReadsBack ↔ left.IsOperand ∧ right.IsOperand := by
  constructor
  · intro back
    refine (back.isTest ?_ id).2
    rintro connective ⟨⟩
    cases comparison
  · intro operands
    obtain ⟨leftReading, readLeft, sameLeft⟩ := first.ofOperand? operands.1
    obtain ⟨rightReading, readRight, sameRight⟩ := second.ofOperand? operands.2
    refine readsBack_of_isTest ⟨comparison, operands⟩
      ⟨trivial, first.standsAlone, second.standsAlone⟩
      (ofFactor?_comparison comparison operands.1 readLeft readRight) ?_
    rw [leftChained_binary, leftChained_binary, sameLeft, sameRight]

theorem readsBack_isNull_iff (negated : Bool) (first : operand.ReadsBack) :
    (isNull operand negated).ReadsBack ↔ operand.IsOperand := by
  constructor
  · exact fun back => back.isTest nofun id
  · intro isOperand
    obtain ⟨reading, read, same⟩ := first.ofOperand? isOperand
    exact readsBack_of_isTest isOperand ⟨trivial, first.standsAlone⟩
      (ofFactor?_isNull negated isOperand read) (congrArg (isNull · negated) same)

theorem readsBack_between_iff (negated : Bool) (first : operand.ReadsBack)
    (second : low.ReadsBack) (third : high.ReadsBack) :
    (between operand low high negated).ReadsBack ↔
      operand.IsOperand ∧ low.IsOperand ∧ high.IsOperand := by
  constructor
  · exact fun back => back.isTest nofun id
  · intro operands
    obtain ⟨reading, read, same⟩ := first.ofOperand? operands.1
    obtain ⟨lowReading, readLow, sameLow⟩ := second.ofOperand? operands.2.1
    obtain ⟨highReading, readHigh, sameHigh⟩ := third.ofOperand? operands.2.2
    refine readsBack_of_isTest operands
      ⟨trivial, first.standsAlone, second.standsAlone, third.standsAlone⟩
      (ofFactor?_between negated operands.1 operands.2.1 read readLow readHigh) ?_
    show between reading.leftChained lowReading.leftChained highReading.leftChained negated =
      between operand.leftChained low.leftChained high.leftChained negated
    rw [same, sameLow, sameHigh]

/-- Anything may stand beside an OR. -/
theorem standsBeside_or (expr : Expr) : expr.StandsBeside .or := by
  rintro ⟨⟩

/-- Links read behind an operand, and joined to it one by one, are read back as a chain. -/
theorem readsBack_of_links {connective : Connective} {links : List Expr}
    {leftReading rightReading : Expr}
    (alone : (binary (.logical connective) left right).StandsAlone)
    (sameLeft : leftReading.leftChained = left.leftChained)
    (sameRight : rightReading.leftChained = right.leftChained)
    (chain : Part.chained? (binary (.logical connective)) links = some rightReading)
    (read : ofParts? (binary (.logical connective) left right).pieces =
      some (links.foldl (binary (.logical connective)) leftReading)) :
    (binary (.logical connective) left right).ReadsBack := by
  refine readsBack_iff.mpr ⟨alone, _, read, ?_⟩
  rw [leftChained_foldl_chained chain, leftChained_binary, leftChained_binary, sameLeft, sameRight]

/-- What connectives join is read back exactly where no OR stands beside an AND. -/
theorem readsBack_logical_iff (connective : Connective) (first : left.ReadsBack)
    (second : right.ReadsBack) :
    (binary (.logical connective) left right).ReadsBack ↔
      left.StandsBeside connective ∧ right.StandsBeside connective := by
  have row : (binary (.logical connective) left right).pieces =
      left.pieces ++ .word (.keyword connective.sql) :: right.pieces := by
    simp [pieces, parts_binary, Operator.words]
  have alone : (binary (.logical connective) left right).StandsAlone :=
    ⟨trivial, first.standsAlone, second.standsAlone⟩
  obtain ⟨-, leftReading, readLeft, sameLeft⟩ := readsBack_iff.mp first
  obtain ⟨-, rightReading, readRight, sameRight⟩ := readsBack_iff.mp second
  cases connective with
  | or =>
      refine iff_of_true ?_ ⟨standsBeside_or left, standsBeside_or right⟩
      obtain ⟨links, chain, read⟩ := Part.read?_or readLeft readRight
      rw [Connective.sql] at row
      exact readsBack_of_links alone sameLeft sameRight chain ((congrArg ofParts? row).trans read)
  | and =>
      rw [first.standsBeside_and_iff, second.standsBeside_and_iff]
      constructor
      · intro back
        have noOr := back.standsBeside_and_iff.mp (by simp [StandsBeside])
        rw [row, List.forall_mem_append, List.forall_mem_cons] at noOr
        exact ⟨noOr.1, noOr.2.2⟩
      · rintro ⟨noLeft, noRight⟩
        obtain ⟨links, chain, read⟩ := Part.read?_and noLeft noRight readLeft readRight
        exact readsBack_of_links alone sameLeft sameRight chain
          ((congrArg ofParts? row).trans read)

end Expr

/-! ## Readings in brackets -/

/-- What an expression is read as, or the expression itself where it is not read. -/
def Expr.reread (expr : Expr) : Expr :=
  (Expr.ofParts? expr.pieces).getD expr

theorem Expr.ReadsBack.reread {expr : Expr} (back : expr.ReadsBack) :
    Expr.ofParts? expr.pieces = some expr.reread ∧
      expr.reread.leftChained = expr.leftChained := by
  obtain ⟨-, reading, read, same⟩ := Expr.readsBack_iff.mp back
  rw [Expr.reread, read]
  exact ⟨rfl, same⟩

/-- Brackets make an operand of whatever is read back. -/
theorem Expr.ReadsBack.paren {expr : Expr} (back : expr.ReadsBack) :
    (Expr.paren expr).ReadsBack := by
  have row : (Expr.paren expr).pieces =
      [.group .round (Content.ofParts? (TokenTree.pieces expr.trees))] := by
    simp [Expr.pieces, Expr.parts, Expr.trees, TokenTree.pieces]
  have factor : Part.IsFactor (Expr.paren expr).pieces := by
    rw [row]
    exact .of_ordinary (List.forall_mem_singleton.mpr (Part.InTest.group _ _).ordinary)
  refine Expr.readsBack_iff.mpr
    ⟨⟨trivial, back.standsAlone⟩, .paren expr.reread, ?_, congrArg Expr.paren back.reread.2⟩
  rw [Expr.ofParts?, factor.read?_eq, row, Expr.content_single back.reread.1]
  rfl

/-- The right side of IN is read as it is, up to how the chains in it are put together. -/
structure Candidates.ReadsBack (candidates : Candidates) : Prop where
  standsAlone : candidates.Every Expr.StandsForWords fun _ => True
  read : ∃ others, Candidates.ofParts? (TokenTree.pieces candidates.trees) = some others ∧
    others.rebuild Expr.relinked id = candidates.rebuild Expr.relinked id

namespace Candidates

variable {elements : List Expr} {array : Expr} {query : Select}

theorem ReadsBack.values (back : ∀ element ∈ elements, element.ReadsBack) :
    (Candidates.values elements).ReadsBack := by
  have content := Expr.content_separated fun element member => (back element member).reread.1
  refine ⟨(Expr.everyAll_iff _ _ _).mpr fun element member => (back element member).standsAlone,
    .values (elements.map Expr.reread), ?_, ?_⟩
  · rw [Candidates.trees, Expr.treeLists_eq_map, TokenTree.pieces_group, content]
    rfl
  · simp only [Candidates.rebuild, Expr.rebuildAll_eq_map, List.map_map]
    exact congrArg Candidates.values
      (List.map_congr_left fun element member => (back element member).reread.2)

theorem ReadsBack.unnest (back : array.ReadsBack) : (Candidates.unnest array).ReadsBack := by
  obtain ⟨alone, reading, read, same⟩ := Expr.readsBack_iff.mp back
  have content := Expr.content_single read
  have row : TokenTree.pieces (Candidates.unnest array).trees =
      [.word (.keyword "UNNEST"),
        .group .round (Content.ofParts? (TokenTree.pieces array.trees))] := by
    simp [TokenTree.pieces, Candidates.trees]
  refine ⟨alone, .unnest reading, ?_, congrArg Candidates.unnest same⟩
  rw [row, content]
  rfl

theorem ReadsBack.subquery (back : query.ReadsBack) : (Candidates.subquery query).ReadsBack := by
  obtain ⟨alone, reading, content, same⟩ := back.standsAlone_and_read
  refine ⟨alone, .subquery reading, ?_, congrArg Candidates.subquery same⟩
  rw [Candidates.trees, TokenTree.pieces_group, content]
  rfl

end Candidates

theorem Expr.readsBack_isIn_iff {operand : Expr} {candidates : Candidates} (negated : Bool)
    (first : operand.ReadsBack) (second : candidates.ReadsBack) :
    (Expr.isIn operand candidates negated).ReadsBack ↔ operand.IsOperand := by
  constructor
  · exact fun back => back.isTest nofun id
  · intro isOperand
    obtain ⟨reading, read, same⟩ := first.ofOperand? isOperand
    obtain ⟨others, readOthers, sameOthers⟩ := second.read
    refine readsBack_of_isTest isOperand ⟨trivial, first.standsAlone, second.standsAlone⟩
      (ofFactor?_isIn negated isOperand read readOthers) ?_
    show Expr.isIn reading.leftChained (others.rebuild relinked id) negated =
      Expr.isIn operand.leftChained (candidates.rebuild relinked id) negated
    rw [same, sameOthers]

/-! ## Conditions -/

/-- A value converts to an expression that is read back. -/
def Value.ReadsAs (value : Value) (expr : Expr) : Prop :=
  value.toExpr = .ok expr ∧ expr.ReadsBack

/-- Values convert, one by one, to expressions that are read back. -/
def Value.AllReadAs (values : List Value) (exprs : List Expr) : Prop :=
  values.map Value.toExpr = exprs.map .ok ∧ ∀ expr ∈ exprs, expr.ReadsBack

/-- A draft converts to a query that is read back. -/
def SelectDraft.ReadsAs (draft : SelectDraft) (query : Select) : Prop :=
  draft.toSelect = .ok query ∧ query.ReadsBack

/-- A condition converts to an expression, which is read back exactly where something holds. -/
def Condition.ReadsAsIff (condition : Condition) (expr : Expr) (whole : Prop) : Prop :=
  condition.toExpr = .ok expr ∧ (expr.ReadsBack ↔ whole)

theorem Value.IsReadable.readsAs {value : Value} {expr : Expr} (readable : value.IsReadable)
    (converted : value.toExpr = .ok expr) : value.ReadsAs expr ∧ expr.IsOperand := by
  have atom := value.isAtom readable expr converted
  exact ⟨⟨converted, atom.2.readsBack⟩, atom.1⟩

theorem SelectDraft.IsReadable.readsAs {draft : SelectDraft} {query : Select}
    (readable : draft.IsReadable) (converted : draft.toSelect = .ok query) :
    draft.ReadsAs query :=
  ⟨converted, Select.IsReadable.readsBack (draft.isReadable_toSelect readable query converted)⟩

/-- A condition with a fixed truth value is read back. -/
theorem Expr.readsBack_bool (value : Bool) : (Expr.bool value).ReadsBack :=
  Expr.IsReadable.readsBack trivial

namespace Condition

section Tests

variable {operand left right low high array : Value} {draft : SelectDraft}
variable {first second third : Expr} {query : Select}

theorem compare_toExpr (operator : Operator) (front : left.toExpr = .ok first)
    (back : right.toExpr = .ok second) :
    (compare operator left right).toExpr = .ok (.binary operator first second) := by
  rw [toExpr, front, back]
  rfl

theorem isNull_readsAsIff (negated : Bool) (front : operand.ReadsAs first) :
    (isNull operand negated).ReadsAsIff (.isNull first negated) first.IsOperand := by
  refine ⟨?_, Expr.readsBack_isNull_iff negated front.2⟩
  rw [toExpr, front.1]
  rfl

theorem inArray_readsAsIff (negated : Bool) (front : operand.ReadsAs first)
    (back : array.ReadsAs second) :
    (inArray operand array negated).ReadsAsIff (.isIn first (.unnest second) negated)
      first.IsOperand := by
  refine ⟨?_, Expr.readsBack_isIn_iff negated front.2 (.unnest back.2)⟩
  rw [toExpr, front.1, back.1]
  rfl

theorem inQuery_readsAsIff (negated : Bool) (front : operand.ReadsAs first)
    (back : draft.ReadsAs query) :
    (inQuery operand draft negated).ReadsAsIff (.isIn first (.subquery query) negated)
      first.IsOperand := by
  refine ⟨?_, Expr.readsBack_isIn_iff negated front.2 (.subquery back.2)⟩
  rw [toExpr, front.1, back.1]
  rfl

/-- An empty list leaves a truth value, which is read back whatever the operand is. -/
theorem inList_readsAsIff (negated : Bool) {elements : List Value} {exprs : List Expr}
    (front : operand.ReadsAs first) (back : Value.AllReadAs elements exprs) :
    (inList operand elements negated).ReadsAsIff (membership negated first exprs)
      (elements = [] ∨ first.IsOperand) := by
  constructor
  · have collected : Outcome.collect (Value.outcomes elements) = .ok exprs := by
      rw [Outcome.collect_eq_ok_iff, Value.outcomes_eq_map]
      exact back.1
    rw [toExpr, front.1, collected]
    rfl
  · cases exprs with
    | nil =>
        have empty : elements = [] := List.map_eq_nil_iff.mp back.1
        exact iff_of_true (Expr.readsBack_bool negated) (.inl empty)
    | cons element rest =>
        have present : elements ≠ [] := by
          rintro rfl
          cases back.1
        rw [or_iff_right present]
        exact Expr.readsBack_isIn_iff negated front.2 (.values back.2)

theorem between_readsAsIff (negated : Bool) (front : operand.ReadsAs first)
    (lower : low.ReadsAs second) (upper : high.ReadsAs third) :
    (between operand low high negated).ReadsAsIff (.between first second third negated)
      (first.IsOperand ∧ second.IsOperand ∧ third.IsOperand) := by
  refine ⟨?_, Expr.readsBack_between_iff negated front.2 lower.2 upper.2⟩
  rw [toExpr, front.1, lower.1, upper.1]
  rfl

end Tests

end Condition

/--
The conditions that compare and test operands convert to expressions over the converted
operands.  Each expression is read back exactly where the operands outside of brackets are
operands on their own; beside a connective it is enough that no OR stands beside an AND.
What stands in brackets may be anything.  Values that are readable, and expressions that have
been put in brackets, are operands on their own.
-/
theorem Condition.readsAsIff_operands :
    (∀ (operator : Operator) (left right : Value) (first second : Expr),
      operator.isLogical = false → left.ReadsAs first → right.ReadsAs second →
      (compare operator left right).ReadsAsIff (.binary operator first second)
        (first.IsOperand ∧ second.IsOperand)) ∧
    (∀ (connective : Connective) (left right : Value) (first second : Expr),
      left.ReadsAs first → right.ReadsAs second →
      (compare (.logical connective) left right).ReadsAsIff
        (.binary (.logical connective) first second)
        (first.StandsBeside connective ∧ second.StandsBeside connective)) ∧
    (∀ (operand : Value) (negated : Bool) (inner : Expr), operand.ReadsAs inner →
      (isNull operand negated).ReadsAsIff (.isNull inner negated) inner.IsOperand) ∧
    (∀ (operand elements : Value) (negated : Bool) (inner array : Expr),
      operand.ReadsAs inner → elements.ReadsAs array →
      (inArray operand elements negated).ReadsAsIff (.isIn inner (.unnest array) negated)
        inner.IsOperand) ∧
    (∀ (operand : Value) (elements : List Value) (negated : Bool) (inner : Expr)
      (exprs : List Expr), operand.ReadsAs inner → Value.AllReadAs elements exprs →
      (inList operand elements negated).ReadsAsIff (membership negated inner exprs)
        (elements = [] ∨ inner.IsOperand)) ∧
    (∀ (operand : Value) (draft : SelectDraft) (negated : Bool) (inner : Expr) (query : Select),
      operand.ReadsAs inner → draft.ReadsAs query →
      (inQuery operand draft negated).ReadsAsIff (.isIn inner (.subquery query) negated)
        inner.IsOperand) ∧
    (∀ (operand low high : Value) (negated : Bool) (inner lower upper : Expr),
      operand.ReadsAs inner → low.ReadsAs lower → high.ReadsAs upper →
      (between operand low high negated).ReadsAsIff (.between inner lower upper negated)
        (inner.IsOperand ∧ lower.IsOperand ∧ upper.IsOperand)) ∧
    (∀ (value : Value) (expr : Expr), value.IsReadable → value.toExpr = .ok expr →
      value.ReadsAs expr ∧ expr.IsOperand) ∧
    ∀ expr : Expr, expr.ReadsBack →
      (Value.expr (.paren expr)).ReadsAs (.paren expr) ∧ (Expr.paren expr).IsOperand := by
  refine ⟨?_, ?_, ?_, ?_, ?_, ?_, ?_, ?_, ?_⟩
  · exact fun operator left right first second comparison front back =>
      ⟨compare_toExpr operator front.1 back.1,
        Expr.readsBack_comparison_iff comparison front.2 back.2⟩
  · exact fun connective left right first second front back =>
      ⟨compare_toExpr (.logical connective) front.1 back.1,
        Expr.readsBack_logical_iff connective front.2 back.2⟩
  · exact fun operand negated inner front => isNull_readsAsIff negated front
  · exact fun operand elements negated inner array front back =>
      inArray_readsAsIff negated front back
  · exact fun operand elements negated inner exprs front back =>
      inList_readsAsIff negated front back
  · exact fun operand draft negated inner query front back =>
      inQuery_readsAsIff negated front back
  · exact fun operand low high negated inner lower upper front second third =>
      between_readsAsIff negated front second third
  · exact fun value expr readable converted => readable.readsAs converted
  · exact fun expr back => ⟨⟨rfl, back.paren⟩, trivial⟩

/-! ## An OR as an operand -/

/-- A choice between two columns. -/
def eitherColumn : Expr :=
  .binary (.logical .or) (.name "a") (.name "b")

theorem eitherColumn_readsBack : eitherColumn.ReadsBack :=
  Expr.IsReadable.readsBack
    ⟨⟨Expr.standsBeside_or _, Expr.standsBeside_or _⟩, List.cons_ne_nil _ _,
      List.cons_ne_nil _ _⟩

/-- In brackets the choice is an operand of every test; in a list it needs no brackets. -/
theorem eitherColumn_inBrackets :
    (Condition.compare .equal (.expr (.paren eitherColumn)) (.int 1)).toExpr =
        .ok (.binary .equal (.paren eitherColumn) (.ofInt64 1)) ∧
      (Expr.binary .equal (.paren eitherColumn) (.ofInt64 1)).ReadsBack ∧
      (Expr.binary .equal (.paren eitherColumn) (.ofInt64 1)).sql = "(a OR b) = 1" ∧
      (Expr.isNull (.paren eitherColumn) true).ReadsBack ∧
      (Expr.isIn (.name "c") (.unnest eitherColumn) false).ReadsBack ∧
      (Expr.isIn (.name "c") (.values [eitherColumn]) false).ReadsBack ∧
      (Expr.isIn (.name "c") (.subquery ⟨[columnItem "d"], "t", none, [], none⟩) true).ReadsBack ∧
      (Expr.between (.name "c") (.paren eitherColumn) (.ofInt64 1) false).ReadsBack ∧
      (Expr.binary (.logical .and) (.paren eitherColumn) (.name "c")).ReadsBack := by
  obtain ⟨comparison, chain, nullTest, arrayTest, listTest, queryTest, range, readable,
    bracketed⟩ := Condition.readsAsIff_operands
  have choice := bracketed eitherColumn eitherColumn_readsBack
  have number := readable (.int 1) (.ofInt64 1) trivial rfl
  have column := readable (.identifier ⟨["c"]⟩) (.name "c") trivial rfl
  have inner : (Value.expr eitherColumn).ReadsAs eitherColumn := ⟨rfl, eitherColumn_readsBack⟩
  have rows : (SelectDraft.ofColumns "t" ["d"]).ReadsAs ⟨[columnItem "d"], "t", none, [], none⟩ :=
    SelectDraft.IsReadable.readsAs ⟨trivial, trivial⟩ rfl
  have equal := comparison .equal _ _ _ _ rfl choice.1 number.1
  refine ⟨equal.1, equal.2.mpr ⟨choice.2, number.2⟩, by decide +kernel, ?_, ?_, ?_, ?_, ?_, ?_⟩
  · exact (nullTest _ true _ choice.1).2.mpr choice.2
  · exact (arrayTest _ _ false _ _ column.1 inner).2.mpr column.2
  · have list : Value.AllReadAs [.expr eitherColumn] [eitherColumn] :=
      ⟨rfl, List.forall_mem_singleton.mpr eitherColumn_readsBack⟩
    exact (listTest _ _ false _ _ column.1 list).2.mpr (.inr column.2)
  · exact (queryTest _ _ true _ _ column.1 rows).2.mpr column.2
  · exact (range _ _ _ false _ _ _ column.1 choice.1 number.1).2.mpr
      ⟨column.2, choice.2, number.2⟩
  · exact (chain .and _ _ _ _ choice.1 column.1).2.mpr
      ⟨choice.2.standsBeside .and, column.2.standsBeside .and⟩

/-- Without brackets the comparison takes the second column alone. -/
theorem eitherColumn_takenApart :
    (Value.expr eitherColumn).ReadsAs eitherColumn ∧ (Value.int 1).ReadsAs (.ofInt64 1) ∧
      (Condition.compare .equal (.expr eitherColumn) (.int 1)).toExpr =
        .ok (.binary .equal eitherColumn (.ofInt64 1)) ∧
      (Expr.binary .equal eitherColumn (.ofInt64 1)).sql = "a OR b = 1" ∧
      Expr.parse? "a OR b = 1" = some
        (.binary (.logical .or) (.name "a") (.binary .equal (.name "b") (.ofInt64 1))) ∧
      ¬ (Expr.binary .equal eitherColumn (.ofInt64 1)).ReadsBack := by
  have number : (Expr.ofInt64 1).IsAtom := ⟨trivial, 1, rfl⟩
  have other : (Expr.binary (.logical .or) (.name "a")
      (.binary .equal (.name "b") (.ofInt64 1))).IsReadable :=
    ⟨⟨Expr.standsBeside_or _, Expr.standsBeside_or _⟩, List.cons_ne_nil _ _,
      ⟨List.cons_ne_nil _ _, trivial⟩, List.cons_ne_nil _ _, 1, rfl⟩
  have read := (Expr.IsReadable.readsBack other).standsAlone.parse?_sql
  have text : (Expr.binary (.logical .or) (.name "a")
      (.binary .equal (.name "b") (.ofInt64 1))).sql = "a OR b = 1" := by
    decide +kernel
  rw [text] at read
  have one := Expr.IsReadable.readsBack number.2
  refine ⟨⟨rfl, eitherColumn_readsBack⟩, ⟨rfl, one⟩, rfl, by decide +kernel, ?_, ?_⟩
  · exact read.trans (Expr.IsReadable.isReadBack other).ofParts?
  · intro back
    exact ((Expr.readsBack_comparison_iff rfl eitherColumn_readsBack one).mp back).1

end SqlBuilder

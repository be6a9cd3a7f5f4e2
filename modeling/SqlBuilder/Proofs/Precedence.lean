import SqlBuilder.Proofs.ExprTokens

/-!
# Reading with precedence

Token trees are read from the innermost groups outwards: when a row of trees is
read, every group in it stands for what has been read inside.

A row is a disjunction of conjunctions of factors.  OR binds weaker than AND,
and AND weaker than everything else, save that the AND behind a BETWEEN belongs
to that BETWEEN.  Chains of one connective associate to the left.  What a factor
is, and what the connectives make of two readings, is left open here.
-/

namespace SqlBuilder

/-- A word, or a pair of brackets with what has been read between them. -/
inductive Part (α : Type) where
  | word (word : Word)
  | group (bracket : Bracket) (content : α)

namespace TokenTree

variable {α : Type} (read : List (Part α) → α)

mutual

/-- A tree with the groups in it read from the innermost ones outwards. -/
def part : TokenTree → Part α
  | .leaf word => .word word
  | .group bracket inner => .group bracket (read (parts inner))

/-- Trees in a row, each with its groups read. -/
def parts : List TokenTree → List (Part α)
  | [] => []
  | tree :: rest => tree.part :: parts rest

end

@[simp]
theorem parts_eq_map (trees : List TokenTree) : parts read trees = trees.map (part read) := by
  induction trees with
  | nil => rfl
  | cons tree rest ih => simp [parts, ih]

@[simp]
theorem part_leaf (word : Word) : (leaf word).part read = .word word := by
  simp [part]

@[simp]
theorem part_group (bracket : Bracket) (inner : List TokenTree) :
    (group bracket inner).part read = .group bracket (read (inner.map (part read))) := by
  simp [part]

end TokenTree

namespace Part

variable {α φ : Type}

/-- Whether a part is a certain reserved word. -/
def isKeyword (spelling : String) : Part α → Bool
  | .word (.keyword other) => other = spelling
  | _ => false

/-! ## Conjunctions and disjunctions -/

/--
The parts between the ANDs of a row.  `pending` counts the BETWEENs that still
wait for their AND; a row that ends while one waits is not read.
-/
def conjuncts? (pending : Nat) : List (Part α) → Option (List (List (Part α)))
  | [] => if pending = 0 then some [[]] else none
  | part :: rest =>
      if part.isKeyword "BETWEEN" then
        (conjuncts? (pending + 1) rest).map (List.modifyHead (part :: ·))
      else if part.isKeyword "AND" then
        if pending = 0 then
          (conjuncts? 0 rest).map ([] :: ·)
        else
          (conjuncts? (pending - 1) rest).map (List.modifyHead (part :: ·))
      else
        (conjuncts? pending rest).map (List.modifyHead (part :: ·))

/-- The parts between the ORs of a row. -/
def disjuncts (parts : List (Part α)) : List (List (Part α)) :=
  parts.splitOnP (isKeyword "OR")

/-- The factors of a conjunction. -/
def factors? (factor? : List (Part α) → Option φ) (parts : List (Part α)) : Option (List φ) :=
  (conjuncts? 0 parts).bind fun pieces => pieces.mapM factor?

/-- The factors of a disjunction of conjunctions. -/
def terms? (factor? : List (Part α) → Option φ) (parts : List (Part α)) :
    Option (List (List φ)) :=
  (disjuncts parts).mapM (factors? factor?)

/-- Readings joined into a chain that associates to the left. -/
def chained? (join : φ → φ → φ) : List φ → Option φ
  | [] => none
  | first :: rest => some (rest.foldl join first)

/-- The reading of a row, given how a factor is read and how two readings are joined. -/
def read? (factor? : List (Part α) → Option φ) (join : Connective → φ → φ → φ)
    (parts : List (Part α)) : Option φ := do
  let terms ← terms? factor? parts
  let conjunctions ← terms.mapM (chained? (join .and))
  chained? (join .or) conjunctions

/-! ## Rows put together -/

variable {front back parts : List (Part α)}

/-- A part that neither joins rows nor waits for an AND. -/
structure IsOrdinary (part : Part α) : Prop where
  noAnd : part.isKeyword "AND" = false
  noOr : part.isKeyword "OR" = false
  noBetween : part.isKeyword "BETWEEN" = false

/-- There is always a piece to read. -/
theorem conjuncts?_ne_nil {pending : Nat} {pieces : List (List (Part α))}
    (read : conjuncts? pending parts = some pieces) : pieces ≠ [] := by
  induction parts generalizing pending pieces with
  | nil =>
      simp only [conjuncts?] at read
      split at read
      · cases read
        exact List.cons_ne_nil _ _
      · cases read
  | cons part rest ih =>
      have kept {count : Nat}
          (found : (conjuncts? count rest).map (List.modifyHead (part :: ·)) = some pieces) :
          pieces ≠ [] := by
        rcases Option.map_eq_some_iff.mp found with ⟨others, inner, rfl⟩
        have present := ih inner
        cases others <;> simp_all
      simp only [conjuncts?] at read
      split at read
      · exact kept read
      split at read
      · split at read
        · rcases Option.map_eq_some_iff.mp read with ⟨others, _, rfl⟩
          exact List.cons_ne_nil _ _
        · exact kept read
      · exact kept read

/-- An AND that no BETWEEN waits for ends a row's conjuncts and starts the next row's. -/
theorem conjuncts?_and {pending : Nat} {pieces others : List (List (Part α))}
    (read : conjuncts? pending front = some pieces)
    (following : conjuncts? 0 back = some others) :
    conjuncts? pending (front ++ .word (.keyword "AND") :: back) = some (pieces ++ others) := by
  induction front generalizing pending pieces with
  | nil =>
      simp only [conjuncts?] at read
      split at read
      · subst pending
        cases read
        simp [conjuncts?, isKeyword, following]
      · simp at read
  | cons part rest ih =>
      -- All branches but one put the part into the first piece; they differ in the count alone.
      have kept {count : Nat}
          (found : (conjuncts? count rest).map (List.modifyHead (part :: ·)) = some pieces) :
          (conjuncts? count (rest ++ .word (.keyword "AND") :: back)).map
            (List.modifyHead (part :: ·)) = some (pieces ++ others) := by
        rcases Option.map_eq_some_iff.mp found with ⟨inner, readInner, rfl⟩
        rw [ih readInner]
        have present := conjuncts?_ne_nil readInner
        cases inner <;> simp_all
      simp only [List.cons_append, conjuncts?] at read ⊢
      split at read
      · rw [if_pos ‹_›]
        exact kept read
      rw [if_neg ‹_›]
      split at read
      · rw [if_pos ‹_›]
        split at read
        · rw [if_pos ‹_›]
          rcases Option.map_eq_some_iff.mp read with ⟨inner, readInner, rfl⟩
          rw [ih readInner]
          rfl
        · rw [if_neg ‹_›]
          exact kept read
      · rw [if_neg ‹_›]
        exact kept read

/-- Ordinary parts stay together in front of a row. -/
theorem conjuncts?_ordinary (pending : Nat) (back : List (Part α))
    (ordinary : ∀ part ∈ front, part.IsOrdinary) :
    conjuncts? pending (front ++ back) =
      (conjuncts? pending back).map (List.modifyHead (front ++ ·)) := by
  induction front with
  | nil =>
      show conjuncts? pending back = (conjuncts? pending back).map (List.modifyHead id)
      rw [List.modifyHead_id, Option.map_id]
      rfl
  | cons part rest ih =>
      rw [List.forall_mem_cons] at ordinary
      rcases ordinary with ⟨first, others⟩
      simp only [List.cons_append, conjuncts?, first.noBetween, first.noAnd, ih others,
        Bool.false_eq_true, if_false, Option.map_map]
      congr 1
      funext pieces
      cases pieces <;> rfl

/-- A row is not read where no factor opens as the row does. -/
theorem terms?_eq_none {factor? : List (Part α) → Option φ} {part : Part α}
    (ordinary : part.IsOrdinary) (unread : ∀ piece, factor? (part :: piece) = none)
    (rest : List (Part α)) : terms? factor? (part :: rest) = none := by
  have first (piece : List (Part α)) : factors? factor? (part :: piece) = none := by
    have cut := conjuncts?_ordinary 0 piece (List.forall_mem_singleton.mpr ordinary)
    rw [List.singleton_append] at cut
    rw [factors?, cut]
    cases read : conjuncts? 0 piece with
    | none => rfl
    | some pieces =>
        cases pieces with
        | nil => exact absurd rfl (conjuncts?_ne_nil read)
        | cons head others => simp [unread]
  have cut : disjuncts (part :: rest) = (disjuncts rest).modifyHead (part :: ·) := by
    simp [disjuncts, List.splitOnP_cons_eq_if_modifyHead, ordinary.noOr]
  rw [terms?, cut]
  cases pieces : disjuncts rest with
  | nil => exact absurd pieces (List.splitOnP_ne_nil _ rest)
  | cons head others => simp [first]

/-- A row that is one factor: no connective in it joins rows. -/
structure IsFactor (parts : List (Part α)) : Prop where
  noOr : ∀ part ∈ parts, part.isKeyword "OR" = false
  whole : conjuncts? 0 parts = some [parts]

theorem IsFactor.of_ordinary (ordinary : ∀ part ∈ parts, part.IsOrdinary) :
    IsFactor parts := by
  constructor
  · intro part member
    exact (ordinary part member).noOr
  · have read := conjuncts?_ordinary 0 [] ordinary
    simpa [conjuncts?] using read

/-- BETWEEN takes the AND behind it. -/
theorem IsFactor.between {operand low high : List (Part α)}
    (first : ∀ part ∈ operand, part.IsOrdinary) (second : ∀ part ∈ low, part.IsOrdinary)
    (third : ∀ part ∈ high, part.IsOrdinary) :
    IsFactor (operand ++ .word (.keyword "BETWEEN") :: low ++
      .word (.keyword "AND") :: high) := by
  constructor
  · intro part member
    simp only [List.mem_append, List.mem_cons] at member
    rcases member with (member | rfl | member) | rfl | member
    · exact (first part member).noOr
    · rfl
    · exact (second part member).noOr
    · rfl
    · exact (third part member).noOr
  · have upper := (IsFactor.of_ordinary third).whole
    have range : conjuncts? 1 (low ++ .word (.keyword "AND") :: high) =
        some [low ++ .word (.keyword "AND") :: high] := by
      rw [conjuncts?_ordinary 1 _ second]
      simp [conjuncts?, isKeyword, upper]
    rw [List.append_assoc, conjuncts?_ordinary 0 _ first]
    simp [conjuncts?, isKeyword, range]

section Levels

variable {factor? : List (Part α) → Option φ}

/-- A row is read as a conjunction of factors. -/
structure ReadsConjunction (factor? : List (Part α) → Option φ)
    (parts : List (Part α)) (factors : List φ) : Prop where
  noOr : ∀ part ∈ parts, part.isKeyword "OR" = false
  read : factors? factor? parts = some factors

theorem IsFactor.conjunction {reading : φ} (factor : IsFactor parts)
    (read : factor? parts = some reading) :
    ReadsConjunction factor? parts [reading] := by
  refine ⟨factor.noOr, ?_⟩
  simp [factors?, factor.whole, read]

theorem ReadsConjunction.and {factors others : List φ}
    (left : ReadsConjunction factor? front factors)
    (right : ReadsConjunction factor? back others) :
    ReadsConjunction factor? (front ++ .word (.keyword "AND") :: back) (factors ++ others) := by
  constructor
  · intro part member
    rw [List.mem_append, List.mem_cons] at member
    rcases member with member | rfl | member
    · exact left.noOr part member
    · rfl
    · exact right.noOr part member
  · rcases Option.bind_eq_some_iff.mp left.read with ⟨pieces, cut, read⟩
    rcases Option.bind_eq_some_iff.mp right.read with ⟨otherPieces, otherCut, otherRead⟩
    simp [factors?, conjuncts?_and cut otherCut, read, otherRead]

/-- A row is read as a disjunction of conjunctions. -/
def ReadsDisjunction (factor? : List (Part α) → Option φ)
    (parts : List (Part α)) (terms : List (List φ)) : Prop :=
  terms? factor? parts = some terms

theorem ReadsConjunction.disjunction {factors : List φ}
    (conjunction : ReadsConjunction factor? parts factors) :
    ReadsDisjunction factor? parts [factors] := by
  have whole : disjuncts parts = [parts] := List.splitOnP_eq_singleton conjunction.noOr
  simp [ReadsDisjunction, terms?, whole, conjunction.read]

theorem ReadsDisjunction.or {terms others : List (List φ)}
    (left : ReadsDisjunction factor? front terms)
    (right : ReadsDisjunction factor? back others) :
    ReadsDisjunction factor? (front ++ .word (.keyword "OR") :: back) (terms ++ others) := by
  have cut : disjuncts (front ++ .word (.keyword "OR") :: back) =
      disjuncts front ++ disjuncts back :=
    List.splitOnP_append_cons front back rfl
  unfold ReadsDisjunction terms? at left right ⊢
  rw [cut, List.mapM_append, left, right]
  rfl

end Levels

end Part

/-! ## The words of expressions -/

/-- Whether a word can stand within an operand. -/
def Word.inOperand : Word → Bool
  | .keyword spelling => spelling ∈ ["ARRAY", "FALSE", "NULL", "TRUE"]
  | .symbol spelling => spelling ∈ ["+", "-", "."]
  | _ => true

/-- Whether a word can stand within an expression. -/
def Word.inExpr : Word → Bool
  | .keyword spelling =>
      spelling ∈ ["AND", "ARRAY", "BETWEEN", "FALSE", "IN", "IS", "LIKE", "NOT", "NULL", "OR",
        "TRUE", "UNNEST"]
  | .symbol spelling => spelling ∈ ["!=", "+", "-", ".", "<", "<=", "=", ">", ">="]
  | _ => true

theorem Word.inExpr_of_inOperand {word : Word} (within : word.inOperand = true) :
    word.inExpr = true := by
  have keywords : ∀ spelling ∈ ["ARRAY", "FALSE", "NULL", "TRUE"],
      (Word.keyword spelling).inExpr = true := by
    decide
  have symbols : ∀ spelling ∈ ["+", "-", "."], (Word.symbol spelling).inExpr = true := by
    decide
  cases word with
  | keyword spelling => exact keywords spelling (of_decide_eq_true within)
  | symbol spelling => exact symbols spelling (of_decide_eq_true within)
  | _ => rfl

namespace Part

variable {α : Type}

/-- Whether a part can stand within an operand. -/
def inOperand : Part α → Bool
  | .word content => content.inOperand
  | .group _ _ => true

/-- Whether a part can stand within an expression. -/
def inExpr : Part α → Bool
  | .word content => content.inExpr
  | .group _ _ => true

theorem inExpr_of_inOperand {part : Part α} (within : part.inOperand = true) :
    part.inExpr = true := by
  cases part with
  | word content => exact Word.inExpr_of_inOperand within
  | group bracket content => rfl

/-- A word that cannot stand within an operand is no part of one. -/
theorem isKeyword_of_inOperand {part : Part α} (within : part.inOperand = true)
    {word : String} (other : (Word.keyword word).inOperand = false) :
    part.isKeyword word = false := by
  refine (Bool.not_eq_true _).mp fun same => ?_
  cases part with
  | group bracket content => cases same
  | word content =>
      cases content with
      | keyword spelling =>
          obtain rfl : spelling = word := of_decide_eq_true same
          rw [inOperand, other] at within
          cases within
      | _ => cases same

/-- A word that cannot stand within an expression is no part of one. -/
theorem isKeyword_of_inExpr {part : Part α} (within : part.inExpr = true)
    {word : String} (other : (Word.keyword word).inExpr = false) :
    part.isKeyword word = false := by
  refine (Bool.not_eq_true _).mp fun same => ?_
  cases part with
  | group bracket content => cases same
  | word content =>
      cases content with
      | keyword spelling =>
          obtain rfl : spelling = word := of_decide_eq_true same
          rw [inExpr, other] at within
          cases within
      | _ => cases same

/-- A part of an expression that does not join rows. -/
structure InTest (part : Part α) : Prop where
  inExpr : part.inExpr = true
  ordinary : part.IsOrdinary

theorem InTest.of_inOperand {part : Part α} (within : part.inOperand = true) :
    part.InTest where
  inExpr := inExpr_of_inOperand within
  ordinary := {
    noAnd := isKeyword_of_inOperand within rfl
    noOr := isKeyword_of_inOperand within rfl
    noBetween := isKeyword_of_inOperand within rfl }

theorem InTest.group (bracket : Bracket) (content : α) : (Part.group bracket content).InTest :=
  ⟨rfl, rfl, rfl, rfl⟩

end Part

/-- What holds of the signs and of every number holds of the words of a number. -/
theorem forall_mem_signedWords (property : Word → Prop) (number : String → Word)
    (minus : property (.symbol "-")) (plus : property (.symbol "+"))
    (whole : ∀ digits, property (number digits)) (text : Text) :
    ∀ word ∈ signedWords number text, property word := by
  unfold signedWords
  split
  · exact List.forall_mem_cons.mpr ⟨minus, by simpa using whole _⟩
  · exact List.forall_mem_cons.mpr ⟨plus, by simpa using whole _⟩
  · simpa using whole _

theorem forall_mem_pathTrees (property : Word → Prop) (point : property (.symbol "."))
    (name : ∀ segment, property (nameWord segment)) (segments : List String) :
    ∀ tree ∈ pathTrees segments, ∃ word, tree = .leaf word ∧ property word := by
  induction segments with
  | nil => simp [pathTrees]
  | cons segment rest ih =>
      cases rest with
      | nil => simpa [pathTrees] using name segment
      | cons next others =>
          rw [pathTrees_cons_cons, List.forall_mem_cons, List.forall_mem_cons]
          exact ⟨⟨_, rfl, name segment⟩, ⟨_, rfl, point⟩, ih⟩

theorem inOperand_floatWord (digits : String) : (floatWord digits).inOperand = true := by
  unfold floatWord
  split <;> rfl

theorem signedWords_ne_nil (number : String → Word) (text : Text) :
    signedWords number text ≠ [] := by
  unfold signedWords
  split <;> simp

namespace Expr

variable {α : Type} (read : List (Part α) → α)

/-- The parts of an expression. -/
def parts (expr : Expr) : List (Part α) :=
  expr.trees.map (TokenTree.part read)

/--
An operand: a literal, an array, a path with a segment, a parameter, a subquery or
an expression in brackets.
-/
def IsOperand : Expr → Prop
  | .path segments => segments ≠ []
  | .binary _ _ _ => False
  | .isNull _ _ => False
  | .isIn _ _ _ => False
  | .between _ _ _ _ => False
  | _ => True

/-- A comparison or a test of operands. -/
def IsTest : Expr → Prop
  | .binary operator left right =>
      operator.isLogical = false ∧ left.IsOperand ∧ right.IsOperand
  | .isNull operand _ => operand.IsOperand
  | .isIn operand _ _ => operand.IsOperand
  | .between operand low high _ => operand.IsOperand ∧ low.IsOperand ∧ high.IsOperand
  | _ => False

/-- An expression may stand beside a connective without brackets. -/
def StandsBeside (connective : Connective) (expr : Expr) : Prop :=
  connective = .and → expr.topOperator? ≠ some (.logical .or)

variable {expr left right operand low high : Expr}

theorem IsTest.not_isOperand (test : expr.IsTest) : ¬ expr.IsOperand := by
  intro isOperand
  cases expr <;> first | exact isOperand | exact test

theorem IsTest.topOperator?_ne_logical {connective : Connective} (test : expr.IsTest) :
    expr.topOperator? ≠ some (.logical connective) := by
  cases expr with
  | binary operator left right =>
      rintro ⟨⟩
      cases test.1
  | _ => simp [topOperator?]

theorem IsOperand.topOperator?_eq_none (isOperand : expr.IsOperand) :
    expr.topOperator? = none := by
  cases expr with
  | binary => exact isOperand.elim
  | _ => rfl

theorem IsOperand.standsBeside (isOperand : expr.IsOperand) (connective : Connective) :
    expr.StandsBeside connective := by
  intro _
  rw [isOperand.topOperator?_eq_none]
  exact nofun

theorem inOperand_parts (isOperand : expr.IsOperand) :
    ∀ part ∈ expr.parts read, part.inOperand = true := by
  rw [parts, List.forall_mem_map]
  cases expr with
  | integer digits =>
      have words := forall_mem_signedWords (fun word => word.inOperand = true) .integer
        rfl rfl (fun _ => rfl) digits.toList
      simpa [trees, integerWords, Part.inOperand] using words
  | float digits =>
      have words := forall_mem_signedWords (fun word => word.inOperand = true) floatWord
        rfl rfl inOperand_floatWord digits.toList
      simpa [trees, floatWords, Part.inOperand] using words
  | path segments =>
      intro tree member
      have words := forall_mem_pathTrees (fun word => word.inOperand = true)
        rfl (fun _ => rfl) segments
      rcases words tree member with ⟨word, rfl, within⟩
      simpa [Part.inOperand] using within
  | bool value => cases value <;> simp [trees, Part.inOperand, Word.inOperand]
  | subquery form query => cases form <;> simp [trees, Part.inOperand, Word.inOperand]
  | binary => exact isOperand.elim
  | isNull => exact isOperand.elim
  | isIn => exact isOperand.elim
  | between => exact isOperand.elim
  | _ => simp [trees, Part.inOperand, Word.inOperand]

/-- Only a path without segments has no token. -/
theorem trees_ne_nil (present : expr ≠ .path []) : expr.trees ≠ [] := by
  cases expr with
  | integer digits => simp [trees, integerWords, signedWords_ne_nil]
  | float digits => simp [trees, floatWords, signedWords_ne_nil]
  | path segments =>
      cases segments with
      | nil => exact absurd rfl present
      | cons segment rest => cases rest <;> simp [trees, pathTrees]
  | bool value => cases value <;> simp [trees]
  | binary operator left right => cases operator <;> simp [trees, Operator.words]
  | isIn operand candidates negated => cases negated <;> simp [trees, predicateWords]
  | subquery form query => cases form <;> simp [trees]
  | _ => simp [trees]

theorem IsOperand.ne_path_nil (isOperand : expr.IsOperand) : expr ≠ .path [] := by
  rintro rfl
  exact isOperand rfl

theorem parts_ne_nil (isOperand : expr.IsOperand) : expr.parts read ≠ [] := by
  rw [parts, ne_eq, List.map_eq_nil_iff]
  exact trees_ne_nil isOperand.ne_path_nil

theorem inTest_parts (isOperand : expr.IsOperand) :
    ∀ part ∈ expr.parts read, part.InTest :=
  fun part member => .of_inOperand (inOperand_parts read isOperand part member)

/-! ## The parts of comparisons and tests -/

theorem parts_binary (operator : Operator) (left right : Expr) :
    (binary operator left right).parts read =
      left.parts read ++ (operator.words.map Part.word ++ right.parts read) := by
  simp [parts, trees]

theorem parts_isNull (operand : Expr) (negated : Bool) :
    (isNull operand negated).parts read =
      operand.parts read ++
        .word (.keyword "IS") :: (predicateWords "NULL" negated).map Part.word := by
  simp [parts, trees]

theorem parts_isIn (operand : Expr) (candidates : Candidates) (negated : Bool) :
    (isIn operand candidates negated).parts read =
      operand.parts read ++ ((predicateWords "IN" negated).map Part.word ++
        candidates.trees.map (TokenTree.part read)) := by
  simp [parts, trees]

theorem parts_between (operand low high : Expr) (negated : Bool) :
    (between operand low high negated).parts read =
      operand.parts read ++ (predicateWords "BETWEEN" negated).map Part.word ++
        low.parts read ++ .word (.keyword "AND") :: high.parts read := by
  simp [parts, trees]

/-- The right side of IN is one group, perhaps behind a keyword. -/
theorem inTest_candidates (candidates : Candidates) :
    ∀ part ∈ candidates.trees.map (TokenTree.part read), part.InTest := by
  cases candidates with
  | values elements => simpa [Candidates.trees] using Part.InTest.group .round _
  | unnest elements =>
      have keyword : (Part.word (.keyword "UNNEST") : Part α).InTest := ⟨rfl, rfl, rfl, rfl⟩
      simpa [Candidates.trees] using And.intro keyword (Part.InTest.group .round _)
  | subquery query => simpa [Candidates.trees] using Part.InTest.group .round _

theorem inTest_predicateWords {word : String} (known : (Part.word (.keyword word) : Part α).InTest)
    (negated : Bool) :
    ∀ part ∈ (predicateWords word negated).map (Part.word : Word → Part α), part.InTest := by
  cases negated with
  | false => simpa [predicateWords] using known
  | true =>
      have negation : (Part.word (.keyword "NOT") : Part α).InTest := ⟨rfl, rfl, rfl, rfl⟩
      simpa [predicateWords] using And.intro negation known

theorem inExpr_operator (operator : Operator) :
    ∀ part ∈ operator.words.map (Part.word : Word → Part α), part.inExpr = true := by
  cases operator with
  | logical connective => cases connective <;> exact List.forall_mem_singleton.mpr rfl
  | notLike => exact List.forall_mem_cons.mpr ⟨rfl, List.forall_mem_singleton.mpr rfl⟩
  | _ => exact List.forall_mem_singleton.mpr rfl

theorem inTest_operator {operator : Operator} (comparison : operator.isLogical = false) :
    ∀ part ∈ operator.words.map (Part.word : Word → Part α), part.InTest := by
  cases operator with
  | logical connective => cases comparison
  | notLike =>
      refine List.forall_mem_cons.mpr ⟨⟨rfl, rfl, rfl, rfl⟩, ?_⟩
      exact List.forall_mem_singleton.mpr ⟨rfl, rfl, rfl, rfl⟩
  | _ => exact List.forall_mem_singleton.mpr ⟨rfl, rfl, rfl, rfl⟩

theorem inExpr_operand (expr : Expr) (isOperand : expr.IsOperand) :
    ∀ part ∈ expr.parts read, part.inExpr = true :=
  fun part member => (inTest_parts read isOperand part member).inExpr

/-- Whatever an expression is, only words of expressions stand in it outside of groups. -/
theorem inExpr_parts : (expr : Expr) → ∀ part ∈ expr.parts read, part.inExpr = true
  | .binary operator left right => by
      rw [parts_binary, List.forall_mem_append, List.forall_mem_append]
      exact ⟨inExpr_parts left, inExpr_operator operator, inExpr_parts right⟩
  | .isNull operand negated => by
      rw [parts_isNull, List.forall_mem_append, List.forall_mem_cons]
      refine ⟨inExpr_parts operand, rfl, fun part member => ?_⟩
      exact (inTest_predicateWords ⟨rfl, rfl, rfl, rfl⟩ negated part member).inExpr
  | .isIn operand candidates negated => by
      rw [parts_isIn, List.forall_mem_append, List.forall_mem_append]
      refine ⟨inExpr_parts operand, fun part member => ?_, fun part member => ?_⟩
      · exact (inTest_predicateWords ⟨rfl, rfl, rfl, rfl⟩ negated part member).inExpr
      · exact (inTest_candidates read candidates part member).inExpr
  | .between operand low high negated => by
      rw [parts_between, List.forall_mem_append, List.forall_mem_append,
        List.forall_mem_append, List.forall_mem_cons]
      refine ⟨⟨⟨inExpr_parts operand, fun part member => ?_⟩, inExpr_parts low⟩, rfl,
        inExpr_parts high⟩
      simp only [predicateWords] at member
      split at member
      · simp only [List.map_cons, List.map_nil, List.mem_cons, List.not_mem_nil,
          or_false] at member
        rcases member with rfl | rfl <;> rfl
      · obtain rfl : part = .word (.keyword "BETWEEN") := by simpa using member
        rfl
  | .path [] => by
      simp [parts, trees, pathTrees]
  | .path (segment :: rest) =>
      inExpr_operand read (.path (segment :: rest)) (List.cons_ne_nil _ _)
  | .null => inExpr_operand read .null trivial
  | .string content => inExpr_operand read (.string content) trivial
  | .bytes content => inExpr_operand read (.bytes content) trivial
  | .integer digits => inExpr_operand read (.integer digits) trivial
  | .bool value => inExpr_operand read (.bool value) trivial
  | .float digits => inExpr_operand read (.float digits) trivial
  | .timestamp content => inExpr_operand read (.timestamp content) trivial
  | .date content => inExpr_operand read (.date content) trivial
  | .array elements => inExpr_operand read (.array elements) trivial
  | .parameter name => inExpr_operand read (.parameter name) trivial
  | .subquery form query => inExpr_operand read (.subquery form query) trivial
  | .paren inner => inExpr_operand read (.paren inner) trivial

theorem isFactor_of_isTest (test : expr.IsTest) : Part.IsFactor (expr.parts read) := by
  cases expr with
  | binary operator left right =>
      rcases test with ⟨comparison, first, second⟩
      apply Part.IsFactor.of_ordinary
      rw [parts_binary, List.forall_mem_append, List.forall_mem_append]
      exact ⟨fun part member => (inTest_parts read first part member).ordinary,
        fun part member => (inTest_operator comparison part member).ordinary,
        fun part member => (inTest_parts read second part member).ordinary⟩
  | isNull operand negated =>
      apply Part.IsFactor.of_ordinary
      rw [parts_isNull, List.forall_mem_append, List.forall_mem_cons]
      refine ⟨fun part member => (inTest_parts read test part member).ordinary,
        ⟨rfl, rfl, rfl⟩, fun part member => ?_⟩
      exact (inTest_predicateWords ⟨rfl, rfl, rfl, rfl⟩ negated part member).ordinary
  | isIn operand candidates negated =>
      apply Part.IsFactor.of_ordinary
      rw [parts_isIn, List.forall_mem_append, List.forall_mem_append]
      refine ⟨fun part member => (inTest_parts read test part member).ordinary,
        fun part member => ?_,
        fun part member => (inTest_candidates read candidates part member).ordinary⟩
      exact (inTest_predicateWords ⟨rfl, rfl, rfl, rfl⟩ negated part member).ordinary
  | between operand low high negated =>
      rcases test with ⟨first, second, third⟩
      have ordinary {operand : Expr} (isOperand : operand.IsOperand) :
          ∀ part ∈ operand.parts read, part.IsOrdinary :=
        fun part member => (inTest_parts read isOperand part member).ordinary
      rw [parts_between]
      cases negated with
      | false =>
          have whole := Part.IsFactor.between (ordinary first) (ordinary second) (ordinary third)
          simpa [predicateWords] using whole
      | true =>
          have front : ∀ part ∈ operand.parts read ++ [.word (.keyword "NOT")],
              part.IsOrdinary := by
            rw [List.forall_mem_append, List.forall_mem_singleton]
            exact ⟨ordinary first, rfl, rfl, rfl⟩
          have whole := Part.IsFactor.between front (ordinary second) (ordinary third)
          simpa [predicateWords] using whole
  | _ => exact test.elim

theorem two_le_length_parts (test : expr.IsTest) : 2 ≤ (expr.parts read).length := by
  have pos {operand : Expr} (isOperand : operand.IsOperand) :
      1 ≤ (operand.parts read).length :=
    List.length_pos_iff.mpr (parts_ne_nil read isOperand)
  cases expr with
  | binary operator left right =>
      have first := pos test.2.1
      have second := pos test.2.2
      rw [parts_binary, List.length_append, List.length_append]
      omega
  | isNull operand negated =>
      have first := pos test
      rw [parts_isNull, List.length_append, List.length_cons]
      omega
  | isIn operand candidates negated =>
      have first := pos test
      have word : 1 ≤ ((predicateWords "IN" negated).map (Part.word : Word → Part α)).length := by
        cases negated <;> simp [predicateWords]
      rw [parts_isIn, List.length_append, List.length_append]
      omega
  | between operand low high negated =>
      have first := pos test.1
      rw [parts_between, List.length_append, List.length_append, List.length_append,
        List.length_cons]
      omega
  | _ => exact test.elim

end Expr

end SqlBuilder

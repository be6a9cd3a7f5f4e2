import SqlBuilder.Proofs.Precedence

/-!
# Formulas of texts

A formula is made of constants and leaves joined by connectives.  It has one of
three truth values once each of its leaves has one.  Leaves are told apart by
their place from left to right, and each keeps its tokens.

A text is read as a formula with the precedence of the dialect.  Every factor
that is no truth value and holds no condition in brackets is a leaf.
-/

namespace SqlBuilder

/-! ## Three truth values -/

/-- FALSE, NULL and TRUE. -/
inductive Truth where
  | no
  | unknown
  | yes
deriving DecidableEq

/-- The truth of a BOOL literal. -/
def Truth.ofBool : Bool → Truth
  | false => .no
  | true => .yes

namespace Connective

/-- What a connective makes of two truth values. -/
def truth : Connective → Truth → Truth → Truth
  | .and, .no, _ => .no
  | .and, _, .no => .no
  | .and, .yes, .yes => .yes
  | .and, _, _ => .unknown
  | .or, .yes, _ => .yes
  | .or, _, .yes => .yes
  | .or, .no, .no => .no
  | .or, _, _ => .unknown

theorem truth_assoc (connective : Connective) (first second third : Truth) :
    connective.truth (connective.truth first second) third =
      connective.truth first (connective.truth second third) := by
  cases connective <;> cases first <;> cases second <;> cases third <;> rfl

/-- The truth value that a connective leaves others as they are with. -/
def neutral : Connective → Truth
  | .and => .yes
  | .or => .no

end Connective

/-! ## Formulas -/

/-- What a condition comes to, given the truth of its leaves. -/
inductive Formula where
  | constant (value : Truth)
  /-- A comparison or a test, by its tokens. -/
  | leaf (tokens : List SqlToken)
  | join (connective : Connective) (left right : Formula)

namespace Formula

/-- The leaves of a formula from left to right. -/
def leaves : Formula → List (List SqlToken)
  | .constant _ => []
  | .leaf tokens => [tokens]
  | .join _ left right => left.leaves ++ right.leaves

/-- The value of a formula, given the truth of each leaf by its place; its first leaf is at `start`. -/
def value (assignment : Nat → Truth) : Formula → Nat → Truth
  | .constant truth, _ => truth
  | .leaf _, start => assignment start
  | .join connective left right, start =>
      connective.truth (left.value assignment start)
        (right.value assignment (start + left.leaves.length))

/-- Formulas joined into a chain; the neutral truth value where there are none. -/
def chain (connective : Connective) : List Formula → Formula
  | [] => .constant connective.neutral
  | first :: rest => rest.foldl (.join connective) first

/-- Two formulas with the same leaves and the same value whatever the truth of the leaves is. -/
structure Equivalent (left right : Formula) : Prop where
  leaves : left.leaves = right.leaves
  value : ∀ assignment start, left.value assignment start = right.value assignment start

namespace Equivalent

variable {first second third left right : Formula} {connective : Connective}

theorem refl (formula : Formula) : Equivalent formula formula :=
  ⟨rfl, fun _ _ => rfl⟩

theorem trans (front : Equivalent first second) (back : Equivalent second third) :
    Equivalent first third :=
  ⟨front.leaves.trans back.leaves,
    fun assignment start => (front.value assignment start).trans (back.value assignment start)⟩

theorem join (front : Equivalent first left) (back : Equivalent second right) :
    Equivalent (.join connective first second) (.join connective left right) := by
  constructor
  · simp [Formula.leaves, front.leaves, back.leaves]
  · intro assignment start
    simp [Formula.value, front.leaves, front.value, back.value]

/-- A chain may be put together from either end. -/
theorem join_assoc (connective : Connective) (first second third : Formula) :
    Equivalent (.join connective (.join connective first second) third)
      (.join connective first (.join connective second third)) := by
  constructor
  · simp [Formula.leaves]
  · intro assignment start
    simp [Formula.value, Formula.leaves, Connective.truth_assoc, Nat.add_assoc]

theorem foldl_join (connective : Connective) (rest : List Formula)
    (same : Equivalent left right) :
    Equivalent (rest.foldl (.join connective) left) (rest.foldl (.join connective) right) := by
  induction rest generalizing left right with
  | nil => exact same
  | cons next others ih => exact ih (same.join (refl next))

theorem foldl_join_join (rest : List Formula) :
    Equivalent (rest.foldl (.join connective) (.join connective left right))
      (.join connective left (rest.foldl (.join connective) right)) := by
  induction rest generalizing right with
  | nil => exact refl _
  | cons next others ih =>
      have moved := foldl_join connective others (join_assoc connective left right next)
      exact moved.trans ih

/-- Two chains one behind the other come to the same as the two joined. -/
theorem chain_append (connective : Connective) {front back : List Formula}
    (present : front ≠ []) (following : back ≠ []) :
    Equivalent (chain connective (front ++ back))
      (.join connective (chain connective front) (chain connective back)) := by
  cases front with
  | nil => exact absurd rfl present
  | cons first rest =>
      cases back with
      | nil => exact absurd rfl following
      | cons next others =>
          simp only [chain, List.cons_append, List.foldl_append, List.foldl_cons]
          exact foldl_join_join others

end Equivalent

end Formula

/-! ## The formula of a text -/

/-- What stands between two brackets: its tokens, and its formula if it is a condition. -/
structure Inner where
  tokens : List SqlToken
  reading : Option Formula

def Part.tokens : Part Inner → List SqlToken
  | .word content => [.word content]
  | .group bracket inner => .opening bracket :: inner.tokens ++ [.closing bracket]

/-- The truth of a word that stands for one. -/
def Word.truth? : Word → Option Truth
  | .keyword spelling =>
      if spelling = "TRUE" then some .yes
      else if spelling = "FALSE" then some .no
      else if spelling = "NULL" then some .unknown
      else none
  | _ => none

namespace Formula

/--
The formula of a factor: a constant, a condition in brackets, or a leaf.  A group
that holds no condition, such as a subquery, is a leaf as well.  A row with a word
that no expression has, such as a comma or the opening of a query, is no factor.
-/
def factor? (parts : List (Part Inner)) : Option Formula :=
  if parts.isEmpty || !parts.all Part.inExpr then
    none
  else
    match parts with
    | [.word content] =>
        some ((content.truth?.map constant).getD (.leaf [.word content]))
    | [.group .round inner] =>
        some (inner.reading.getD (.leaf (Part.tokens (.group .round inner))))
    | parts => some (.leaf (parts.flatMap Part.tokens))

/-- The formula of a row of parts. -/
def ofParts? (parts : List (Part Inner)) : Option Formula :=
  Part.read? factor? .join parts

end Formula

/-- What stands between two brackets, read. -/
def Inner.ofParts (parts : List (Part Inner)) : Inner where
  tokens := parts.flatMap Part.tokens
  reading := Formula.ofParts? parts

/-- The formula of a text, read with the precedence of the dialect. -/
def Text.formula? (text : Text) : Option Formula := do
  let tokens ← tokenize? text
  let trees ← TokenTree.group? tokens
  Formula.ofParts? (trees.map (TokenTree.part Inner.ofParts))

/-- A text has a formula, and it comes to the same as a given one. -/
def Text.EvaluatesTo (text : Text) (formula : Formula) : Prop :=
  ∃ reading, text.formula? = some reading ∧ reading.Equivalent formula

/-! ## Rows that mean a formula -/

section Parts

mutual

theorem TokenTree.tokens_part :
    (tree : TokenTree) → (tree.part Inner.ofParts).tokens = tree.tokens
  | .leaf word => by
      simp [Part.tokens, TokenTree.tokens]
  | .group bracket inner => by
      have inside := TokenTree.tokens_parts inner
      simp [Part.tokens, Inner.ofParts, TokenTree.tokens, inside]

theorem TokenTree.tokens_parts :
    (trees : List TokenTree) →
      (trees.map (TokenTree.part Inner.ofParts)).flatMap Part.tokens = TokenTree.flatten trees
  | [] => by
      simp
  | tree :: rest => by
      rw [List.map_cons, List.flatMap_cons, TokenTree.tokens_part tree,
        TokenTree.tokens_parts rest, TokenTree.flatten]

end

end Parts

section Rows

variable {row left right : List (Part Inner)} {formula other : Formula}

/-- A row is a factor that comes to the same as a formula. -/
def FactorMeans (row : List (Part Inner)) (formula : Formula) : Prop :=
  Part.IsFactor row ∧ ∃ reading, Formula.factor? row = some reading ∧ reading.Equivalent formula

/-- A row is a conjunction, or a disjunction, that comes to the same as a formula. -/
def Connective.RowMeans (connective : Connective) (row : List (Part Inner))
    (formula : Formula) : Prop :=
  match connective with
  | .and =>
      ∃ factors, factors ≠ [] ∧ Part.ReadsConjunction Formula.factor? row factors ∧
        (Formula.chain .and factors).Equivalent formula
  | .or =>
      ∃ terms, terms ≠ [] ∧ (∀ term ∈ terms, term ≠ []) ∧
        Part.ReadsDisjunction Formula.factor? row terms ∧
        (Formula.chain .or (terms.map (Formula.chain .and))).Equivalent formula

theorem FactorMeans.conjunction (means : FactorMeans row formula) :
    Connective.and.RowMeans row formula := by
  rcases means with ⟨factor, reading, read, same⟩
  exact ⟨[reading], List.cons_ne_nil _ _, factor.conjunction read, same⟩

theorem Connective.RowMeans.disjunction {connective : Connective}
    (means : connective.RowMeans row formula) :
    Connective.or.RowMeans row formula := by
  cases connective with
  | and =>
      rcases means with ⟨factors, present, conjunction, same⟩
      refine ⟨[factors], List.cons_ne_nil _ _, ?_, conjunction.disjunction, same⟩
      simpa using present
  | or => exact means

theorem FactorMeans.rowMeans (means : FactorMeans row formula) (connective : Connective) :
    connective.RowMeans row formula := by
  cases connective with
  | and => exact means.conjunction
  | or => exact means.conjunction.disjunction

/-- Two rows of one level with their connective between them. -/
theorem Connective.RowMeans.join {connective : Connective}
    (first : connective.RowMeans left formula) (second : connective.RowMeans right other) :
    connective.RowMeans (left ++ .word (.keyword connective.sql) :: right)
      (.join connective formula other) := by
  cases connective with
  | and =>
      rcases first with ⟨factors, present, conjunction, same⟩
      rcases second with ⟨others, following, another, alike⟩
      refine ⟨factors ++ others, by simp [present], conjunction.and another, ?_⟩
      have split := Formula.Equivalent.chain_append .and present following
      exact split.trans (same.join alike)
  | or =>
      rcases first with ⟨terms, present, each, disjunction, same⟩
      rcases second with ⟨others, following, all, another, alike⟩
      refine ⟨terms ++ others, by simp [present], ?_, disjunction.or another, ?_⟩
      · intro term member
        rcases List.mem_append.mp member with member | member
        · exact each term member
        · exact all term member
      · rw [List.map_append]
        have some : terms.map (Formula.chain .and) ≠ [] := by simpa using present
        have more : others.map (Formula.chain .and) ≠ [] := by simpa using following
        have split := Formula.Equivalent.chain_append .or some more
        exact split.trans (same.join alike)

theorem Formula.chained?_eq {connective : Connective} {formulas : List Formula}
    (present : formulas ≠ []) :
    Part.chained? (.join connective) formulas = some (Formula.chain connective formulas) := by
  cases formulas with
  | nil => exact absurd rfl present
  | cons first rest => rfl

theorem Connective.RowMeans.ofParts? {connective : Connective}
    (means : connective.RowMeans row formula) :
    ∃ reading, Formula.ofParts? row = some reading ∧ reading.Equivalent formula := by
  rcases means.disjunction with ⟨terms, present, each, disjunction, same⟩
  refine ⟨_, ?_, same⟩
  have conjunctions :
      terms.mapM (Part.chained? (Formula.join .and)) =
        some (terms.map (Formula.chain .and)) := by
    clear same disjunction present
    induction terms with
    | nil => rfl
    | cons term rest ih =>
        rw [List.forall_mem_cons] at each
        simp [Formula.chained?_eq each.1, ih each.2]
  have read : Part.terms? Formula.factor? row = some terms := disjunction
  simp [Formula.ofParts?, Part.read?, read, conjunctions, Formula.chained?_eq, present]

end Rows

/-! ## Factors -/

section Factors

variable {row : List (Part Inner)}

/-- A row of two parts or more is a leaf. -/
theorem Formula.factor?_of_two_le (long : 2 ≤ row.length)
    (own : ∀ part ∈ row, part.inExpr = true) :
    Formula.factor? row = some (.leaf (row.flatMap Part.tokens)) := by
  have noOther : row.all Part.inExpr = true := List.all_eq_true.mpr own
  match row, long, noOther with
  | first :: second :: rest, _, noOther =>
      simp only [Formula.factor?, noOther, List.isEmpty_cons, Bool.not_true, Bool.or_false,
        Bool.false_eq_true, if_false]

/-- A row that opens with SELECT is no condition. -/
theorem Formula.ofParts?_select (rest : List (Part Inner)) :
    Formula.ofParts? (.word (.keyword "SELECT") :: rest) = none := by
  have unread : Part.terms? Formula.factor? (.word (.keyword "SELECT") :: rest) = none := by
    refine Part.terms?_eq_none ⟨rfl, rfl, rfl⟩ (fun piece => ?_) rest
    simp [Formula.factor?, Part.inExpr, Word.inExpr]
  simp [Formula.ofParts?, Part.read?, unread]

/-- A part that, standing alone, is a leaf. -/
def Part.IsOpaque : Part Inner → Prop
  | .word content => content.truth? = none
  | .group .round inner => inner.reading = none
  | .group _ _ => True

theorem Formula.factor?_of_isOpaque (present : row ≠ [])
    (own : ∀ part ∈ row, part.inExpr = true) (closed : ∀ part ∈ row, part.IsOpaque) :
    Formula.factor? row = some (.leaf (row.flatMap Part.tokens)) := by
  match row, present, own, closed with
  | [.word content], _, own, closed =>
      have unknown : content.truth? = none := closed _ (List.mem_singleton_self _)
      have kept : (Part.word content : Part Inner).inExpr = true :=
        own _ (List.mem_singleton_self _)
      simp [Formula.factor?, kept, unknown, Part.tokens]
  | [.group bracket inner], _, _, closed =>
      have unread := closed _ (List.mem_singleton_self _)
      cases bracket with
      | round =>
          have none : inner.reading = none := unread
          simp [Formula.factor?, Part.inExpr, none, Part.tokens]
      | square => simp [Formula.factor?, Part.inExpr, Part.tokens]
      | curly => simp [Formula.factor?, Part.inExpr, Part.tokens]
  | first :: second :: rest, _, own, _ =>
      exact Formula.factor?_of_two_le (by simp) own

end Factors

end SqlBuilder

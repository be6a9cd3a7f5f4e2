import SqlBuilder.Proofs.ReadBack
import SqlBuilder.Proofs.WordAlone

/-!
# What a reading is made of

The reader puts nothing into an expression but the words it has found, and all of
these stand for themselves.  So every number in a reading is read as its words
wherever it is written, and every parameter has a plain name.

What is read as an operand is one, and what is read as a factor is an operand or a
test of operands.
-/

namespace SqlBuilder

/-! ## Parts of parts -/

namespace Part

variable {α φ : Type}

theorem subset_of_mem_splitOnP {isMark : Part α → Bool} {parts : List (Part α)} :
    ∀ piece ∈ parts.splitOnP isMark, piece ⊆ parts := by
  induction parts with
  | nil => simp
  | cons part rest ih =>
      intro piece member
      rw [List.splitOnP_cons_eq_if_modifyHead] at member
      split at member
      · rcases List.mem_cons.mp member with rfl | later
        · exact List.nil_subset _
        · exact List.subset_cons_of_subset _ (ih piece later)
      · rcases List.exists_cons_of_ne_nil (List.splitOnP_ne_nil isMark rest) with
          ⟨head, others, cut⟩
        rw [cut] at member ih
        rcases List.mem_cons.mp member with rfl | later
        · exact List.cons_subset_cons part (ih head (List.mem_cons_self ..))
        · exact List.subset_cons_of_subset _ (ih piece (List.mem_cons_of_mem _ later))

theorem subset_of_mem_conjuncts? {pending : Nat} {parts : List (Part α)}
    {pieces : List (List (Part α))} (read : conjuncts? pending parts = some pieces) :
    ∀ piece ∈ pieces, piece ⊆ parts := by
  induction parts generalizing pending pieces with
  | nil =>
      simp only [conjuncts?] at read
      split at read
      · cases read
        simp
      · cases read
  | cons part rest ih =>
      have kept {count : Nat}
          (found : (conjuncts? count rest).map (List.modifyHead (part :: ·)) = some pieces) :
          ∀ piece ∈ pieces, piece ⊆ part :: rest := by
        rcases Option.map_eq_some_iff.mp found with ⟨others, inner, rfl⟩
        have within := ih inner
        intro piece member
        cases others with
        | nil => cases member
        | cons head others =>
            rcases List.mem_cons.mp member with rfl | later
            · exact List.cons_subset_cons part (within head (List.mem_cons_self ..))
            · exact List.subset_cons_of_subset _
                (within piece (List.mem_cons_of_mem _ later))
      simp only [conjuncts?] at read
      split at read
      · exact kept read
      split at read
      · split at read
        · rcases Option.map_eq_some_iff.mp read with ⟨others, inner, rfl⟩
          rw [List.forall_mem_cons]
          exact ⟨List.nil_subset _, fun piece later =>
            List.subset_cons_of_subset _ (ih inner piece later)⟩
        · exact kept read
      · exact kept read

theorem exists_of_mem_mapM {β : Type} {convert : β → Option φ} {items : List β}
    {results : List φ} (collected : items.mapM convert = some results) :
    ∀ result ∈ results, ∃ item ∈ items, convert item = some result := by
  induction items generalizing results with
  | nil =>
      cases collected
      simp
  | cons item rest ih =>
      rw [List.mapM_cons] at collected
      obtain ⟨first, converted, later⟩ := Option.bind_eq_some_iff.mp collected
      obtain ⟨others, gathered, same⟩ := Option.bind_eq_some_iff.mp later
      cases same
      rw [List.forall_mem_cons]
      refine ⟨⟨item, List.mem_cons_self .., converted⟩, fun result member => ?_⟩
      obtain ⟨source, inside, made⟩ := ih gathered result member
      exact ⟨source, List.mem_cons_of_mem _ inside, made⟩

/-- Each member of a row has been read from parts of the row. -/
theorem exists_of_mem_members? {read? : List (Part α) → Option φ} {parts : List (Part α)}
    {results : List φ} (read : members? read? parts = some results) :
    ∀ result ∈ results, ∃ piece ⊆ parts, read? piece = some result := by
  intro result member
  unfold members? at read
  split at read
  · cases read
    cases member
  · obtain ⟨piece, inside, made⟩ := exists_of_mem_mapM read result member
    exact ⟨piece, subset_of_mem_splitOnP piece inside, made⟩

theorem subset_of_cut {isMark : Part α → Bool} {parts front : List (Part α)}
    {back : Option (List (Part α))} (split : cut isMark parts = (front, back)) :
    front ⊆ parts ∧ ∀ rest ∈ back, rest ⊆ parts := by
  cases split
  refine ⟨List.takeWhile_subset _, fun rest member => ?_⟩
  have tail : rest = (parts.dropWhile fun part => !isMark part).tail := by
    cases dropped : parts.dropWhile fun part => !isMark part with
    | nil =>
        rw [dropped] at member
        cases member
    | cons head others =>
        rw [dropped] at member
        cases member
        rfl
  rw [tail]
  exact fun part inside => (List.dropWhile_suffix _).subset (List.mem_of_mem_tail inside)

/-- What is read from the body of a clause, if there is one. -/
theorem exists_of_mem_mapM_clause {read? : List (Part α) → Option φ}
    {clause : Option (List (Part α))} {result : Option φ}
    (read : clause.mapM read? = some result) :
    ∀ made ∈ result, ∃ body ∈ clause, read? body = some made := by
  cases clause with
  | none =>
      cases read
      exact nofun
  | some body =>
      obtain ⟨found, converted, same⟩ := Option.map_eq_some_iff.mp read
      cases same
      rintro _ ⟨⟩
      exact ⟨body, rfl, converted⟩

theorem eq_of_isKeyword {part : Part α} {word : String} (same : part.isKeyword word = true) :
    part = .word (.keyword word) := by
  unfold isKeyword at same
  split at same
  · rw [of_decide_eq_true same]
  · cases same

section Join

variable {factor? : List (Part α) → Option φ} {join : Connective → φ → φ → φ}
variable {made : φ → Prop} {parts : List (Part α)}

theorem made_of_chained? {step : φ → φ → φ}
    (joined : ∀ first second, made first → made second → made (step first second))
    {links : List φ} {reading : φ} (each : ∀ link ∈ links, made link)
    (chain : chained? step links = some reading) : made reading := by
  cases links with
  | nil => cases chain
  | cons first rest =>
      cases chain
      rw [List.forall_mem_cons] at each
      exact List.foldlRecOn rest step each.1 fun front holds link member =>
        joined front link holds (each.2 link member)

/-- What every factor of a row is, and what joining keeps, the reading of the row is. -/
theorem made_of_read?
    (joined : ∀ connective first second, made first → made second →
      made (join connective first second))
    (factors : ∀ piece ⊆ parts, ∀ factor, factor? piece = some factor → made factor)
    {reading : φ} (read : read? factor? join parts = some reading) : made reading := by
  obtain ⟨terms, gathered, later⟩ := Option.bind_eq_some_iff.mp read
  obtain ⟨conjunctions, chains, chain⟩ := Option.bind_eq_some_iff.mp later
  refine made_of_chained? (joined .or) (fun conjunction member => ?_) chain
  obtain ⟨term, inTerms, inner⟩ := exists_of_mem_mapM chains conjunction member
  refine made_of_chained? (joined .and) (fun factor inTerm => ?_) inner
  obtain ⟨disjunct, inParts, found⟩ := exists_of_mem_mapM gathered term inTerms
  obtain ⟨pieces, cut, collected⟩ := Option.bind_eq_some_iff.mp found
  obtain ⟨piece, inside, made⟩ := exists_of_mem_mapM collected factor inTerm
  have within : piece ⊆ parts :=
    List.Subset.trans (subset_of_mem_conjuncts? cut piece inside)
      (subset_of_mem_splitOnP disjunct inParts)
  exact factors piece within factor made

end Join

end Part

/-! ## Readings that stand for themselves -/

/-- Every number within an expression is read as its words, and every parameter has a plain name. -/
def Expr.StandsAlone (expr : Expr) : Prop :=
  expr.Every Expr.StandsForWords fun _ => True

def Select.StandsAlone (query : Select) : Prop :=
  query.Every Expr.StandsForWords fun _ => True

def Content.StandsAlone : Content → Prop
  | .query select => select.StandsAlone
  | .list elements => ∀ element ∈ elements, element.StandsAlone

/-- A word that stands for itself, or a group whose content does so, as far as it was read. -/
def Part.StandsAlone : Piece → Prop
  | .word found => found.StandsAlone
  | .group _ content => ∀ inner ∈ content, inner.StandsAlone

theorem Expr.standsForWords_integer {digits : String}
    (alone : (Word.integer digits).StandsAlone) :
    (Expr.integer digits).StandsForWords ∧ (Expr.integer ("-" ++ digits)).StandsForWords :=
  alone.spells

theorem Expr.standsForWords_float {digits : String}
    (alone : (Word.float digits).StandsAlone) :
    (Expr.float digits).StandsForWords ∧ (Expr.float ("-" ++ digits)).StandsForWords := by
  have written : (floatWord digits).IsAlone digits := by
    rw [Word.IsAlone.floatWord_eq alone]
    exact alone
  exact written.spells

section Reading

variable {parts : List Piece} {expr operand : Expr}

/-- An operand that stands alone if the parts do so from which it has been read. -/
def Expr.IsOperandOf (expr : Expr) (parts : List Piece) : Prop :=
  expr.IsOperand ∧ ((∀ part ∈ parts, part.StandsAlone) → expr.StandsAlone)

namespace Expr

theorem IsOperandOf.cons (part : Piece) (operand : expr.IsOperandOf parts) :
    expr.IsOperandOf (part :: parts) :=
  ⟨operand.1, fun alone => operand.2 (List.forall_mem_cons.mp alone).2⟩

/-- An operand that stands alone whatever it has been read from. -/
theorem IsOperandOf.of_standsAlone (isOperand : expr.IsOperand) (alone : expr.StandsAlone) :
    expr.IsOperandOf parts :=
  ⟨isOperand, fun _ => alone⟩

theorem isOperandOf_ofNegative? (read : ofNegative? parts = some expr) :
    expr.IsOperandOf parts := by
  unfold ofNegative? at read
  split at read
  · cases read
    exact ⟨trivial, fun alone => (standsForWords_integer (alone _ (List.mem_cons_self ..))).2⟩
  · cases read
    exact ⟨trivial, fun alone => (standsForWords_float (alone _ (List.mem_cons_self ..))).2⟩
  · cases read

theorem isOperandOf_ofKeyword? {word : String} (read : ofKeyword? word parts = some expr) :
    expr.IsOperandOf parts := by
  unfold ofKeyword? at read
  split at read
  · split at read
    · cases read
      exact .of_standsAlone trivial trivial
    split at read
    · cases read
      exact .of_standsAlone trivial trivial
    split at read
    · cases read
      exact .of_standsAlone trivial trivial
    · cases read
  · split at read
    · cases read
      refine ⟨trivial, fun alone => ⟨trivial, (everyAll_iff _ _ _).mpr ?_⟩⟩
      exact alone _ (List.mem_cons_self ..) _ rfl
    · cases read
  · split at read
    · cases read
      exact ⟨trivial, fun alone => ⟨trivial, alone _ (List.mem_cons_self ..) _ rfl⟩⟩
    · cases read
  · cases read

theorem isOperandOf_ofName? {name : String} {quoted : Bool}
    (read : ofName? name quoted parts = some expr) : expr.IsOperandOf parts := by
  unfold ofName? at read
  split at read
  · unfold ofTyped? at read
    split at read
    · cases read
    split at read
    · cases read
      exact .of_standsAlone trivial trivial
    split at read
    · cases read
      exact .of_standsAlone trivial trivial
    · cases read
  · obtain ⟨segments, -, rfl⟩ := Option.map_eq_some_iff.mp read
    exact .of_standsAlone (List.cons_ne_nil _ _) trivial

/-- What is read as an operand is one, made of the words it has been read from. -/
theorem isOperandOf_ofOperand? (read : ofOperand? parts = some expr) :
    expr.IsOperandOf parts := by
  unfold ofOperand? at read
  split at read
  · exact (isOperandOf_ofKeyword? read).cons _
  · exact (isOperandOf_ofName? read).cons _
  · split at read
    · exact (isOperandOf_ofNegative? read).cons _
    · cases read
  · cases read
    exact .of_standsAlone trivial trivial
  · cases read
    exact .of_standsAlone trivial trivial
  · cases read
    exact ⟨trivial, fun alone => (standsForWords_integer (alone _ (List.mem_cons_self ..))).1⟩
  · cases read
    exact ⟨trivial, fun alone => (standsForWords_float (alone _ (List.mem_cons_self ..))).1⟩
  · cases read
    exact ⟨trivial, fun alone => alone _ (List.mem_cons_self ..)⟩
  · cases read
    exact ⟨trivial, fun alone => ⟨trivial, alone _ (List.mem_cons_self ..) _ rfl⟩⟩
  · cases read
    refine ⟨trivial, fun alone => ⟨trivial, ?_⟩⟩
    exact alone _ (List.mem_cons_self ..) _ rfl _ (List.mem_cons_self ..)
  · cases read

end Expr

theorem Candidates.standsAlone_of_ofParts? {candidates : Candidates}
    (alone : ∀ part ∈ parts, part.StandsAlone)
    (read : Candidates.ofParts? parts = some candidates) :
    candidates.Every Expr.StandsForWords fun _ => True := by
  unfold Candidates.ofParts? at read
  split at read
  · cases read
    exact (Expr.everyAll_iff _ _ _).mpr (alone _ (List.mem_cons_self ..) _ rfl)
  · cases read
    exact alone _ (List.mem_cons_self ..) _ rfl
  · cases read
    have content := alone _ (List.mem_cons_of_mem _ (List.mem_cons_self ..)) _ rfl
    exact content _ (List.mem_cons_self ..)
  · cases read

/-- An operand or a test of operands that stands alone if the parts do so. -/
def Expr.IsFactorOf (expr : Expr) (parts : List Piece) : Prop :=
  (expr.IsOperand ∨ expr.IsTest) ∧ ((∀ part ∈ parts, part.StandsAlone) → expr.StandsAlone)

namespace Expr

theorem IsOperandOf.mono {others : List Piece} (first : operand.IsOperandOf parts)
    (within : parts ⊆ others) : operand.IsOperandOf others :=
  ⟨first.1, fun alone => first.2 fun part member => alone part (within member)⟩

theorem isFactorOf_ofPredicate? {negated : Bool} {word : String} {whole : List Piece}
    (first : operand.IsOperandOf whole) (within : parts ⊆ whole)
    (read : ofPredicate? operand negated word parts = some expr) : expr.IsFactorOf whole := by
  unfold ofPredicate? at read
  split at read
  · obtain ⟨right, found, rfl⟩ := Option.map_eq_some_iff.mp read
    have second := (isOperandOf_ofOperand? found).mono within
    have comparison : (if negated = true then Operator.notLike else .like).isLogical = false := by
      split <;> rfl
    exact ⟨.inr ⟨comparison, first.1, second.1⟩,
      fun alone => ⟨trivial, first.2 alone, second.2 alone⟩⟩
  split at read
  · obtain ⟨candidates, found, rfl⟩ := Option.map_eq_some_iff.mp read
    refine ⟨.inr first.1, fun alone => ⟨trivial, first.2 alone, ?_⟩⟩
    exact Candidates.standsAlone_of_ofParts? (fun part member => alone part (within member)) found
  split at read
  · obtain ⟨low, found, later⟩ := Option.bind_eq_some_iff.mp read
    have second := (isOperandOf_ofOperand? found).mono
      (List.Subset.trans (List.takeWhile_subset _) within)
    have behind := List.Subset.trans (List.dropWhile_suffix Part.inOperand).subset within
    split at later
    · rename_i rest opens
      rw [opens] at behind
      obtain ⟨high, found, same⟩ := Option.bind_eq_some_iff.mp later
      cases same
      have third := ((isOperandOf_ofOperand? found).cons _).mono behind
      exact ⟨.inr ⟨first.1, second.1, third.1⟩,
        fun alone => ⟨trivial, first.2 alone, second.2 alone, third.2 alone⟩⟩
    · cases later
  · cases read

theorem negation_subset : (Part.negation parts).2 ⊆ parts := by
  cases parts with
  | nil => exact List.Subset.refl _
  | cons part rest =>
      simp only [Part.negation]
      split
      · exact List.subset_cons_self ..
      · exact List.Subset.refl _

theorem isFactorOf_ofTest? {whole : List Piece} (first : operand.IsOperandOf whole)
    (within : parts ⊆ whole) (read : ofTest? operand parts = some expr) :
    expr.IsFactorOf whole := by
  unfold ofTest? at read
  split at read
  · cases read
    exact ⟨.inl first.1, first.2⟩
  · obtain ⟨operator, known, later⟩ := Option.bind_eq_some_iff.mp read
    obtain ⟨right, found, same⟩ := Option.bind_eq_some_iff.mp later
    cases same
    have second := ((isOperandOf_ofOperand? found).cons _).mono within
    have comparison : ∀ operator ∈ [Operator.equal, .notEqual, .less, .greater, .lessEqual,
        .greaterEqual], operator.isLogical = false := by
      decide
    exact ⟨.inr ⟨comparison operator (List.mem_of_find?_eq_some known), first.1, second.1⟩,
      fun alone => ⟨trivial, first.2 alone, second.2 alone⟩⟩
  · split at read
    · cases read
      exact ⟨.inr first.1, fun alone => ⟨trivial, first.2 alone⟩⟩
    · cases read
  · split at read
    · rename_i negated word rest opens
      have behind : rest ⊆ whole := by
        have row := List.Subset.trans negation_subset within
        rw [opens] at row
        exact List.Subset.trans (List.subset_cons_self ..) row
      exact isFactorOf_ofPredicate? first behind read
    · cases read

/-- What is read as a factor is an operand or a test of operands. -/
theorem isFactorOf_ofFactor? (read : ofFactor? parts = some expr) : expr.IsFactorOf parts := by
  obtain ⟨operand, first, test⟩ := Option.bind_eq_some_iff.mp read
  exact isFactorOf_ofTest? ((isOperandOf_ofOperand? first).mono (List.takeWhile_subset _))
    (List.dropWhile_suffix _).subset test

/-- Whatever is read from words that stand for themselves does so too. -/
theorem standsAlone_of_ofParts? (alone : ∀ part ∈ parts, part.StandsAlone)
    (read : ofParts? parts = some expr) : expr.StandsAlone := by
  refine Part.made_of_read? (fun connective first second => ?_)
    (fun piece within factor made => ?_) read
  · exact fun front back => ⟨trivial, front, back⟩
  · exact (isFactorOf_ofFactor? made).2 fun part member => alone part (within member)

end Expr

/-! ## Readings of queries -/

variable (alone : ∀ part ∈ parts, part.StandsAlone)

include alone

theorem SelectItem.standsAlone_of_ofParts? {item : SelectItem}
    (read : SelectItem.ofParts? parts = some item) : item.expr.StandsAlone := by
  obtain ⟨expr, first, later⟩ := Option.bind_eq_some_iff.mp read
  have projected : expr.StandsAlone :=
    Expr.standsAlone_of_ofParts?
      (fun part member => alone part (List.takeWhile_subset _ member)) first
  split at later
  · cases later
    exact projected
  · cases later
    exact projected
  · cases later

theorem OrderKey.standsAlone_of_ofParts? {key : OrderKey}
    (read : OrderKey.ofParts? parts = some key) : key.expr.StandsAlone := by
  obtain ⟨expr, first, later⟩ := Option.bind_eq_some_iff.mp read
  have sorted : expr.StandsAlone :=
    Expr.standsAlone_of_ofParts?
      (fun part member => alone part (List.takeWhile_subset _ member)) first
  split at later
  · cases later
    exact sorted
  · obtain ⟨direction, -, same⟩ := Option.bind_eq_some_iff.mp later
    cases same
    exact sorted
  · cases later

omit alone in
theorem OrderKey.standsAlone_of_ofClause? {clause : Option (List Piece)} {keys : List OrderKey}
    (alone : ∀ body ∈ clause, ∀ part ∈ body, part.StandsAlone)
    (read : OrderKey.ofClause? clause = some keys) : ∀ key ∈ keys, key.expr.StandsAlone := by
  unfold OrderKey.ofClause? at read
  split at read
  · cases read
    simp
  · intro key member
    obtain ⟨piece, within, made⟩ := Part.exists_of_mem_members? read key member
    have body := alone _ rfl
    exact OrderKey.standsAlone_of_ofParts?
      (fun part inside => body part (List.mem_cons_of_mem _ (within inside))) made
  · cases read

theorem Limit.standsAlone_of_ofParts? {limit : Limit} (read : Limit.ofParts? parts = some limit) :
    limit.count.StandsAlone ∧ ∀ offset ∈ limit.offset, offset.StandsAlone := by
  unfold Limit.ofParts? at read
  cases split : Part.cut (Part.isBareWord "OFFSET") parts with
  | mk front back =>
      rw [split] at read
      obtain ⟨first, second⟩ := Part.subset_of_cut split
      obtain ⟨count, counted, later⟩ := Option.bind_eq_some_iff.mp read
      obtain ⟨offset, skipped, same⟩ := Option.bind_eq_some_iff.mp later
      cases same
      refine ⟨Expr.standsAlone_of_ofParts? (fun part member => alone part (first member)) counted,
        fun expr member => ?_⟩
      obtain ⟨body, inside, made⟩ := Part.exists_of_mem_mapM_clause skipped expr member
      exact Expr.standsAlone_of_ofParts?
        (fun part within => alone part (second body inside within)) made

theorem Select.standsAlone_of_ofParts? {query : Select}
    (read : Select.ofParts? parts = some query) : query.StandsAlone := by
  unfold Select.ofParts? at read
  cases cutLimit : Part.cut (Part.isKeyword "LIMIT") parts with
  | mk unlimited limit =>
  cases cutOrder : Part.cut (Part.isKeyword "ORDER") unlimited with
  | mk unordered order =>
  cases cutFilter : Part.cut (Part.isKeyword "WHERE") unordered with
  | mk unfiltered filter =>
  cases cutSource : Part.cut (Part.isKeyword "FROM") unfiltered with
  | mk projection source =>
      simp only [cutLimit, cutOrder, cutFilter, cutSource] at read
      obtain ⟨inLimit, limits⟩ := Part.subset_of_cut cutLimit
      obtain ⟨inOrder, orders⟩ := Part.subset_of_cut cutOrder
      obtain ⟨inFilter, filters⟩ := Part.subset_of_cut cutFilter
      obtain ⟨inSource, -⟩ := Part.subset_of_cut cutSource
      obtain ⟨items, projected, later⟩ := Option.bind_eq_some_iff.mp read
      split at later
      · obtain ⟨tested, filtered, later⟩ := Option.bind_eq_some_iff.mp later
        obtain ⟨keys, sorted, later⟩ := Option.bind_eq_some_iff.mp later
        obtain ⟨range, limited, same⟩ := Option.bind_eq_some_iff.mp later
        cases same
        refine ⟨trivial, ?_, ?_, ?_, ?_⟩
        · rw [SelectItem.everyAll_iff]
          intro item member
          obtain ⟨piece, within, made⟩ := Part.exists_of_mem_members? projected item member
          have projection : piece ⊆ parts := fun part inside =>
            inLimit (inOrder (inFilter (inSource (within inside))))
          exact SelectItem.standsAlone_of_ofParts?
            (fun part inside => alone part (projection inside)) made
        · rw [Expr.every?_iff]
          intro expr member
          obtain ⟨body, inside, made⟩ := Part.exists_of_mem_mapM_clause filtered expr member
          exact Expr.standsAlone_of_ofParts?
            (fun part within => alone part (inLimit (inOrder (filters body inside within)))) made
        · rw [OrderKey.everyAll_iff]
          exact OrderKey.standsAlone_of_ofClause?
            (fun body inside part within => alone part (inLimit (orders body inside within))) sorted
        · rw [Limit.every?_iff]
          intro limit member
          obtain ⟨body, inside, made⟩ := Part.exists_of_mem_mapM_clause limited limit member
          exact Limit.standsAlone_of_ofParts?
            (fun part within => alone part (limits body inside within)) made
      · cases later

theorem Content.standsAlone_of_ofParts? {content : Content}
    (read : Content.ofParts? parts = some content) : content.StandsAlone := by
  unfold Content.ofParts? at read
  split at read
  · obtain ⟨query, made, rfl⟩ := Option.map_eq_some_iff.mp read
    exact Select.standsAlone_of_ofParts? (List.forall_mem_cons.mp alone).2 made
  · obtain ⟨elements, made, rfl⟩ := Option.map_eq_some_iff.mp read
    intro element member
    obtain ⟨piece, within, single⟩ := Part.exists_of_mem_members? made element member
    exact Expr.standsAlone_of_ofParts? (fun part inside => alone part (within inside)) single

end Reading

/-! ## Readings of trees -/

mutual

/-- A tree of words that stand for themselves is read as a part that does so. -/
theorem TokenTree.standsAlone_part :
    (tree : TokenTree) → (∀ word, .word word ∈ tree.tokens → word.StandsAlone) →
      (tree.part Content.ofParts?).StandsAlone
  | .leaf word, alone => by
      rw [part_leaf]
      exact alone word (by simp [tokens])
  | .group bracket inner, alone => by
      rw [part_group]
      intro content read
      refine Content.standsAlone_of_ofParts? (TokenTree.standsAlone_pieces inner ?_) read
      exact fun word member => alone word (by simp [tokens, member])

theorem TokenTree.standsAlone_pieces :
    (trees : List TokenTree) → (∀ word, .word word ∈ flatten trees → word.StandsAlone) →
      ∀ part ∈ pieces trees, part.StandsAlone
  | [], _ => by simp [pieces]
  | tree :: rest, alone => by
      rw [pieces, List.map_cons, List.forall_mem_cons]
      constructor
      · exact TokenTree.standsAlone_part tree fun word member =>
          alone word (by simp [flatten, member])
      · exact TokenTree.standsAlone_pieces rest fun word member =>
          alone word (by simp [flatten, member])

end

/-- The expression that SQL text is read as. -/
def Expr.parse? (sql : String) : Option Expr := do
  let tokens ← tokenize? sql.toList
  let trees ← TokenTree.group? tokens
  Expr.ofParts? (TokenTree.pieces trees)

/-- What is read from a text stands for itself. -/
theorem Expr.standsAlone_of_parse? {sql : String} {expr : Expr}
    (read : Expr.parse? sql = some expr) : expr.StandsAlone := by
  obtain ⟨tokens, cut, later⟩ := Option.bind_eq_some_iff.mp read
  obtain ⟨trees, grouped, made⟩ := Option.bind_eq_some_iff.mp later
  refine Expr.standsAlone_of_ofParts? (TokenTree.standsAlone_pieces trees ?_) made
  rw [TokenTree.flatten_of_group? grouped]
  exact Word.standsAlone_of_tokenize? cut

end SqlBuilder

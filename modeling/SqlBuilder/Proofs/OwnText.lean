import SqlBuilder.Proofs.ReadingWords

/-!
# Expressions that are read back from their own text

An expression is read back when its own text is read as the expression, up to the
way in which chains of one connective are put together.  An expression and its
left chained form have the same leaves, so all leaves of such an expression have
been read from words.  Its text then stands for its trees, and keeps doing so as a
part of a longer text.
-/

namespace SqlBuilder

/-! ## The leaves of a chain -/

section Leaves

variable {node : Expr → Prop} (free : ∀ expr : Expr, ¬ expr.IsLeaf → node expr)

include free

namespace Expr

theorem every_logical_iff (connective : Connective) (left right : Expr) :
    (binary (.logical connective) left right).Every node (fun _ => True) ↔
      left.Every node (fun _ => True) ∧ right.Every node (fun _ => True) :=
  ⟨And.right, fun both => ⟨free _ id, both⟩⟩

theorem every_links_iff (connective : Connective) (expr : Expr) :
    (∀ link ∈ expr.links connective, link.Every node (fun _ => True)) ↔
      expr.Every node (fun _ => True) := by
  induction expr using Expr.links.induct connective with
  | case1 left right ih =>
      rw [links_logical, List.forall_mem_append, List.forall_mem_singleton, ih,
        every_logical_iff free]
  | case2 operator left right other =>
      rw [links, if_neg other, List.forall_mem_singleton]
  | case3 expr other =>
      have alone : expr.topOperator? ≠ some (.logical connective) := by
        cases expr with
        | binary operator left right => exact absurd rfl (other operator left right)
        | _ => simp [topOperator?]
      rw [links_eq_singleton alone, List.forall_mem_singleton]

theorem every_relinked_iff (expr : Expr) :
    expr.relinked.Every node (fun _ => True) ↔ expr.Every node (fun _ => True) := by
  unfold relinked
  split
  · rename_i connective left right
    rw [← every_links_iff free connective, links_foldl, List.forall_mem_append,
      every_links_iff free, every_links_iff free, every_logical_iff free]
  · exact Iff.rfl

/-- An expression and its left chained form have the same leaves. -/
theorem every_leftChained_all :
    (∀ expr : Expr,
      expr.leftChained.Every node (fun _ => True) ↔ expr.Every node (fun _ => True)) ∧
    (∀ candidates : Candidates,
      (candidates.rebuild relinked id).Every node (fun _ => True) ↔
        candidates.Every node (fun _ => True)) ∧
    ∀ query : Select,
      query.leftChained.Every node (fun _ => True) ↔ query.Every node (fun _ => True) :=
  every_rebuild_all
    (fun expr isLeaf => by
      show expr.leftChained.Every node (fun _ => True) ↔ node expr
      rw [leftChained_of_isLeaf isLeaf]
      exact ⟨Every.self _ _, every_of_isLeaf _ _ isLeaf⟩)
    (fun expr isInner => ⟨free expr isInner, free expr isInner⟩)
    (fun expr _ => every_relinked_iff free expr)

end Expr

end Leaves

theorem Expr.standsAlone_leftChained_iff (expr : Expr) :
    expr.leftChained.StandsAlone ↔ expr.StandsAlone :=
  (Expr.every_leftChained_all Expr.standsForWords_of_not_isLeaf).1 expr

theorem Select.standsAlone_leftChained_iff (query : Select) :
    query.leftChained.StandsAlone ↔ query.StandsAlone :=
  (Expr.every_leftChained_all Expr.standsForWords_of_not_isLeaf).2.2 query

/-! ## Reading back -/

/-- The text of an expression is read as the expression, up to how its chains are put together. -/
def Expr.ReadsBack (expr : Expr) : Prop :=
  ∃ reading, Expr.parse? expr.sql = some reading ∧ reading.leftChained = expr.leftChained

/-- The text of a query is read as the query, up to how the chains in it are put together. -/
def Select.ReadsBack (query : Select) : Prop :=
  ∃ reading, Statement.parse? query.sql = some (.select reading) ∧
    reading.leftChained = query.leftChained

namespace Expr

variable {expr : Expr}

/-- The text of an expression that stands alone is read as the expression's trees are. -/
theorem StandsAlone.parse?_sql (alone : expr.StandsAlone) :
    parse? expr.sql = ofParts? expr.pieces := by
  have tokens := (expr.spells_of_leaves alone).tokenize?_eq
  rw [parse?, sql, String.toList_ofList, tokens]
  simp only [Option.bind_eq_bind, Option.bind_some, TokenTree.group?_flatten]
  rfl

theorem ReadsBack.standsAlone (back : expr.ReadsBack) : expr.StandsAlone := by
  obtain ⟨reading, read, same⟩ := back
  have alone := (standsAlone_leftChained_iff reading).mpr (standsAlone_of_parse? read)
  rw [same] at alone
  exact (standsAlone_leftChained_iff expr).mp alone

/-- An expression that is read back stands alone, and its trees are read as the expression. -/
theorem readsBack_iff :
    expr.ReadsBack ↔ expr.StandsAlone ∧
      ∃ reading, ofParts? expr.pieces = some reading ∧
        reading.leftChained = expr.leftChained := by
  constructor
  · intro back
    have alone := back.standsAlone
    obtain ⟨reading, read, same⟩ := back
    rw [alone.parse?_sql] at read
    exact ⟨alone, reading, read, same⟩
  · rintro ⟨alone, reading, read, same⟩
    exact ⟨reading, alone.parse?_sql.trans read, same⟩

/-- A readable expression is read back. -/
theorem IsReadable.readsBack (readable : expr.IsReadable) : expr.ReadsBack := by
  have alone : expr.StandsAlone :=
    (Every.mono_all (fun _ node => (IsReadableNode.isSpelled node).standsForWords)
      fun _ _ => trivial).1 expr readable
  exact readsBack_iff.mpr
    ⟨alone, _, readable.isReadBack.ofParts?, leftChained_leftChained expr⟩

end Expr

/-- What is read as a SELECT statement is read as a query in brackets. -/
theorem Content.ofParts?_of_select {parts : List Piece} {query : Select}
    (read : Statement.ofParts? parts = some (.select query)) :
    Content.ofParts? parts = some (.query query) := by
  cases parts with
  | nil => cases read
  | cons part rest =>
      simp only [Statement.ofParts?] at read
      split at read
      · rename_i opens
        obtain rfl : part = .word (.keyword "SELECT") := Part.eq_of_isKeyword opens
        obtain ⟨found, made, same⟩ := Option.map_eq_some_iff.mp read
        cases same
        exact Option.map_eq_some_iff.mpr ⟨query, made, rfl⟩
      split at read
      · obtain ⟨found, -, same⟩ := Option.map_eq_some_iff.mp read
        cases same
      split at read
      · obtain ⟨found, -, same⟩ := Option.map_eq_some_iff.mp read
        cases same
      split at read
      · obtain ⟨found, -, same⟩ := Option.map_eq_some_iff.mp read
        cases same
      · cases read

namespace Select

variable {query : Select}

/-- A query that is read back stands alone, and is read from its trees. -/
theorem ReadsBack.standsAlone_and_read (back : query.ReadsBack) :
    query.StandsAlone ∧ ∃ reading,
      Content.ofParts? (TokenTree.pieces query.trees) = some (.query reading) ∧
        reading.leftChained = query.leftChained := by
  obtain ⟨reading, read, same⟩ := back
  obtain ⟨tokens, cut, later⟩ := Option.bind_eq_some_iff.mp read
  obtain ⟨trees, grouped, made⟩ := Option.bind_eq_some_iff.mp later
  have words : (∀ word, .word word ∈ TokenTree.flatten trees → word.StandsAlone) := by
    rw [TokenTree.flatten_of_group? grouped]
    exact Word.standsAlone_of_tokenize? cut
  have alone : query.StandsAlone := by
    rw [← standsAlone_leftChained_iff, ← same, standsAlone_leftChained_iff]
    exact Content.standsAlone_of_ofParts? (TokenTree.standsAlone_pieces trees words)
      (Content.ofParts?_of_select made)
  refine ⟨alone, reading, Content.ofParts?_of_select ?_, same⟩
  have again := (query.spells_of_leaves alone).tokenize?_eq
  rw [sql, String.toList_ofList, again] at cut
  cases cut
  rw [TokenTree.group?_flatten] at grouped
  cases grouped
  exact made

theorem IsReadable.readsBack (readable : query.IsReadable) : query.ReadsBack := by
  have whole : (Statement.select query).IsReadable := ⟨readable, trivial⟩
  have read := Statement.parse?_sql whole
  have chained : (Statement.select query).leftChained = .select query.leftChained := rfl
  rw [chained] at read
  exact ⟨query.leftChained, read, Expr.leftChained_leftChained_all.2.2 query⟩

end Select

end SqlBuilder

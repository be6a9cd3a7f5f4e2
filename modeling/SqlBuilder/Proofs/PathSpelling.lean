import SqlBuilder.Proofs.ExprTokens
import SqlBuilder.Value.Convert

/-!
# How paths are spelled

A name is spelled bare or between backticks.  A bare name is as long as the text lets
it be, and is not reserved; between backticks a name may hold anything, so also dots,
and may be empty.  In a path one more name has to follow on every dot behind a name.

The main statement is that the text of a path spells its segments and no others, with
any text behind it that does not go on with a name or a path.  A dot within a segment
is never taken for one between segments, so no two paths have the same text.
-/

namespace SqlBuilder

/-! ## Names -/

/-- A text opens with a name and goes on with what stands behind it. -/
inductive Text.OpensWithName : Text → String → Text → Prop where
  | bare {first : Char} {others after : Text} (start : IsNameStart first)
      (inName : ∀ c ∈ others, IsNameRest c)
      (free : ¬ IsReserved (String.ofList (first :: others)))
      (whole : ∀ c ∈ after.head?, ¬ IsNameRest c) :
      OpensWithName (first :: others ++ after) (String.ofList (first :: others)) after
  | quoted {body content after : Text}
      (spells : QuotedForm.characters.Spells backtick body content) :
      OpensWithName (backtick :: body ++ backtick :: after) (String.ofList content) after

/-- A text opens with a path of names and goes on with what stands behind it. -/
inductive Text.OpensWithPath : Text → List String → Text → Prop where
  | last {text after : Text} {name : String} (first : text.OpensWithName name after)
      (noDot : after.head? ≠ some '.') : OpensWithPath text [name] after
  | dot {text back after : Text} {name : String} {names : List String}
      (first : text.OpensWithName name ('.' :: back)) (others : OpensWithPath back names after) :
      OpensWithPath text (name :: names) after

theorem not_isNameStart_backtick : ¬ IsNameStart backtick := by
  decide

namespace Text

variable {text after behind : Text} {name other : String} {names others : List String}

/-- What a text opens with is one name, which ends at one place. -/
theorem OpensWithName.unique (opens : text.OpensWithName name after)
    (again : text.OpensWithName other behind) : other = name ∧ behind = after := by
  cases opens with
  | @bare first letters _ start inName _ whole =>
      generalize same : first :: letters ++ after = text at again
      cases again with
      | @bare first' letters' _ _ inName' _ whole' =>
          obtain rfl : first = first' := (List.cons.inj same).1
          have rest : letters ++ after = letters' ++ behind := (List.cons.inj same).2
          obtain ⟨taken, left⟩ := takeWhile_followsInName_append inName whole
          obtain ⟨taken', left'⟩ := takeWhile_followsInName_append inName' whole'
          rw [rest] at taken left
          rw [← taken, ← left, taken', left']
          exact ⟨rfl, rfl⟩
      | quoted =>
          obtain ⟨rfl, -⟩ := List.cons.inj same
          exact absurd start not_isNameStart_backtick
  | @quoted body content _ spells =>
      generalize same : backtick :: body ++ backtick :: after = text at again
      cases again with
      | bare start =>
          obtain ⟨rfl, -⟩ := List.cons.inj same
          exact absurd start not_isNameStart_backtick
      | quoted spells' =>
          obtain ⟨rfl, rfl⟩ := spells.unique (.inr rfl) spells' (List.cons.inj same).2
          exact ⟨rfl, rfl⟩

/-- What a text opens with is one path, which ends at one place. -/
theorem OpensWithPath.unique (opens : text.OpensWithPath names after)
    (again : text.OpensWithPath others behind) : others = names ∧ behind = after := by
  induction opens generalizing others with
  | last first noDot =>
      cases again with
      | last first' _ =>
          obtain ⟨rfl, rfl⟩ := first.unique first'
          exact ⟨rfl, rfl⟩
      | dot first' _ =>
          obtain ⟨-, rfl⟩ := first.unique first'
          exact absurd rfl noDot
  | dot first _ ih =>
      cases again with
      | last first' noDot =>
          obtain ⟨-, rfl⟩ := first.unique first'
          exact absurd rfl noDot
      | dot first' others' =>
          obtain ⟨rfl, same⟩ := first.unique first'
          obtain rfl := (List.cons.inj same).2
          obtain ⟨rfl, rfl⟩ := ih others'
          exact ⟨rfl, rfl⟩

theorem OpensWithPath.ne_nil (opens : text.OpensWithPath names after) : text ≠ [] := by
  have named {name : String} {after : Text} (first : text.OpensWithName name after) :
      text ≠ [] := by
    cases first <;> exact List.cons_ne_nil _ _
  cases opens with
  | last first => exact named first
  | dot first => exact named first

end Text

/-! ## Written names -/

theorem isPlain_iff (name : String) :
    IsPlain name ↔ ∃ first others, name.toList = first :: others ∧ IsNameStart first ∧
      ∀ c ∈ others, IsNameRest c := by
  unfold IsPlain
  cases name.toList with
  | nil => simp [IsPlainText]
  | cons first others =>
      constructor
      · exact fun plain => ⟨first, others, rfl, plain⟩
      · rintro ⟨_, _, ⟨⟩, plain⟩
        exact plain

/-- The text of a name opens with it, unless the name goes on behind it. -/
theorem opensWithName_identifier (name : String) {rest : Text}
    (whole : ∀ c ∈ rest.head?, ¬ IsNameRest c) :
    (identifier name ++ rest).OpensWithName name rest := by
  by_cases bare : IsBare name
  · obtain ⟨first, others, letters, start, inName⟩ := (isPlain_iff name).mp bare.1
    have spelling : String.ofList (first :: others) = name := by
      rw [← letters, String.ofList_toList]
    have free : ¬ IsReserved (String.ofList (first :: others)) := spelling.symm ▸ bare.2
    have opens := Text.OpensWithName.bare start inName free whole
    rwa [identifier, if_pos bare, letters, ← spelling]
  · have spells := spells_escaped (.inr rfl) name.toList
    have opens : Text.OpensWithName _ _ rest := .quoted spells
    rw [String.ofList_toList] at opens
    rw [identifier, if_neg bare]
    simpa [quoted] using opens

/-- The text of a path opens with it, unless a name or a path goes on behind it. -/
theorem opensWithPath_path {segments : List String} (present : segments ≠ []) {rest : Text}
    (stop : ∀ c ∈ rest.head?, ¬ IsNameRest c ∧ c ≠ '.') :
    (path segments ++ rest).OpensWithPath segments rest := by
  have whole : ∀ c ∈ rest.head?, ¬ IsNameRest c := fun c member => (stop c member).1
  have noDot : rest.head? ≠ some '.' := fun dot => (stop '.' dot).2 rfl
  induction segments with
  | nil => exact absurd rfl present
  | cons segment others ih =>
      cases others with
      | nil =>
          have text : path [segment] = identifier segment := by simp [path, List.intercalate]
          rw [text]
          exact .last (opensWithName_identifier segment whole) noDot
      | cons next others =>
          have dot : ∀ c ∈ ('.' :: (path (next :: others) ++ rest)).head?, ¬ IsNameRest c := by
            rintro c ⟨⟩
            decide
          rw [path_cons_cons, List.append_assoc, List.cons_append]
          exact .dot (opensWithName_identifier segment dot) (ih (List.cons_ne_nil _ _))

/-- Backticks are written around a name unless it is bare. -/
theorem backtick_not_mem_identifier_iff (name : String) :
    backtick ∉ identifier name ↔ IsBare name := by
  by_cases bare : IsBare name
  · obtain ⟨first, others, letters, start, inName⟩ := (isPlain_iff name).mp bare.1
    have other {c : Char} (letter : IsNameRest c) : backtick ≠ c := by
      rintro rfl
      exact absurd letter (by decide)
    rw [identifier, if_pos bare, letters, List.mem_cons, not_or]
    refine iff_of_true ⟨other start.isNameRest, fun member => ?_⟩ bare
    exact other (inName _ member) rfl
  · rw [identifier, if_neg bare]
    exact iff_of_false (fun absent => absent (List.mem_cons_self ..)) bare

/-- A path without segments is no text, and any other is the text of no other path. -/
theorem path_injective : Function.Injective path := by
  have opens (first : String) (others : List String) :
      (path (first :: others)).OpensWithPath (first :: others) [] := by
    have read : (path (first :: others) ++ []).OpensWithPath (first :: others) [] :=
      opensWithPath_path (List.cons_ne_nil first others) (by simp)
    rwa [List.append_nil] at read
  intro segments others same
  cases segments with
  | nil =>
      cases others with
      | nil => rfl
      | cons next later => exact absurd same.symm (opens next later).ne_nil
  | cons first rest =>
      cases others with
      | nil => exact absurd same (opens first rest).ne_nil
      | cons next later =>
          have read := opens first rest
          rw [same] at read
          exact ((opens next later).unique read).1

/--
A path with a segment has an expression.  With any text behind it that opens neither
with a character of a name nor with a dot, the text of the expression is read as the
very segments, and the reading stops at the text behind.  A segment has no backticks
around it exactly where it is made of letters, digits and underscores, with no digit
in front, and no reserved word agrees with it in whatever case.  No other path has
the same text.
-/
theorem path_readExactly (segments : List String) (present : segments ≠ []) (rest : Text)
    (stop : ∀ c ∈ rest.head?, ¬ IsNameRest c ∧ c ≠ '.') :
    ∃ expr, (Value.identifier ⟨segments⟩).toExpr = .ok expr ∧
      expr.text = List.intercalate ['.'] (segments.map identifier) ∧
      (∀ names after,
        (expr.text ++ rest).OpensWithPath names after ↔ names = segments ∧ after = rest) ∧
      (∀ segment ∈ segments, backtick ∉ identifier segment ↔
        (∃ first others, segment.toList = first :: others ∧
          (first.isAlpha = true ∨ first = '_') ∧
          ∀ c ∈ others, c.isAlphanum = true ∨ c = '_') ∧
        ∀ word ∈ reservedWords, ¬ SameName word segment) ∧
      ∀ others, path others = expr.text → others = segments := by
  have opens := opensWithPath_path present stop
  refine ⟨.path segments, ?_, rfl, ?_, ?_, ?_⟩
  · rw [Value.toExpr, Identifier.toExpr, if_neg present]
  · intro names after
    constructor
    · exact opens.unique
    · rintro ⟨rfl, rfl⟩
      exact opens
  · intro segment _
    rw [backtick_not_mem_identifier_iff, IsBare, isPlain_iff, IsReserved]
    simp only [not_exists, not_and]
    rfl
  · exact fun others same => path_injective same

/-- Segments with dots, backticks and escapes in them, an empty one, and reserved words. -/
def hostileSegments : List String :=
  ["a.b", "", "c`.`d\\x41", "wHeRe", "_where", "\n1\u0085"]

/-- What stands behind a path may open with a blank, and go on with anything. -/
theorem hostileSegments_readExactly :
    hostileSegments ≠ [] ∧
      (∀ c ∈ " .b`".toList.head?, ¬ IsNameRest c ∧ c ≠ '.') ∧
      ∃ expr, (Value.identifier ⟨hostileSegments⟩).toExpr = .ok expr ∧
        expr.text = "`a.b`.``.`c\\`.\\`d\\\\x41`.`wHeRe`._where.`\\n1\\u0085`".toList ∧
        (expr.text ++ " .b`".toList).OpensWithPath hostileSegments " .b`".toList ∧
        path ["a", "b"] ≠ expr.text := by
  have present : hostileSegments ≠ [] := List.cons_ne_nil _ _
  have stop : ∀ c ∈ " .b`".toList.head?, ¬ IsNameRest c ∧ c ≠ '.' := by
    rintro c ⟨⟩
    decide
  obtain ⟨expr, converted, text, read, -, distinct⟩ :=
    path_readExactly hostileSegments present " .b`".toList stop
  refine ⟨present, stop, expr, converted, ?_, (read _ _).mpr ⟨rfl, rfl⟩, fun same => ?_⟩
  · rw [text]
    decide +kernel
  · exact absurd (distinct _ same) (by decide)

end SqlBuilder

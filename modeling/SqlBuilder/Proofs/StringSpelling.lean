import SqlBuilder.Proofs.LiteralReader

/-!
# How strings are spelled

Between double quotes a character can be spelled in three ways: as itself, by a
letter behind a backslash, or by its code, in two, four or eight hexadecimal
digits behind a letter that says how many there are.  All of them but the first
open with a backslash, and a code has no closing mark.

The main statement is that the STRING literal of a text spells this text and no
other, whatever stands behind it, unless it is one more double quote: two of them
with nothing in between and a third behind them open a literal of another kind.
-/

namespace SqlBuilder

/-! ## Spellings -/

/-- The letters that stand behind a backslash, and the characters they name. -/
def letterEscapes : List (Char × Char) :=
  [('\\', '\\'), (doubleQuote, doubleQuote), ('a', '\x07'), ('b', '\x08'), ('f', '\x0c'),
    ('n', '\n'), ('r', '\r'), ('t', '\t'), ('v', '\x0b')]

/-- The letters that stand in front of a code, and how many digits follow. -/
def codeEscapes : List (Char × Nat) :=
  [('x', 2), ('u', 4), ('U', 8)]

/-- A piece of text spells a character. -/
inductive Spelling : Text → Char → Prop where
  | itself (c : Char) (noQuote : c ≠ doubleQuote) (noBackslash : c ≠ '\\')
      (sameLine : c ≠ '\n' ∧ c ≠ '\r') : Spelling [c] c
  | letter {letter c : Char} (names : (letter, c) ∈ letterEscapes) : Spelling ['\\', letter] c
  | code {letter c : Char} {digits : Text} (opens : (letter, digits.length) ∈ codeEscapes)
      (value : hexValueFrom? 0 digits = some c.toNat) : Spelling ('\\' :: letter :: digits) c

/-- A text spells characters, one after the other. -/
inductive Spelled : Text → Text → Prop where
  | nil : Spelled [] []
  | cons {piece body content : Text} {c : Char} (first : Spelling piece c)
      (others : Spelled body content) : Spelled (piece ++ body) (c :: content)

/--
A text opens with a string between double quotes, which spells `content`, and
goes on with `after`.  Three double quotes do not open such a string.
-/
def Text.OpensWithString (text content after : Text) : Prop :=
  ∃ body, text = doubleQuote :: body ++ doubleQuote :: after ∧ Spelled body content ∧
    (body = [] → after.head? ≠ some doubleQuote)

/-- The characters of a text that are left if each backslash is taken away with what it stands before. -/
def Text.unescaped : Text → Text
  | [] => []
  | '\\' :: _ :: rest => unescaped rest
  | c :: rest => c :: unescaped rest

/-! ## Codes -/

section Code

variable {c : Char} {value : Nat} {digits : Text}

theorem digitValue?_of_mem (read : hexValueFrom? value digits = some c.toNat) :
    ∀ digit ∈ digits, (digitValue? 16 digit).isSome := by
  induction digits generalizing value with
  | nil => simp
  | cons first rest ih =>
      obtain ⟨number, known, others⟩ := Option.bind_eq_some_iff.mp read
      rw [List.forall_mem_cons, known]
      exact ⟨rfl, ih others⟩

theorem digit_ne (digit : (digitValue? 16 c).isSome) : c ≠ doubleQuote ∧ c ≠ '\\' := by
  constructor <;>
  · rintro rfl
    revert digit
    decide

end Code

/-! ## Spellings are read -/

/-- These spellings are among those that quoted text admits. -/
theorem Spelling.spellsPiece {piece : Text} {c : Char} (spelling : Spelling piece c) :
    QuotedForm.characters.SpellsPiece doubleQuote piece [c] := by
  cases spelling with
  | itself _ noQuote noBackslash sameLine => exact .itself c noQuote noBackslash sameLine
  | letter names =>
      have admitted : letterEscapes ⊆ namedCharacters := by decide
      exact .letter (admitted names)
  | code opens value =>
      have admitted : codeEscapes ⊆ QuotedForm.characters.codeLetters := by decide
      exact .code (admitted opens) value (QuotedForm.characters_code?_toNat c)

namespace Spelled

variable {body content : Text}

theorem spells (spelled : Spelled body content) :
    QuotedForm.characters.Spells doubleQuote body content := by
  induction spelled with
  | nil => exact .nil
  | cons first _ ih => exact .cons first.spellsPiece ih

theorem of_forall {written : Char → Text} (each : ∀ c ∈ content, Spelling (written c) c) :
    Spelled (content.flatMap written) content := by
  induction content with
  | nil => exact .nil
  | cons c rest ih =>
      rw [List.forall_mem_cons] at each
      exact .cons each.1 (ih each.2)

end Spelled

/-- What a text opens with is one string, which ends at one place. -/
theorem Text.OpensWithString.unique {text content other after behind : Text}
    (opens : text.OpensWithString content after) (again : text.OpensWithString other behind) :
    other = content ∧ behind = after := by
  obtain ⟨body, rfl, spelled, -⟩ := opens
  obtain ⟨inner, same, spelledToo, -⟩ := again
  exact spelled.spells.unique (.inl rfl) spelledToo.spells (List.cons.inj same).2

/-! ## What is not escaped -/

theorem Text.unescaped_append_of_forall {front : Text}
    (noBackslash : ∀ c ∈ front, c ≠ '\\') (back : Text) :
    unescaped (front ++ back) = front ++ unescaped back := by
  induction front with
  | nil => rfl
  | cons c rest ih =>
      rw [List.forall_mem_cons] at noBackslash
      rw [List.cons_append, unescaped, ih noBackslash.2, List.cons_append]
      intro _ _ same _
      exact noBackslash.1 same

/-- The piece of a character adds neither a quote nor a backslash to what is not escaped. -/
theorem Spelling.unescaped_append {piece : Text} {c : Char} (spelling : Spelling piece c)
    (back : Text) :
    ∃ kept, Text.unescaped (piece ++ back) = kept ++ back.unescaped ∧
      ∀ d ∈ kept, d ≠ doubleQuote ∧ d ≠ '\\' := by
  cases spelling with
  | itself _ noQuote noBackslash =>
      refine ⟨[c], Text.unescaped_append_of_forall ?_ back, ?_⟩
      · exact List.forall_mem_singleton.mpr noBackslash
      · exact List.forall_mem_singleton.mpr ⟨noQuote, noBackslash⟩
  | letter => exact ⟨[], rfl, fun _ member => absurd member List.not_mem_nil⟩
  | @code _ _ digits _ value =>
      have others (digit : Char) (member : digit ∈ digits) :=
        digit_ne (digitValue?_of_mem value digit member)
      refine ⟨digits, ?_, others⟩
      exact Text.unescaped_append_of_forall (fun d member => (others d member).2) back

theorem Spelled.ne_of_mem_unescaped {body content : Text} (spelled : Spelled body content) :
    ∀ c ∈ body.unescaped, c ≠ doubleQuote ∧ c ≠ '\\' := by
  induction spelled with
  | nil => exact fun _ member => absurd member List.not_mem_nil
  | @cons _ body _ _ first _ ih =>
      obtain ⟨kept, whole, others⟩ := first.unescaped_append body
      rw [whole]
      exact List.forall_mem_append.mpr ⟨others, ih⟩

/-! ## Written strings -/

theorem spelling_escape (c : Char) : Spelling (escape doubleQuote c) c := by
  by_cases special : c = doubleQuote ∨ c = '\\'
  · rw [escape, if_pos special]
    rcases special with rfl | rfl <;> exact .letter (by decide)
  by_cases control : IsControl c
  · have code {letter : Char} {width : Nat} (wide : 2 ≤ width)
        (opens : (letter, width) ∈ codeEscapes) :
        Spelling ('\\' :: letter :: Text.hexadecimal width c.toNat) c := by
      refine .code ?_ (hexValueFrom?_hexadecimal wide control.toNat_lt)
      rwa [length_hexadecimal wide control.toNat_lt]
    rw [escape, if_neg special, if_pos control, controlEscape]
    cases short : shortEscape? c with
    | some letter =>
        unfold shortEscape? at short
        split at short <;> cases short <;> exact .letter (by decide)
    | none =>
        show Spelling (codeEscape c) c
        rw [codeEscape]
        split
        · exact code (by decide) (by decide)
        · exact code (by decide) (by decide)
  · rw [escape, if_neg special, if_neg control]
    refine .itself c (fun equal => special (.inl equal)) (fun equal => special (.inr equal)) ?_
    constructor <;>
    · rintro rfl
      exact control (by decide)

theorem not_isControl_of_mem_escape (c : Char) :
    ∀ d ∈ escape doubleQuote c, ¬ IsControl d := by
  have behind {letter : Char} {rest : Text} (visible : ¬ IsControl letter)
      (others : ∀ d ∈ rest, ¬ IsControl d) : ∀ d ∈ '\\' :: letter :: rest, ¬ IsControl d :=
    List.forall_mem_cons.mpr ⟨by decide, List.forall_mem_cons.mpr ⟨visible, others⟩⟩
  have none : ∀ d ∈ ([] : Text), ¬ IsControl d := fun _ member => absurd member List.not_mem_nil
  by_cases special : c = doubleQuote ∨ c = '\\'
  · rw [escape, if_pos special]
    rcases special with rfl | rfl <;> exact behind (by decide) none
  by_cases control : IsControl c
  · rw [escape, if_neg special, if_pos control, controlEscape]
    cases short : shortEscape? c with
    | some letter =>
        unfold shortEscape? at short
        split at short <;> cases short <;> exact behind (by decide) none
    | none =>
        have digit : ∀ value < 16, ¬ IsControl value.digitChar := by decide
        show ∀ d ∈ codeEscape c, ¬ IsControl d
        rw [codeEscape]
        split
        · exact behind (by decide)
            (forall_mem_hexadecimal (Nat.le_refl 2) control.toNat_lt digit)
        · exact behind (by decide)
            (forall_mem_hexadecimal (by decide) control.toNat_lt digit)
  · rw [escape, if_neg special, if_neg control]
    exact List.forall_mem_singleton.mpr control

/--
With any text behind it that does not open with a double quote, a STRING literal is
read as the very characters it was written for, and the reading stops at the text
behind: so the rules of spelling have it, and so does the reader of tokens.  The
literal holds no control character, and between its quotes every other quote and
every backslash is part of an escape.
-/
theorem stringLiteral_readExactly (content : String) (rest : Text)
    (noQuote : rest.head? ≠ some doubleQuote) :
    (∀ inside after,
        (stringLiteral content ++ rest).OpensWithString inside after ↔
          inside = content.toList ∧ after = rest) ∧
      nextToken? (stringLiteral content ++ rest) = some (.word (.string content), rest) ∧
      (∀ c ∈ stringLiteral content, ¬ IsControl c) ∧
      ∃ body : Text, stringLiteral content = doubleQuote :: body ++ [doubleQuote] ∧
        ∀ c ∈ body.unescaped, c ≠ doubleQuote ∧ c ≠ '\\' := by
  have spelled : Spelled (content.toList.flatMap (escape doubleQuote)) content.toList :=
    .of_forall fun c _ => spelling_escape c
  have opens : (stringLiteral content ++ rest).OpensWithString content.toList rest := by
    refine ⟨_, ?_, spelled, fun _ => noQuote⟩
    simp [stringLiteral, quoted]
  refine ⟨?_, ?_, ?_, _, rfl, spelled.ne_of_mem_unescaped⟩
  · intro inside after
    constructor
    · exact opens.unique
    · rintro ⟨rfl, rfl⟩
      exact opens
  · exact (readsFirst_stringLiteral_of_head?_ne content noQuote).nextToken?
  · have quote : ¬ IsControl doubleQuote := by decide
    rw [stringLiteral, quoted, List.forall_mem_append, List.forall_mem_cons,
      List.forall_mem_singleton, List.forall_mem_flatMap]
    exact ⟨⟨quote, fun c _ => not_isControl_of_mem_escape c⟩, quote⟩

/-- A string that holds the quote, escapes, and control characters with digits behind them. -/
def hostileString : String := "\"\\x41\x011\u0085a\t\u2028é"

/-- The text behind a literal may go on with letters, digits and quotes. -/
theorem hostileString_readExactly :
    "0a\"".toList.head? ≠ some doubleQuote ∧
      stringLiteral hostileString = "\"\\\"\\\\x41\\x011\\u0085a\\t\u2028é\"".toList ∧
      nextToken? (stringLiteral hostileString ++ "0a\"".toList) =
        some (.word (.string hostileString), "0a\"".toList) ∧
      (stringLiteral hostileString ++ "0a\"".toList).OpensWithString
        hostileString.toList "0a\"".toList := by
  have noQuote : "0a\"".toList.head? ≠ some doubleQuote := by decide
  obtain ⟨spells, token, -⟩ := stringLiteral_readExactly hostileString _ noQuote
  exact ⟨noQuote, by decide, token, (spells _ _).mpr ⟨rfl, rfl⟩⟩

end SqlBuilder

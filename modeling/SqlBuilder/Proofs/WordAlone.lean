import Mathlib.Data.List.TakeWhile
import SqlBuilder.Proofs.ExprTokens

/-!
# Words read once and again

Whatever text a word has been read from, the word is read again from its own
letters: a number from its digits in front of any break, a parameter from its
name behind an at sign.  So an expression made of words that have been read is
written as text that stands for the same words, wherever it is put.
-/

namespace SqlBuilder

/-! ## Numbers -/

/-- The digits, the fraction and the exponent that a number is cut into. -/
structure IsNumberText (whole fraction exponent : Text) : Prop where
  whole_digits : ∀ c ∈ whole, c.isDigit = true
  fraction_digits : fraction = [] ∨
    ∃ digits, fraction = '.' :: digits ∧ ∀ c ∈ digits, c.isDigit = true
  exponent_digits : exponent = [] ∨
    ∃ mark sign digits, exponent = mark :: sign ++ digits ∧ mark.toLower = 'e' ∧
      (sign = [] ∨ sign = ['+'] ∨ sign = ['-']) ∧
      digits ≠ [] ∧ ∀ c ∈ digits, c.isDigit = true

/-- The word of a number that has been cut. -/
def numberWord (whole fraction exponent : Text) : Word :=
  if fraction = [] ∧ exponent = [] then
    .integer (String.ofList (whole ++ fraction ++ exponent))
  else
    .float (String.ofList (whole ++ fraction ++ exponent))

theorem fractionPart_digits (text : Text) :
    (fractionPart text).1 = [] ∨
      ∃ digits, (fractionPart text).1 = '.' :: digits ∧ ∀ c ∈ digits, c.isDigit = true := by
  unfold fractionPart
  split
  · exact .inr ⟨_, rfl, fun c member => List.mem_takeWhile_imp member⟩
  · exact .inl rfl

theorem exponentPart_digits (text : Text) :
    (exponentPart text).1 = [] ∨
      ∃ mark sign digits, (exponentPart text).1 = mark :: sign ++ digits ∧
        mark.toLower = 'e' ∧ (sign = [] ∨ sign = ['+'] ∨ sign = ['-']) ∧
        digits ≠ [] ∧ ∀ c ∈ digits, c.isDigit = true := by
  cases text with
  | nil => exact .inl rfl
  | cons mark rest =>
      rw [exponentPart]
      split
      · rename_i marked
        refine .inr ⟨mark, (signPart rest).1, _, rfl, marked.1, ?_, marked.2,
          fun c member => List.mem_takeWhile_imp member⟩
        unfold signPart
        split <;> simp
      · exact .inl rfl

/-- A number that is read has been cut into digits, a fraction and an exponent. -/
theorem of_readNumber? {text after : Text} {word : Word}
    (read : readNumber? text = some (word, after)) :
    ∃ whole fraction exponent, IsNumberText whole fraction exponent ∧
      word = numberWord whole fraction exponent ∧
      whole = text.takeWhile Char.isDigit ∧
      fraction = (fractionPart (text.dropWhile Char.isDigit)).1 := by
  refine ⟨text.takeWhile Char.isDigit, (fractionPart (text.dropWhile Char.isDigit)).1,
    (exponentPart (fractionPart (text.dropWhile Char.isDigit)).2).1, ⟨?_, ?_, ?_⟩, ?_, rfl, rfl⟩
  · exact fun c member => List.mem_takeWhile_imp member
  · exact fractionPart_digits _
  · exact exponentPart_digits _
  · simp only [readNumber?] at read
    unfold numberWord
    split at read
    · cases read
    · split at read <;> cases read <;> simp [*]

theorem toLower_of_isDigit {c : Char} (digit : c.isDigit = true) : c.toLower = c := by
  simp only [Char.isDigit, Bool.and_eq_true, decide_eq_true_eq] at digit
  refine dif_neg ?_
  rintro ⟨upper, -⟩
  have order : 'A'.val ≤ '9'.val := UInt32.le_trans upper digit.2
  exact absurd order (by decide)

namespace IsNumberText

variable {whole fraction exponent rest : Text}

theorem exponentPart_append (number : IsNumberText whole fraction exponent)
    (stop : AtBreak rest) : exponentPart (exponent ++ rest) = (exponent, rest) := by
  rcases number.exponent_digits with rfl | ⟨mark, sign, digits, rfl, marked, signed, present, each⟩
  · exact stop.exponentPart
  · obtain ⟨taken, dropped⟩ := takeWhile_append_of_stop each stop.not_isDigit
    have unsigned : signPart (sign ++ (digits ++ rest)) = (sign, digits ++ rest) := by
      rcases signed with rfl | rfl | rfl
      · obtain ⟨first, others, rfl⟩ := List.exists_cons_of_ne_nil present
        have digit := each first (List.mem_cons_self ..)
        unfold signPart
        split
        · rename_i same
          cases same
          cases digit
        · rename_i same
          cases same
          cases digit
        · rfl
      · rfl
      · rfl
    simp [exponentPart, unsigned, taken, dropped, marked, present]

/-- Neither a digit nor a point stands behind a fraction. -/
theorem exponent_head? (number : IsNumberText whole fraction exponent) (stop : AtBreak rest) :
    ∀ c ∈ (exponent ++ rest).head?, c.isDigit = false ∧ c ≠ '.' := by
  rcases number.exponent_digits with rfl | ⟨mark, sign, digits, rfl, marked, -⟩
  · intro c opens
    have mark := stop c opens
    simp only [List.mem_cons, List.not_mem_nil, or_false] at mark
    rcases mark with rfl | rfl | rfl | rfl <;> decide
  · rintro c ⟨⟩
    constructor
    · refine (Bool.not_eq_true _).mp fun digit => ?_
      rw [toLower_of_isDigit digit] at marked
      rw [marked] at digit
      cases digit
    · rintro rfl
      cases marked

theorem fractionPart_append (number : IsNumberText whole fraction exponent)
    (stop : AtBreak rest) :
    fractionPart (fraction ++ (exponent ++ rest)) = (fraction, exponent ++ rest) := by
  have behind := number.exponent_head? stop
  rcases number.fraction_digits with rfl | ⟨digits, rfl, each⟩
  · unfold fractionPart
    split
    · rename_i same
      exact absurd rfl (behind '.' (by rw [← List.nil_append (exponent ++ rest), same]; rfl)).2
    · rfl
  · obtain ⟨taken, dropped⟩ := takeWhile_append_of_stop each fun c opens => (behind c opens).1
    simp [fractionPart, taken, dropped]

theorem fraction_head? (number : IsNumberText whole fraction exponent) (stop : AtBreak rest) :
    ∀ c ∈ (fraction ++ (exponent ++ rest)).head?, c.isDigit = false := by
  rcases number.fraction_digits with rfl | ⟨digits, rfl, -⟩
  · exact fun c opens => (number.exponent_head? stop c opens).1
  · rintro c ⟨⟩
    rfl

/-- A number is cut into the same parts in front of any break. -/
theorem readNumber?_append (number : IsNumberText whole fraction exponent)
    (stop : AtBreak rest) :
    readNumber? (whole ++ fraction ++ exponent ++ rest) =
      some (numberWord whole fraction exponent, rest) := by
  obtain ⟨taken, dropped⟩ :=
    takeWhile_append_of_stop number.whole_digits (number.fraction_head? stop)
  simp only [List.append_assoc, readNumber?, taken, dropped, number.fractionPart_append stop,
    number.exponentPart_append stop, stop.followsInName_head?, Bool.false_eq_true, if_false,
    numberWord]
  split <;> rfl

end IsNumberText

/-! ## Words that stand for themselves -/

/-- A number's digits, in front of any break, are read as the number. -/
structure Word.IsAlone (word : Word) (digits : String) : Prop where
  opens : ∃ first rest, digits.toList = first :: rest ∧ (first.isDigit = true ∨ first = '.')
  reads : ∀ rest, AtBreak rest → Text.ReadsFirst digits.toList (.word word) rest

/-- A number is read again from its digits, and a parameter has a plain name. -/
def Word.StandsAlone : Word → Prop
  | .integer digits => (Word.integer digits).IsAlone digits
  | .float digits => (Word.float digits).IsAlone digits
  | .parameter spelling => IsPlain spelling
  | _ => True

section Reading

variable {first : Char} {text after : Text} {word : Word}

/-- The digits of a number that has been read are read again. -/
theorem Word.standsAlone_of_readNumber? (opens : OpensNumber first text)
    (read : readNumber? (first :: text) = some (word, after)) : word.StandsAlone := by
  obtain ⟨whole, fraction, exponent, number, rfl, cutWhole, cutFraction⟩ := of_readNumber? read
  obtain ⟨others, written, opensAgain⟩ :
      ∃ others, whole ++ fraction ++ exponent = first :: others ∧
        ∀ rest, OpensNumber first (others ++ rest) := by
    rcases opens with digit | ⟨rfl, digit⟩
    · rw [List.takeWhile_cons_of_pos digit] at cutWhole
      exact ⟨_, by rw [cutWhole]; rfl, fun rest => .inl digit⟩
    · obtain ⟨second, others, rfl⟩ : ∃ second others, text = second :: others := by
        cases text with
        | nil => cases digit
        | cons second others => exact ⟨second, others, rfl⟩
      have digit : second.isDigit = true := digit
      rw [List.takeWhile_cons_of_neg (by decide)] at cutWhole
      rw [List.dropWhile_cons_of_neg (by decide), fractionPart,
        List.takeWhile_cons_of_pos digit] at cutFraction
      refine ⟨second :: (others.takeWhile Char.isDigit ++ exponent), ?_,
        fun rest => .inr ⟨rfl, digit⟩⟩
      rw [cutWhole, cutFraction]
      rfl
  have alone : (numberWord whole fraction exponent).IsAlone
      (String.ofList (whole ++ fraction ++ exponent)) := by
    rw [written]
    refine ⟨⟨first, others, String.toList_ofList, opens.imp id And.left⟩, fun rest stop => ?_⟩
    have again := number.readNumber?_append stop
    rw [written] at again
    rw [String.toList_ofList]
    exact Text.ReadsFirst.of_readPiece? (readPiece?_of_opensNumber (opensAgain rest) again)
  unfold numberWord at alone ⊢
  split
  · rw [if_pos ‹_›] at alone
    exact alone
  · rw [if_neg ‹_›] at alone
    exact alone

theorem Word.standsAlone_ofSpelling (spelling : String) :
    (Word.ofSpelling spelling).StandsAlone := by
  unfold Word.ofSpelling
  split <;> trivial

theorem LiteralForm.standsAlone_of_word? {form : LiteralForm} {body : Text}
    (read : form.word? body = some word) : word.StandsAlone := by
  unfold LiteralForm.word? at read
  split at read
  · obtain ⟨content, -, rfl⟩ := Option.map_eq_some_iff.mp read
    trivial
  · cases read
    trivial
  · obtain ⟨content, -, rfl⟩ := Option.map_eq_some_iff.mp read
    trivial
  · cases read
    trivial

theorem Word.standsAlone_of_readLiteral? {form : LiteralForm} {quote : Char}
    (read : readLiteral? form quote text = some (word, after)) : word.StandsAlone := by
  obtain ⟨⟨body, behind⟩, -, opened⟩ := Option.bind_eq_some_iff.mp read
  obtain ⟨literal, written, same⟩ := Option.bind_eq_some_iff.mp opened
  cases same
  exact form.standsAlone_of_word? written

theorem Word.standsAlone_of_readLetters?
    (read : readLetters? first text = some (word, after)) : word.StandsAlone := by
  unfold readLetters? at read
  dsimp only at read
  split at read
  · split at read
    · exact standsAlone_of_readLiteral? read
    · cases read
      exact standsAlone_ofSpelling _
  · cases read
    exact standsAlone_ofSpelling _

theorem Word.standsAlone_of_readQuotedName?
    (read : readQuotedName? text = some (word, after)) : word.StandsAlone := by
  obtain ⟨⟨body, behind⟩, -, opened⟩ := Option.bind_eq_some_iff.mp read
  obtain ⟨content, -, same⟩ := Option.bind_eq_some_iff.mp opened
  cases same
  trivial

/-- A parameter that has been read has a plain name. -/
theorem Word.standsAlone_readParameter
    (opens : text.head?.any (fun c => decide (IsNameStart c)) = true) :
    (readParameter text).1.StandsAlone := by
  cases text with
  | nil => cases opens
  | cons c rest =>
      have start : IsNameStart c := of_decide_eq_true opens
      have taken : followsInName c = true := decide_eq_true start.isNameRest
      show IsPlainText (String.ofList ((c :: rest).takeWhile followsInName)).toList
      rw [String.toList_ofList, List.takeWhile_cons_of_pos taken]
      refine ⟨start, fun other member => ?_⟩
      exact of_decide_eq_true (List.mem_takeWhile_imp member : followsInName other = true)

theorem Word.standsAlone_of_readSymbol?
    (read : readSymbol? first text = some (.word word, after)) : word.StandsAlone := by
  unfold readSymbol? at read
  split at read
  · cases read
  · cases read
  · split at read
    · cases read
      trivial
    · split at read
      · cases read
        trivial
      · cases read

/-- Every word that is read stands for itself. -/
theorem Word.standsAlone_of_readPiece?
    (read : readPiece? first text = some (some (.word word), after)) : word.StandsAlone := by
  unfold readPiece? at read
  split at read
  · obtain ⟨⟨found, behind⟩, letters, same⟩ := Option.map_eq_some_iff.mp read
    cases same
    exact standsAlone_of_readLetters? letters
  split at read
  · obtain ⟨⟨found, behind⟩, number, same⟩ := Option.map_eq_some_iff.mp read
    cases same
    exact standsAlone_of_readNumber? ‹_› number
  split at read
  · obtain ⟨⟨found, behind⟩, literal, same⟩ := Option.map_eq_some_iff.mp read
    cases same
    exact standsAlone_of_readLiteral? literal
  split at read
  · obtain ⟨⟨found, behind⟩, name, same⟩ := Option.map_eq_some_iff.mp read
    cases same
    exact standsAlone_of_readQuotedName? name
  split at read
  · rename_i opens
    cases read
    exact standsAlone_readParameter opens.2
  split at read
  · cases read
  split at read
  · cases read
  split at read
  · obtain ⟨behind, -, same⟩ := Option.map_eq_some_iff.mp read
    cases same
  · obtain ⟨⟨found, behind⟩, symbol, same⟩ := Option.map_eq_some_iff.mp read
    cases same
    exact standsAlone_of_readSymbol? symbol

end Reading

/-! ## Words of texts and trees -/

/-- Every word among the tokens of a text stands for itself. -/
theorem Word.standsAlone_of_tokenize? {text : Text} {tokens : List SqlToken}
    (read : tokenize? text = some tokens) :
    ∀ word, .word word ∈ tokens → word.StandsAlone := by
  fun_induction tokenize? text generalizing tokens with
  | case1 =>
      cases read
      exact nofun
  | case2 => cases read
  | case3 first text piece after found ih =>
      obtain ⟨others, readOthers, rfl⟩ := Option.map_eq_some_iff.mp read
      intro word member
      rcases List.mem_append.mp member with here | later
      · obtain rfl : piece = some (.word word) := by simpa using here
        exact standsAlone_of_readPiece? found
      · exact ih readOthers word later

/-- The tokens that have been read where groups are open, and those in front of them. -/
def TokenTree.readSoFar (outer : List (Bracket × List TokenTree)) (current : List TokenTree) :
    List SqlToken :=
  match outer with
  | [] => flatten current
  | (bracket, before) :: outer => readSoFar outer before ++ .opening bracket :: flatten current

theorem TokenTree.readSoFar_append (outer : List (Bracket × List TokenTree))
    (current more : List TokenTree) :
    readSoFar outer (current ++ more) = readSoFar outer current ++ flatten more := by
  cases outer <;> simp [readSoFar]

/-- The trees of tokens hold these tokens in a row. -/
theorem TokenTree.flatten_of_groupFrom? {outer : List (Bracket × List TokenTree)}
    {current trees : List TokenTree} {tokens : List SqlToken}
    (read : groupFrom? outer current tokens = some trees) :
    flatten trees = readSoFar outer current ++ tokens := by
  induction tokens generalizing outer current with
  | nil =>
      cases outer with
      | nil =>
          cases read
          simp [readSoFar]
      | cons opened outer => cases read
  | cons token rest ih =>
      cases token with
      | word word =>
          rw [ih read, readSoFar_append]
          simp
      | opening bracket =>
          rw [ih read]
          simp [readSoFar]
      | closing bracket =>
          cases outer with
          | nil => cases read
          | cons opened outer =>
              obtain ⟨opening, before⟩ := opened
              simp only [groupFrom?] at read
              split at read
              · subst opening
                rw [ih read, readSoFar_append]
                simp [readSoFar]
              · cases read

theorem TokenTree.flatten_of_group? {trees : List TokenTree} {tokens : List SqlToken}
    (read : group? tokens = some trees) : flatten trees = tokens := by
  simpa [readSoFar] using flatten_of_groupFrom? read

/-! ## Expressions made of such words -/

namespace Word.IsAlone

variable {number : String → Word} {digits : String}

/-- A number stands for its word, and with a hyphen in front for two. -/
theorem spells (alone : (number digits).IsAlone digits) :
    Text.Spells digits.toList ((signedWords number digits.toList).map .leaf) ∧
      Text.Spells ("-" ++ digits).toList
        ((signedWords number ("-" ++ digits).toList).map .leaf) := by
  obtain ⟨first, others, written, opens⟩ := alone.opens
  have whole : String.ofList (first :: others) = digits := by
    rw [← written, String.ofList_toList]
  have noSign (mark : Char) (noDigit : mark.isDigit = false) (noPoint : mark ≠ '.') :
      first ≠ mark := by
    rintro rfl
    rcases opens with digit | point
    · rw [noDigit] at digit
      cases digit
    · exact noPoint point
  have unsigned : signedWords number (first :: others) = [number digits] := by
    unfold signedWords
    split
    · rename_i same
      cases same
      exact absurd rfl (noSign '-' rfl (by decide))
    · rename_i same
      cases same
      exact absurd rfl (noSign '+' rfl (by decide))
    · rw [whole]
  have reads (rest : Text) (stop : AtBreak rest) :
      Text.ReadsAs (first :: others) [.word (number digits)] rest := by
    rw [← written]
    exact (alone.reads rest stop).readsAs
  rw [String.toList_append, written, unsigned]
  constructor
  · exact .words fun rest stop => reads rest stop
  · refine .words fun rest stop => ?_
    have sign := (readsFirst_sign_of_ne (Or.inl rfl) (noSign '-' rfl (by decide))
      (noSign '>' rfl (by decide)) (noSign '=' rfl (by decide)) (others ++ rest)).readsAs
    have signed := sign.append (reads rest stop)
    show Text.ReadsAs ('-' :: first :: others)
      ([.symbol "-", number (String.ofList (first :: others))].map .word) rest
    rw [whole]
    exact signed

theorem floatWord_eq (alone : (Word.float digits).IsAlone digits) :
    floatWord digits = .float digits := by
  obtain ⟨first, others, written, opens⟩ := alone.opens
  rw [floatWord, if_neg]
  rintro (rfl | rfl)
  · obtain ⟨rfl, -⟩ : 'N' = first ∧ ['a', 'N'] = others := List.cons.inj written
    exact absurd opens (by decide)
  · obtain ⟨rfl, -⟩ : 'I' = first ∧ ['n', 'f'] = others := List.cons.inj written
    exact absurd opens (by decide)

end Word.IsAlone

end SqlBuilder

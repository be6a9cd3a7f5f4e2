import SqlBuilder.Literal
import SqlBuilder.Proofs.QuotedSpelling
import SqlBuilder.Proofs.Tokenizer

/-!
# The tokens of written words

Each kind of word that is written into SQL text is read as that word, provided
that what follows does not go on with it.  The statements are about a text with
any such text behind it, so they can be put together: reading the whole gives
the word in front of the tokens of the rest.
-/

namespace SqlBuilder

/-- A text that does not go on with the letters, or the literal, in front of it. -/
def EndsWord (rest : Text) : Prop :=
  ∀ c ∈ rest.head?, ¬ IsNameRest c ∧ ¬ IsLiteralQuote c

/-- A text that may stand behind an expression: nothing, or text that opens with one of four marks. -/
def AtBreak (rest : Text) : Prop :=
  ∀ c ∈ rest.head?, c ∈ [' ', ',', ')', ']']

namespace AtBreak

variable {rest : Text}

theorem endsWord (stop : AtBreak rest) : EndsWord rest := by
  intro c member
  have mark := stop c member
  simp only [List.mem_cons, List.not_mem_nil, or_false] at mark
  rcases mark with rfl | rfl | rfl | rfl <;> decide

@[simp]
theorem nil : AtBreak [] := by
  simp [AtBreak]

@[simp]
theorem cons (c : Char) (rest : Text) :
    AtBreak (c :: rest) ↔ c ∈ [' ', ',', ')', ']'] := by
  simp [AtBreak]

end AtBreak

/-- A text is read as tokens, and the text behind it is read on its own. -/
def Text.ReadsAs (text : Text) (tokens : List SqlToken) (rest : Text) : Prop :=
  tokenize? (text ++ rest) = (tokenize? rest).map (tokens ++ ·)

namespace Text.ReadsAs

@[simp]
theorem nil (rest : Text) : Text.ReadsAs [] [] rest := by
  simp [Text.ReadsAs]

theorem append {front back rest : Text} {first second : List SqlToken}
    (reads : Text.ReadsAs front first (back ++ rest))
    (others : Text.ReadsAs back second rest) :
    Text.ReadsAs (front ++ back) (first ++ second) rest := by
  unfold Text.ReadsAs at reads others ⊢
  rw [List.append_assoc, reads, others]
  simp [Function.comp_def]

theorem tokenize?_eq {text : Text} {tokens : List SqlToken}
    (reads : Text.ReadsAs text tokens []) : tokenize? text = some tokens := by
  have whole : tokenize? ([] : Text) = some [] := by
    rw [tokenize?]
  simpa [Text.ReadsAs, whole] using reads

/-- A text that opens with a token or a gap. -/
theorem of_readPiece? {first : Char} {text rest : Text} (piece : Option SqlToken)
    (read : readPiece? first (text ++ rest) = some (piece, rest)) :
    Text.ReadsAs (first :: text) piece.toList rest := by
  unfold Text.ReadsAs
  rw [List.cons_append, tokenize?]
  split
  · rename_i none_read
    rw [read] at none_read
    cases none_read
  · rename_i other after found
    rw [read] at found
    cases found
    rfl

end Text.ReadsAs

/-- A text is the first token that is read, and leaves the text behind it. -/
def Text.ReadsFirst (text : Text) (token : SqlToken) (rest : Text) : Prop :=
  ∃ first others, text = first :: others ∧
    readPiece? first (others ++ rest) = some (some token, rest)

namespace Text.ReadsFirst

theorem of_readPiece? {first : Char} {text rest : Text} {token : SqlToken}
    (read : readPiece? first (text ++ rest) = some (some token, rest)) :
    Text.ReadsFirst (first :: text) token rest :=
  ⟨first, text, rfl, read⟩

theorem readsAs {text rest : Text} {token : SqlToken}
    (reads : Text.ReadsFirst text token rest) : Text.ReadsAs text [token] rest := by
  rcases reads with ⟨first, others, rfl, read⟩
  exact Text.ReadsAs.of_readPiece? (some token) read

end Text.ReadsFirst

/-! ## Blanks, symbols and brackets -/

theorem readsAs_blank (rest : Text) : Text.ReadsAs [' '] [] rest :=
  Text.ReadsAs.of_readPiece? none rfl

theorem readsFirst_opening (bracket : Bracket) (rest : Text) :
    Text.ReadsFirst [bracket.opener] (.opening bracket) rest := by
  apply Text.ReadsFirst.of_readPiece?
  cases bracket <;> rfl

theorem readsAs_opening (bracket : Bracket) (rest : Text) :
    Text.ReadsAs [bracket.opener] [.opening bracket] rest :=
  (readsFirst_opening bracket rest).readsAs

theorem readsFirst_closing (bracket : Bracket) (rest : Text) :
    Text.ReadsFirst [bracket.closer] (.closing bracket) rest := by
  apply Text.ReadsFirst.of_readPiece?
  cases bracket <;> rfl

theorem readsAs_closing (bracket : Bracket) (rest : Text) :
    Text.ReadsAs [bracket.closer] [.closing bracket] rest :=
  (readsFirst_closing bracket rest).readsAs

/-- A symbol of one character that opens nothing else, and no longer symbol. -/
theorem readsFirst_symbol {mark : Char} {rest : Text}
    (read : readPiece? mark rest = (readSymbol? mark rest).map fun (token, after) =>
      (some token, after))
    (noBracket : Bracket.opened? mark = none ∧ Bracket.closed? mark = none)
    (noPair : mark :: rest.take 1 ∉ pairSymbols) (single : mark ∈ singleSymbols) :
    Text.ReadsFirst [mark] (.word (.symbol (String.ofList [mark]))) rest := by
  apply Text.ReadsFirst.of_readPiece?
  rw [List.nil_append, read]
  simp [readSymbol?, noBracket, noPair, single]

theorem readsAs_symbol {mark : Char} {rest : Text}
    (read : readPiece? mark rest = (readSymbol? mark rest).map fun (token, after) =>
      (some token, after))
    (noBracket : Bracket.opened? mark = none ∧ Bracket.closed? mark = none)
    (noPair : mark :: rest.take 1 ∉ pairSymbols) (single : mark ∈ singleSymbols) :
    Text.ReadsAs [mark] [.word (.symbol (String.ofList [mark]))] rest :=
  (readsFirst_symbol read noBracket noPair single).readsAs

theorem readsFirst_comma (rest : Text) :
    Text.ReadsFirst [','] (.word (.symbol ",")) rest := by
  apply readsFirst_symbol
  · rfl
  · exact ⟨rfl, rfl⟩
  · simp [pairSymbols]
  · decide

theorem readsAs_comma (rest : Text) :
    Text.ReadsAs [','] [.word (.symbol ",")] rest :=
  (readsFirst_comma rest).readsAs

/-- A point is a symbol unless it opens a number. -/
theorem readsAs_point {rest : Text} (noDigit : rest.head?.any Char.isDigit = false) :
    Text.ReadsAs ['.'] [.word (.symbol ".")] rest := by
  apply readsAs_symbol
  · have start : ¬ IsNameStart '.' := by decide
    have digit : '.'.isDigit = false := by decide
    have quote : ¬ IsLiteralQuote '.' := by decide
    have space : ¬ IsSpace '.' := by decide
    have notBacktick : '.' ≠ backtick := by decide
    simp [readPiece?, start, digit, noDigit, quote, space, notBacktick]
  · exact ⟨rfl, rfl⟩
  · simp [pairSymbols]
  · decide

/-- The two signs. -/
def IsSign (c : Char) : Prop := c = '-' ∨ c = '+'

/-- A sign is a symbol, unless it opens a comment or an arrow, or is put in front of an equals sign. -/
theorem readsFirst_sign_of_ne {sign c : Char} (signed : IsSign sign)
    (notHyphen : c ≠ '-') (notGreater : c ≠ '>') (notEqual : c ≠ '=') (rest : Text) :
    Text.ReadsFirst [sign] (.word (.symbol (String.ofList [sign]))) (c :: rest) := by
  rcases signed with rfl | rfl
  · apply readsFirst_symbol
    · have start : ¬ IsNameStart '-' := by decide
      have digit : '-'.isDigit = false := by decide
      have quote : ¬ IsLiteralQuote '-' := by decide
      have space : ¬ IsSpace '-' := by decide
      have notBacktick : '-' ≠ backtick := by decide
      simp [readPiece?, start, digit, quote, space, notBacktick, notHyphen]
    · exact ⟨rfl, rfl⟩
    · simp [pairSymbols, notGreater, notEqual]
    · decide
  · apply readsFirst_symbol
    · rfl
    · exact ⟨rfl, rfl⟩
    · simp [pairSymbols, notEqual]
    · decide

/-- A sign is a symbol in front of a number or a word. -/
theorem readsFirst_sign {sign c : Char} (signed : IsSign sign) (follows : c.isAlphanum = true)
    (rest : Text) :
    Text.ReadsFirst [sign] (.word (.symbol (String.ofList [sign]))) (c :: rest) := by
  have notMark (mark : Char) (other : mark.isAlphanum = false) : c ≠ mark := by
    rintro rfl
    simp [follows] at other
  exact readsFirst_sign_of_ne signed (notMark '-' rfl) (notMark '>' rfl) (notMark '=' rfl) rest

theorem readsAs_sign {sign c : Char} (signed : IsSign sign) (follows : c.isAlphanum = true)
    (rest : Text) :
    Text.ReadsAs [sign] [.word (.symbol (String.ofList [sign]))] (c :: rest) :=
  (readsFirst_sign signed follows rest).readsAs

/-! ## Keywords, names and parameters -/

theorem IsNameStart.isNameRest {c : Char} (start : IsNameStart c) : IsNameRest c := by
  rcases start with letter | underscore
  · exact Or.inl (by simp [Char.isAlphanum, letter])
  · exact Or.inr underscore

/-- Where a row does not go on, what has been accepted is cut off whole. -/
theorem takeWhile_append_of_stop {α : Type} {condition : α → Bool} {front rest : List α}
    (accepted : ∀ c ∈ front, condition c = true)
    (stop : ∀ c ∈ rest.head?, condition c = false) :
    (front ++ rest).takeWhile condition = front ∧
      (front ++ rest).dropWhile condition = rest := by
  rw [List.takeWhile_append_of_pos accepted, List.dropWhile_append_of_pos accepted]
  cases rest with
  | nil => simp
  | cons c others => simp [stop c rfl]

/-- Letters are cut off whole where no character of a name follows. -/
theorem takeWhile_followsInName_append {letters rest : Text}
    (inName : ∀ c ∈ letters, IsNameRest c) (whole : ∀ c ∈ rest.head?, ¬ IsNameRest c) :
    (letters ++ rest).takeWhile followsInName = letters ∧
      (letters ++ rest).dropWhile followsInName = rest := by
  apply takeWhile_append_of_stop
  · intro c member
    exact decide_eq_true (inName c member)
  · intro c opens
    exact decide_eq_false (whole c opens)

/-- Where a word ends, no character is taken for it. -/
theorem EndsWord.takeWhile_append {rest : Text} (ends : EndsWord rest)
    {letters : Text} (inName : ∀ c ∈ letters, IsNameRest c) :
    (letters ++ rest).takeWhile followsInName = letters ∧
      (letters ++ rest).dropWhile followsInName = rest :=
  takeWhile_followsInName_append inName fun c opens => (ends c opens).1

/-- Plain text is read as the word it spells. -/
theorem readsFirst_plain {letters rest : Text} (plain : IsPlainText letters)
    (ends : EndsWord rest) :
    Text.ReadsFirst letters (.word (.ofSpelling (String.ofList letters))) rest := by
  cases letters with
  | nil => exact plain.elim
  | cons first others =>
      rcases plain with ⟨start, inName⟩
      rcases ends.takeWhile_append inName with ⟨taken, dropped⟩
      apply Text.ReadsFirst.of_readPiece?
      have read : readLetters? first (others ++ rest) =
          some (.ofSpelling (String.ofList (first :: others)), rest) := by
        simp only [readLetters?, taken, dropped]
        split
        · rename_i form quote inner _
          have unquoted : ¬ IsLiteralQuote quote := (ends quote rfl).2
          rw [if_neg unquoted]
        · rfl
      simp [readPiece?, start, read]

theorem readsAs_plain {letters rest : Text} (plain : IsPlainText letters)
    (ends : EndsWord rest) :
    Text.ReadsAs letters [.word (.ofSpelling (String.ofList letters))] rest :=
  (readsFirst_plain plain ends).readsAs

/-- The reserved words that statements are written with. -/
def writtenKeywords : List String :=
  ["AND", "ARRAY", "AS", "ASC", "BETWEEN", "BY", "DESC", "FALSE", "FROM", "IN", "INTO", "IS",
    "LIKE", "LIMIT", "NOT", "NULL", "OR", "ORDER", "SELECT", "SET", "TRUE", "UNNEST", "WHERE"]

theorem ofSpelling_of_mem_writtenKeywords :
    ∀ word ∈ writtenKeywords, Word.ofSpelling word = .keyword word := by
  decide +kernel

theorem isPlain_of_mem_writtenKeywords : ∀ word ∈ writtenKeywords, IsPlain word := by
  decide +kernel

theorem readsFirst_keyword {word : String} (written : word ∈ writtenKeywords)
    {rest : Text} (ends : EndsWord rest) :
    Text.ReadsFirst word.toList (.word (.keyword word)) rest := by
  have read := readsFirst_plain (isPlain_of_mem_writtenKeywords word written) ends
  rwa [String.ofList_toList, ofSpelling_of_mem_writtenKeywords word written] at read

theorem readsAs_keyword {word : String} (written : word ∈ writtenKeywords)
    {rest : Text} (ends : EndsWord rest) :
    Text.ReadsAs word.toList [.word (.keyword word)] rest :=
  (readsFirst_keyword written ends).readsAs

theorem readsAs_bareName {name : String} (bare : IsBare name)
    {rest : Text} (ends : EndsWord rest) :
    Text.ReadsAs name.toList [.word (.name name false)] rest := by
  have read := readsAs_plain bare.1 ends
  rwa [String.ofList_toList, Word.ofSpelling_of_not_isReserved bare.2] at read

/-- The words that statements are written with although they are not reserved. -/
def writtenNames : List String :=
  ["DATE", "DELETE", "INSERT", "OFFSET", "TIMESTAMP", "UPDATE", "VALUES"]

theorem isBare_of_mem_writtenNames : ∀ word ∈ writtenNames, IsBare word := by
  decide +kernel

/-- A name between backticks is read as what it holds. -/
theorem readsAs_quotedName (name : String) (rest : Text) :
    Text.ReadsAs (quoted backtick name.toList) [.word (.name name true)] rest := by
  have mark : IsQuote backtick := Or.inr rfl
  apply Text.ReadsAs.of_readPiece? (some (.word (.name name true)))
  have spells := spells_escaped mark name.toList
  have body := spells.inert mark (backtick :: rest)
  rw [Text.untilQuote?_quote mark.ne_backslash] at body
  have read : readQuotedName? (name.toList.flatMap (escape backtick) ++ backtick :: rest) =
      some (.name name true, rest) := by
    simp [readQuotedName?, body, spells.content?_eq]
  have start : ¬ IsNameStart backtick := by decide
  have digit : backtick.isDigit = false := by decide
  have notPoint : backtick ≠ '.' := by decide
  have quote : ¬ IsLiteralQuote backtick := by decide
  simp [readPiece?, start, digit, notPoint, quote, read]

/-- The word that a name is written as. -/
def nameWord (name : String) : Word :=
  .name name (decide (¬ IsBare name))

theorem readsAs_identifier (name : String) {rest : Text} (ends : EndsWord rest) :
    Text.ReadsAs (identifier name) [.word (nameWord name)] rest := by
  by_cases bare : IsBare name
  · simpa [identifier, nameWord, bare] using readsAs_bareName bare ends
  · simpa [identifier, nameWord, bare] using readsAs_quotedName name rest

theorem readsAs_parameter {name : String} (plain : IsPlain name)
    {rest : Text} (ends : EndsWord rest) :
    Text.ReadsAs ('@' :: name.toList) [.word (.parameter name)] rest := by
  apply Text.ReadsAs.of_readPiece? (some (.word (.parameter name)))
  have start : ¬ IsNameStart '@' := by decide
  have digit : '@'.isDigit = false := by decide
  have quote : ¬ IsLiteralQuote '@' := by decide
  have notBacktick : '@' ≠ backtick := by decide
  unfold IsPlain at plain
  cases letters : name.toList with
  | nil => simp [letters, IsPlainText] at plain
  | cons first others =>
      rw [letters] at plain
      rcases plain with ⟨opens, inName⟩
      have all : ∀ c ∈ first :: others, IsNameRest c := by
        intro c member
        rcases List.mem_cons.mp member with rfl | other
        · exact opens.isNameRest
        · exact inName c other
      rcases ends.takeWhile_append all with ⟨taken, dropped⟩
      have whole : String.ofList (first :: others) = name := by
        rw [← letters, String.ofList_toList]
      have read : readParameter (first :: others ++ rest) = (.parameter name, rest) := by
        rw [readParameter, taken, dropped, whole]
      rw [List.cons_append] at read
      simp [readPiece?, start, digit, quote, notBacktick, opens, read]

/-! ## Literals -/

/-- A STRING literal is read as what it holds, unless one more quote follows. -/
theorem readsFirst_stringLiteral_of_head?_ne (content : String) {rest : Text}
    (noQuote : rest.head? ≠ some doubleQuote) :
    Text.ReadsFirst (stringLiteral content) (.word (.string content)) rest := by
  have mark : IsQuote doubleQuote := Or.inl rfl
  apply Text.ReadsFirst.of_readPiece?
  have spells := spells_escaped mark content.toList
  have body := Text.quotedBody?_of_inert mark.ne_backslash (spells.inert mark) noQuote
  have read : readLiteral? .standard doubleQuote
      (content.toList.flatMap (escape doubleQuote) ++ doubleQuote :: rest) =
        some (.string content, rest) := by
    simp [readLiteral?, body, LiteralForm.word?, LiteralForm.standard, spells.content?_eq]
  have start : ¬ IsNameStart doubleQuote := by decide
  have digit : doubleQuote.isDigit = false := by decide
  have notPoint : doubleQuote ≠ '.' := by decide
  have quote : IsLiteralQuote doubleQuote := Or.inl rfl
  simp [readPiece?, start, digit, notPoint, quote, read]

theorem EndsWord.head?_ne_doubleQuote {rest : Text} (ends : EndsWord rest) :
    rest.head? ≠ some doubleQuote :=
  fun opens => (ends doubleQuote opens).2 (Or.inl rfl)

theorem readsFirst_stringLiteral (content : String) {rest : Text} (ends : EndsWord rest) :
    Text.ReadsFirst (stringLiteral content) (.word (.string content)) rest :=
  readsFirst_stringLiteral_of_head?_ne content ends.head?_ne_doubleQuote

theorem readsAs_stringLiteral (content : String) {rest : Text} (ends : EndsWord rest) :
    Text.ReadsAs (stringLiteral content) [.word (.string content)] rest :=
  (readsFirst_stringLiteral content ends).readsAs

/-- A BYTES literal is read as what it holds, unless one more quote follows. -/
theorem readsFirst_bytesLiteral_of_head?_ne (content : List UInt8) {rest : Text}
    (noQuote : rest.head? ≠ some doubleQuote) :
    Text.ReadsFirst (bytesLiteral content) (.word (.bytes content)) rest := by
  have mark : IsQuote doubleQuote := Or.inl rfl
  apply Text.ReadsFirst.of_readPiece?
  have spells := spells_escapedBytes content
  have body := Text.quotedBody?_of_inert mark.ne_backslash (spells.inert mark) noQuote
  have start : IsNameStart 'B' := by decide
  have quoteEnds : followsInName doubleQuote = false := by decide
  have quote : IsLiteralQuote doubleQuote := Or.inl rfl
  have form : LiteralForm.ofLetters? ['B'] = some ⟨false, true⟩ := rfl
  simp [readPiece?, start, readLetters?, quoteEnds, form, quote, readLiteral?, body,
    LiteralForm.word?, spells.content?_eq]

theorem readsFirst_bytesLiteral (content : List UInt8) {rest : Text} (ends : EndsWord rest) :
    Text.ReadsFirst (bytesLiteral content) (.word (.bytes content)) rest :=
  readsFirst_bytesLiteral_of_head?_ne content ends.head?_ne_doubleQuote

theorem readsAs_bytesLiteral (content : List UInt8) {rest : Text} (ends : EndsWord rest) :
    Text.ReadsAs (bytesLiteral content) [.word (.bytes content)] rest :=
  (readsFirst_bytesLiteral content ends).readsAs

end SqlBuilder

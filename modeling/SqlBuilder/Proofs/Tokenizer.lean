import SqlBuilder.Lexical.Blank
import SqlBuilder.Proofs.QuotedText
import SqlBuilder.Proofs.Token

/-!
# From text to tokens

The lexical rules of the dialect, as a function from text to tokens.

* Letters, digits and underscores that open with a letter or an underscore are a
  keyword or a name.  The letters R and B, alone or together, in front of a quote
  make the literal raw or one of bytes.
* Literals stand between double or single quotes, once or three times, names
  between backticks.
* A number is a row of digits with an optional fraction and exponent, and does
  not run into a name.  A sign is a symbol of its own.
* A parameter is a name behind an at sign.
* Blanks and comments only keep tokens apart.  A comment runs from a number sign
  or two hyphens to the end of its line, or from a slash and an asterisk to the
  next asterisk and slash.

A text that opens no token, or that does not close one, has no tokens.
-/

namespace SqlBuilder

/-- Whether a character may follow in a name. -/
def followsInName (c : Char) : Bool := decide (IsNameRest c)

/-- The two quotes of literals. -/
def IsLiteralQuote (c : Char) : Prop := c = doubleQuote ∨ c = '\x27'

instance IsLiteralQuote.decidable (c : Char) : Decidable (IsLiteralQuote c) :=
  inferInstanceAs (Decidable (_ ∨ _))

/-! ## Literals and names -/

/-- What the letters in front of a literal say about it. -/
structure LiteralForm where
  /-- A backslash stands for itself. -/
  raw : Bool
  /-- The literal holds bytes. -/
  bytes : Bool

namespace LiteralForm

/-- A literal with no letters in front. -/
def standard : LiteralForm := ⟨false, false⟩

/-- The form that letters stand for. -/
def ofLetters? (letters : Text) : Option LiteralForm :=
  match letters.map Char.toLower with
  | ['r'] => some ⟨true, false⟩
  | ['b'] => some ⟨false, true⟩
  | ['r', 'b'] => some ⟨true, true⟩
  | ['b', 'r'] => some ⟨true, true⟩
  | _ => none

/-- The literal with the given text between its quotes. -/
def word? (form : LiteralForm) (body : Text) : Option Word :=
  match form.raw, form.bytes with
  | false, false =>
      (QuotedForm.characters.content? body).map fun content =>
        .string (String.ofList content)
  | true, false => some (.string (String.ofList body))
  | false, true => (QuotedForm.bytes.content? body).map .bytes
  | true, true => some (.bytes (body.flatMap String.utf8EncodeChar))

end LiteralForm

/-- A literal behind its opening quote, and the text behind it. -/
def readLiteral? (form : LiteralForm) (quote : Char) (text : Text) : Option (Word × Text) := do
  let (body, after) ← text.quotedBody? quote
  let word ← form.word? body
  return (word, after)

/-- A quoted name behind its opening quote, and the text behind it. -/
def readQuotedName? (text : Text) : Option (Word × Text) := do
  let (body, after) ← text.untilQuote? backtick
  let content ← QuotedForm.characters.content? body
  return (.name (String.ofList content) true, after)

/-- A keyword, a bare name or a literal with letters in front, and the text behind it. -/
def readLetters? (first : Char) (text : Text) : Option (Word × Text) :=
  let letters := first :: text.takeWhile followsInName
  let after := text.dropWhile followsInName
  match LiteralForm.ofLetters? letters, after with
  | some form, quote :: inner =>
      if IsLiteralQuote quote then
        readLiteral? form quote inner
      else
        some (.ofSpelling (String.ofList letters), after)
  | _, _ => some (.ofSpelling (String.ofList letters), after)

/-- A parameter behind its at sign, and the text behind it. -/
def readParameter (text : Text) : Word × Text :=
  (.parameter (String.ofList (text.takeWhile followsInName)), text.dropWhile followsInName)

/-! ## Numbers -/

/-- A fraction behind its point, and the text behind it. -/
def fractionPart : Text → Text × Text
  | '.' :: rest => ('.' :: rest.takeWhile Char.isDigit, rest.dropWhile Char.isDigit)
  | text => ([], text)

/-- The sign in front of the digits of an exponent, and the text behind it. -/
def signPart : Text → Text × Text
  | '+' :: rest => (['+'], rest)
  | '-' :: rest => (['-'], rest)
  | text => ([], text)

/-- An exponent of at least one digit behind its mark, and the text behind it. -/
def exponentPart : Text → Text × Text
  | [] => ([], [])
  | mark :: rest =>
      let digits := (signPart rest).2.takeWhile Char.isDigit
      if mark.toLower = 'e' ∧ digits ≠ [] then
        (mark :: (signPart rest).1 ++ digits, (signPart rest).2.dropWhile Char.isDigit)
      else
        ([], mark :: rest)

/-- A number, and the text behind it, which must not go on as a name. -/
def readNumber? (text : Text) : Option (Word × Text) :=
  let whole := text.takeWhile Char.isDigit
  let fraction := fractionPart (text.dropWhile Char.isDigit)
  let exponent := exponentPart fraction.2
  let digits := String.ofList (whole ++ fraction.1 ++ exponent.1)
  if exponent.2.head?.any followsInName then
    none
  else if fraction.1 = [] ∧ exponent.1 = [] then
    some (.integer digits, exponent.2)
  else
    some (.float digits, exponent.2)

/-! ## Symbols and comments -/

/-- The symbols of two characters. -/
def pairSymbols : List Text :=
  [['!', '='], ['<', '>'], ['<', '='], ['>', '='], ['|', '|'], ['<', '<'], ['>', '>'],
    ['=', '>'], ['-', '>'], ['+', '='], ['-', '=']]

/-- The symbols of one character that are no brackets. -/
def singleSymbols : Text :=
  [',', '.', ';', ':', '=', '<', '>', '+', '-', '*', '/', '%', '&', '|', '^', '~', '!', '?',
    '@', '$']

/-- A bracket or a symbol, and the text behind it. -/
def readSymbol? (first : Char) (text : Text) : Option (SqlToken × Text) :=
  match Bracket.opened? first, Bracket.closed? first with
  | some bracket, _ => some (.opening bracket, text)
  | none, some bracket => some (.closing bracket, text)
  | none, none =>
      if pairSymbols.contains (first :: text.take 1) then
        some (.word (.symbol (String.ofList (first :: text.take 1))), text.drop 1)
      else if first ∈ singleSymbols then
        some (.word (.symbol (String.ofList [first])), text)
      else
        none

/-- The text behind the end of a comment between slashes. -/
def skipComment? : Text → Option Text
  | [] => none
  | '*' :: '/' :: rest => some rest
  | _ :: rest => skipComment? rest

/-! ## Tokens -/

/-- The token or the gap that a text opens with, and the text behind it. -/
def readPiece? (first : Char) (text : Text) : Option (Option SqlToken × Text) :=
  if IsNameStart first then
    (readLetters? first text).map fun (word, after) => (some (.word word), after)
  else if first.isDigit ∨ first = '.' ∧ text.head?.any Char.isDigit then
    (readNumber? (first :: text)).map fun (word, after) => (some (.word word), after)
  else if IsLiteralQuote first then
    (readLiteral? .standard first text).map fun (word, after) => (some (.word word), after)
  else if first = backtick then
    (readQuotedName? text).map fun (word, after) => (some (.word word), after)
  else if first = '@' ∧ text.head?.any (fun c => decide (IsNameStart c)) then
    some (some (.word (readParameter text).1), (readParameter text).2)
  else if IsSpace first then
    some (none, text)
  else if first = '#' ∨ first = '-' ∧ text.head? = some '-' then
    some (none, text.dropWhile fun c => c ≠ '\n')
  else if first = '/' ∧ text.head? = some '*' then
    (skipComment? (text.drop 1)).map fun after => (none, after)
  else
    (readSymbol? first text).map fun (token, after) => (some token, after)

section Length

variable {quote : Char} {text body after : Text}

theorem length_dropWhile_le {α : Type} (condition : α → Bool) (items : List α) :
    (items.dropWhile condition).length ≤ items.length :=
  (List.dropWhile_suffix condition).length_le

theorem length_le_of_untilQuote?
    (read : text.untilQuote? quote = some (body, after)) :
    after.length ≤ text.length := by
  fun_induction Text.untilQuote? quote text generalizing body with
  | case1 => simp at read
  | case2 c rest ih =>
      simp only [Option.map_eq_some_iff, Prod.mk.injEq] at read
      rcases read with ⟨⟨inner, behind⟩, found, _, same⟩
      dsimp only at same
      subst same
      have shorter := ih found
      simp only [List.length_cons]
      omega
  | case3 rest =>
      simp only [Option.some.injEq, Prod.mk.injEq] at read
      rcases read with ⟨_, rfl⟩
      simp
  | case4 => simp at read
  | case5 c rest _ _ _ ih =>
      simp only [Option.map_eq_some_iff, Prod.mk.injEq] at read
      rcases read with ⟨⟨inner, behind⟩, found, _, same⟩
      dsimp only at same
      subst same
      have shorter := ih found
      simp only [List.length_cons]
      omega

theorem length_le_of_untilTripleQuote?
    (read : text.untilTripleQuote? quote = some (body, after)) :
    after.length ≤ text.length := by
  fun_induction Text.untilTripleQuote? quote text generalizing body with
  | case1 => simp at read
  | case2 c rest ih =>
      simp only [Option.map_eq_some_iff, Prod.mk.injEq] at read
      rcases read with ⟨⟨inner, behind⟩, found, _, same⟩
      dsimp only at same
      subst same
      have shorter := ih found
      simp only [List.length_cons]
      omega
  | case3 c rest _ _ =>
      simp only [Option.some.injEq, Prod.mk.injEq] at read
      rcases read with ⟨_, rfl⟩
      simp only [List.length_drop, List.length_cons]
      omega
  | case4 c rest _ _ ih =>
      simp only [Option.map_eq_some_iff, Prod.mk.injEq] at read
      rcases read with ⟨⟨inner, behind⟩, found, _, same⟩
      dsimp only at same
      subst same
      have shorter := ih found
      simp only [List.length_cons]
      omega

theorem length_le_of_quotedBody?
    (read : text.quotedBody? quote = some (body, after)) :
    after.length ≤ text.length := by
  unfold Text.quotedBody? at read
  split at read
  · have shorter := length_le_of_untilTripleQuote? read
    simp only [List.length_drop] at shorter
    omega
  · exact length_le_of_untilQuote? read

variable {word : Word} {form : LiteralForm}

theorem length_le_of_readLiteral?
    (read : readLiteral? form quote text = some (word, after)) :
    after.length ≤ text.length := by
  simp only [readLiteral?, Option.bind_eq_bind, Option.bind_eq_some_iff, Option.pure_def,
    Option.some.injEq, Prod.mk.injEq] at read
  rcases read with ⟨⟨inner, behind⟩, found, _, _, _, rfl⟩
  exact length_le_of_quotedBody? found

theorem length_le_of_readQuotedName?
    (read : readQuotedName? text = some (word, after)) :
    after.length ≤ text.length := by
  simp only [readQuotedName?, Option.bind_eq_bind, Option.bind_eq_some_iff, Option.pure_def,
    Option.some.injEq, Prod.mk.injEq] at read
  rcases read with ⟨⟨inner, behind⟩, found, _, _, _, rfl⟩
  exact length_le_of_untilQuote? found

theorem length_le_of_readLetters? {first : Char}
    (read : readLetters? first text = some (word, after)) :
    after.length ≤ text.length := by
  have shorter := length_dropWhile_le followsInName text
  simp only [readLetters?] at read
  split at read
  · rename_i form inner letters behind
    split at read
    · have inside := length_le_of_readLiteral? read
      rw [behind, List.length_cons] at shorter
      omega
    · simp only [Option.some.injEq, Prod.mk.injEq] at read
      rcases read with ⟨_, rfl⟩
      exact shorter
  · simp only [Option.some.injEq, Prod.mk.injEq] at read
    rcases read with ⟨_, rfl⟩
    exact shorter

theorem length_fractionPart_le (text : Text) :
    (fractionPart text).2.length ≤ text.length := by
  unfold fractionPart
  split
  · have shorter := length_dropWhile_le Char.isDigit ‹Text›
    simp only [List.length_cons]
    omega
  · simp

theorem length_exponentPart_le (text : Text) :
    (exponentPart text).2.length ≤ text.length := by
  have signed (rest : Text) : (signPart rest).2.length ≤ rest.length := by
    unfold signPart
    split <;> simp
  cases text with
  | nil => exact Nat.le_refl _
  | cons mark rest =>
      have shorter := length_dropWhile_le Char.isDigit (signPart rest).2
      have unsigned := signed rest
      simp only [exponentPart]
      split
      · simp only [List.length_cons]
        omega
      · exact Nat.le_refl _

theorem length_le_of_readNumber? {first : Char}
    (opens : first.isDigit ∨ first = '.' ∧ text.head?.any Char.isDigit)
    (read : readNumber? (first :: text) = some (word, after)) :
    after.length ≤ text.length := by
  have behindDot :
      (fractionPart ((first :: text).dropWhile Char.isDigit)).2.length ≤ text.length := by
    rcases opens with digit | ⟨rfl, _⟩
    · have shorter := length_dropWhile_le Char.isDigit text
      have rest := length_fractionPart_le (text.dropWhile Char.isDigit)
      simp only [List.dropWhile_cons, digit, if_true]
      omega
    · exact length_dropWhile_le Char.isDigit text
  have rest :=
    length_exponentPart_le (fractionPart ((first :: text).dropWhile Char.isDigit)).2
  simp only [readNumber?] at read
  split at read
  · simp at read
  · split at read <;>
    · simp only [Option.some.injEq, Prod.mk.injEq] at read
      rcases read with ⟨_, rfl⟩
      omega

theorem length_le_of_readSymbol? {first : Char} {token : SqlToken}
    (read : readSymbol? first text = some (token, after)) :
    after.length ≤ text.length := by
  unfold readSymbol? at read
  split at read
  · simp_all
  · simp_all
  · split at read
    · simp only [Option.some.injEq, Prod.mk.injEq] at read
      rcases read with ⟨_, rfl⟩
      simp
    · split at read <;> simp_all

theorem length_le_of_skipComment?
    (read : skipComment? text = some after) :
    after.length ≤ text.length := by
  fun_induction skipComment? text with
  | case1 => simp at read
  | case2 rest =>
      simp only [Option.some.injEq] at read
      subst read
      simp only [List.length_cons]
      omega
  | case3 c rest _ ih =>
      have shorter := ih read
      simp only [List.length_cons]
      omega

/-- Behind a token or a gap there is no more text than behind its first character. -/
theorem length_le_of_readPiece? {first : Char} {piece : Option SqlToken}
    (read : readPiece? first text = some (piece, after)) :
    after.length ≤ text.length := by
  unfold readPiece? at read
  split at read
  · rcases Option.map_eq_some_iff.mp read with ⟨⟨_, _⟩, found, same⟩
    cases same
    exact length_le_of_readLetters? found
  split at read
  · rcases Option.map_eq_some_iff.mp read with ⟨⟨_, _⟩, found, same⟩
    cases same
    exact length_le_of_readNumber? ‹_› found
  split at read
  · rcases Option.map_eq_some_iff.mp read with ⟨⟨_, _⟩, found, same⟩
    cases same
    exact length_le_of_readLiteral? found
  split at read
  · rcases Option.map_eq_some_iff.mp read with ⟨⟨_, _⟩, found, same⟩
    cases same
    exact length_le_of_readQuotedName? found
  split at read
  · cases read
    exact length_dropWhile_le followsInName text
  split at read
  · cases read
    exact Nat.le_refl _
  split at read
  · cases read
    exact length_dropWhile_le _ text
  split at read
  · rcases Option.map_eq_some_iff.mp read with ⟨_, found, same⟩
    cases same
    have shorter := length_le_of_skipComment? found
    simp only [List.length_drop] at shorter
    omega
  · rcases Option.map_eq_some_iff.mp read with ⟨⟨_, _⟩, found, same⟩
    cases same
    exact length_le_of_readSymbol? found

end Length

/-- The tokens of a text. -/
def tokenize? : Text → Option (List SqlToken)
  | [] => some []
  | first :: text =>
      match _found : readPiece? first text with
      | none => none
      | some (piece, after) => (tokenize? after).map (piece.toList ++ ·)
termination_by text => text.length
decreasing_by
  have shorter := length_le_of_readPiece? _found
  simp only [List.length_cons]
  omega

end SqlBuilder

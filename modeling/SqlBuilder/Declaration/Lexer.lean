import SqlBuilder.Declaration.DocComment
import SqlBuilder.Lexical.Blank

/-!
# Reading lexemes

Text is cut into lexemes from the front.  At each place the longest piece that
forms a lexeme is taken; blanks and comments give none, and a documentation
comment gives the lexemes of its attribute.  Text that cannot be cut to its end
has no lexemes at all.
-/

namespace SqlBuilder

/-- The character in front of lifetimes and around character literals. -/
def apostrophe : Char := '\x27'

/--
A character that may open a word: an ASCII letter, an underscore, or a character
beyond ASCII that is not blank.  Words are the only place for such a character
outside of literals and comments.
-/
def IsWordStart (c : Char) : Prop :=
  c.isAlpha = true ∨ c = '_' ∨ 0x80 ≤ c.toNat ∧ ¬IsBlank c

instance IsWordStart.decidable (c : Char) : Decidable (IsWordStart c) :=
  inferInstanceAs (Decidable (_ ∨ _ ∨ _))

/-- A character that may stand within a word. -/
def IsWordPart (c : Char) : Prop :=
  IsWordStart c ∨ c.isDigit = true

instance IsWordPart.decidable (c : Char) : Decidable (IsWordPart c) :=
  inferInstanceAs (Decidable (_ ∨ _))

/-- The punctuation characters. -/
def punctuation : Text := "~!@#$%^&*-=+|;:,<.>/?".toList

/-- Text whose first character satisfies a condition. -/
def StartsWith (condition : Char → Prop) (text : Text) : Prop :=
  ∃ c ∈ text.head?, condition c

instance StartsWith.decidable (condition : Char → Prop) [DecidablePred condition]
    (text : Text) : Decidable (StartsWith condition text) :=
  match text with
  | [] => isFalse (by simp [StartsWith])
  | c :: _ => decidable_of_iff (condition c) (by simp [StartsWith])

namespace Lexer

/-- Something read from the front of text, with the text behind it. -/
abbrev Read (α : Type) := Option (α × Text)

/-- The longest front of text of which every character satisfies a condition. -/
def span (condition : Char → Prop) [DecidablePred condition] (text : Text) : Text × Text :=
  (text.takeWhile fun c => condition c, text.dropWhile fun c => condition c)

/-- A line, and the text from its end on. -/
def line : Text → Text × Text
  | [] => ([], [])
  | '\n' :: rest => ([], '\n' :: rest)
  | '\r' :: '\n' :: rest => ([], '\n' :: rest)
  | c :: rest => (c :: (line rest).1, (line rest).2)

/-- The body of a block comment inside of `depth` further ones; the text after its end. -/
def blockBody : Nat → Text → Read Text
  | _, [] => none
  | depth, '/' :: '*' :: rest =>
      (blockBody (depth + 1) rest).map fun (body, after) => ('/' :: '*' :: body, after)
  | 0, '*' :: '/' :: rest => some ([], rest)
  | depth + 1, '*' :: '/' :: rest =>
      (blockBody depth rest).map fun (body, after) => ('*' :: '/' :: body, after)
  | depth, c :: rest =>
      (blockBody depth rest).map fun (body, after) => (c :: body, after)

/-- Quoted text with escapes behind its opening quote, up to and with the closing one. -/
def quotedBody : Text → Read Text
  | [] => none
  | '\\' :: c :: rest =>
      (quotedBody rest).map fun (body, after) => ('\\' :: c :: body, after)
  | '"' :: rest => some (['"'], rest)
  | c :: rest => (quotedBody rest).map fun (body, after) => (c :: body, after)

/--
Quoted text without escapes behind its opening quote.  It is closed by a quote
with as many hash marks behind it as stand in front of the opening one.
-/
def rawBody (hashes : Text) : Text → Read Text
  | [] => none
  | '"' :: rest =>
      if hashes.isPrefixOf rest then
        some ('"' :: hashes, rest.drop hashes.length)
      else
        (rawBody hashes rest).map fun (body, after) => ('"' :: body, after)
  | c :: rest => (rawBody hashes rest).map fun (body, after) => (c :: body, after)

/-- A character literal behind its opening apostrophe, up to and with the closing one. -/
def characterBody : Text → Read Text
  | '\\' :: c :: rest =>
      match span (· ≠ apostrophe) rest with
      | (code, _ :: after) => some ('\\' :: c :: code ++ [apostrophe], after)
      | (_, []) => none
  | c :: close :: rest => if close = apostrophe then some ([c, close], rest) else none
  | _ => none

/-- A literal takes the word that stands right behind it as its type. -/
def withType (front : Text) : Read Text → Read Lexeme
  | none => none
  | some (body, after) =>
      let (type, after) := if StartsWith IsWordStart after then span IsWordPart after else ([], after)
      some (.literal (String.ofList (front ++ body ++ type)), after)

/-- A word that may introduce quoted text without escapes. -/
def rawIntroducers : List Text := ["r".toList, "br".toList, "cr".toList]

/-- A word that may introduce quoted text with escapes. -/
def quoteIntroducers : List Text := ["b".toList, "c".toList]

/-- The literal that a word introduces, given the text behind the word. -/
def introduced (word after : Text) : Read Lexeme :=
  match span (· = '#') after with
  | (hashes, '"' :: content) =>
      if word ∈ rawIntroducers then
        withType (word ++ hashes ++ ['"']) (rawBody hashes content)
      else if word ∈ quoteIntroducers ∧ hashes = [] then
        withType (word ++ ['"']) (quotedBody content)
      else
        none
  | ([], quote :: content) =>
      if word = "b".toList ∧ quote = apostrophe then
        withType (word ++ [quote]) (characterBody content)
      else
        none
  | _ => none

/-- A word, which the mark `r#` may free from being a keyword. -/
def word (text : Text) : Text × Text :=
  match span IsWordPart text with
  | (['r'], '#' :: rest) =>
      if StartsWith IsWordStart rest then
        ('r' :: '#' :: (span IsWordPart rest).1, (span IsWordPart rest).2)
      else
        (['r'], '#' :: rest)
  | found => found

/-- A word, or the literal that it introduces. -/
def wordOrLiteral (text : Text) : Lexeme × Text :=
  match introduced (span IsWordPart text).1 (span IsWordPart text).2 with
  | some found => found
  | none => (.word (String.ofList (word text).1), (word text).2)

/-- A character literal or a lifetime, behind the apostrophe. -/
def quotedOrLifetime (text : Text) : Read Lexeme :=
  match characterBody text with
  | some found => withType [apostrophe] (some found)
  | none =>
      if StartsWith IsWordStart text then
        some (.lifetime (String.ofList (apostrophe :: (word text).1)), (word text).2)
      else
        none

/--
A number.  A point belongs to it unless a further point or a word follows, as in
a range or in the name of a member.
-/
def number (text : Text) : Lexeme × Text :=
  let (whole, after) := span IsWordPart text
  match after with
  | '.' :: rest =>
      if StartsWith (fun c => c = '.' ∨ IsWordStart c) rest then
        (.literal (String.ofList whole), after)
      else
        let (part, after) := span IsWordPart rest
        (.literal (String.ofList (whole ++ '.' :: part)), after)
  | _ => (.literal (String.ofList whole), after)

/-- What a comment up to the end of the line stands for, given its text behind the slashes. -/
def lineComment : Text → List Lexeme
  | '!' :: content => DocComment.lexemes .enclosing content
  | '/' :: '/' :: _ => []
  | '/' :: content => DocComment.lexemes .following content
  | _ => []

/-- What a block comment stands for, given its body and the text behind its opening. -/
def blockComment (body : Text) : Text → List Lexeme
  | '!' :: _ => DocComment.lexemes .enclosing (body.drop 1)
  | '*' :: '*' :: _ => []
  | '*' :: '/' :: _ => []
  | '*' :: _ => DocComment.lexemes .following (body.drop 1)
  | _ => []

/-- The text that a reader of declarations leaves behind where it has to give up. -/
def errorMark : Text := "(/*ERROR*/)".toList

/-- A punctuation character; it is joined when a further one follows without a gap. -/
def mark (c : Char) (rest : Text) : Lexeme × Text :=
  (.mark c (StartsWith (fun next => next ∈ punctuation ∨ next = apostrophe) rest), rest)

/-- What stands at the front of text that is not empty, and the text behind it. -/
def front : Text → Read (List Lexeme)
  | [] => none
  | '/' :: '/' :: rest => some (lineComment (line rest).1, (line rest).2)
  | '/' :: '*' :: rest =>
      (blockBody 0 rest).map fun (body, after) => (blockComment body rest, after)
  | '"' :: rest =>
      (withType ['"'] (quotedBody rest)).map fun (found, after) => ([found], after)
  | c :: rest =>
      if IsBlank c then
        some ([], rest)
      else if errorMark.isPrefixOf (c :: rest) then
        some ([.literal (String.ofList errorMark)], (c :: rest).drop errorMark.length)
      else if let some bracket := Bracket.opened? c then
        some ([.opening bracket], rest)
      else if let some bracket := Bracket.closed? c then
        some ([.closing bracket], rest)
      else if c = apostrophe then
        (quotedOrLifetime rest).map fun (found, after) => ([found], after)
      else if c.isDigit = true then
        some ([(number (c :: rest)).1], (number (c :: rest)).2)
      else if IsWordStart c then
        some ([(wordOrLiteral (c :: rest)).1], (wordOrLiteral (c :: rest)).2)
      else if c ∈ punctuation then
        some ([(mark c rest).1], (mark c rest).2)
      else
        none

/-- The lexemes of text, in at most `steps` steps. -/
def lexemes : Nat → Text → Option (List Lexeme)
  | _, [] => some []
  | 0, _ :: _ => none
  | steps + 1, c :: rest => do
      let (found, after) ← front (c :: rest)
      return found ++ (← lexemes steps after)

end Lexer

namespace Lexeme

/-- Text without the mark of its byte order, which may stand at its front. -/
def withoutOrderMark : Text → Text
  | '\ufeff' :: rest => rest
  | text => text

/-- The lexemes of text.  Every step takes a character at least. -/
def ofText? (text : Text) : Option (List Lexeme) :=
  Lexer.lexemes text.length (withoutOrderMark text)

/-- The name in a text that is a single word but for its layout; other text is left as it is. -/
def nameOf (source : String) : String :=
  match ofText? source.toList with
  | some [.word name] => name
  | _ => source

end Lexeme

end SqlBuilder

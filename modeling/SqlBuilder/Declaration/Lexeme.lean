import SqlBuilder.Text

/-!
# Lexemes

The words, literals and marks that the text of a declaration is made of.
Layout is not part of them: blanks and comments only keep lexemes apart.
-/

namespace SqlBuilder

/-- The brackets of declarations. -/
inductive Bracket where
  | round
  | square
  | curly
deriving DecidableEq

namespace Bracket

/-- The character that opens a bracket. -/
def opener : Bracket → Char
  | .round => '('
  | .square => '['
  | .curly => '\x7b'

/-- The character that closes a bracket. -/
def closer : Bracket → Char
  | .round => ')'
  | .square => ']'
  | .curly => '\x7d'

/-- The bracket that a character opens. -/
def opened? (c : Char) : Option Bracket :=
  [.round, .square, .curly].find? fun bracket => bracket.opener = c

/-- The bracket that a character closes. -/
def closed? (c : Char) : Option Bracket :=
  [.round, .square, .curly].find? fun bracket => bracket.closer = c

@[simp]
theorem opened?_opener (bracket : Bracket) : opened? bracket.opener = some bracket := by
  cases bracket <;> rfl

@[simp]
theorem closed?_closer (bracket : Bracket) : closed? bracket.closer = some bracket := by
  cases bracket <;> rfl

end Bracket

/-- A piece of a declaration's text. -/
inductive Lexeme where
  /-- A name or a keyword. -/
  | word (name : String)
  /-- The name of a lifetime, with its apostrophe. -/
  | lifetime (name : String)
  /-- A number, or quoted text with its quotes. -/
  | literal (source : String)
  /-- A punctuation character, and whether another one follows without a gap. -/
  | mark (symbol : Char) (joined : Bool)
  | opening (bracket : Bracket)
  | closing (bracket : Bracket)
deriving DecidableEq

namespace Lexeme

/-- The text of a lexeme. -/
def text : Lexeme → Text
  | .word name => name.toList
  | .lifetime name => name.toList
  | .literal source => source.toList
  | .mark symbol _ => [symbol]
  | .opening bracket => [bracket.opener]
  | .closing bracket => [bracket.closer]

/-- The text of lexemes without gaps between them. -/
def spelled (lexemes : List Lexeme) : Text :=
  lexemes.flatMap text

@[simp]
theorem spelled_nil : spelled [] = [] := rfl

@[simp]
theorem spelled_append (front back : List Lexeme) :
    spelled (front ++ back) = spelled front ++ spelled back := by
  simp [spelled]

/-- The comma that keeps the members of a list apart. -/
def comma : Lexeme := .mark ',' false

end Lexeme

end SqlBuilder

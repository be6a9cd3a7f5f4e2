import SqlBuilder.Declaration.Lexeme
import SqlBuilder.Lexical.Shapeless

/-!
# Documentation comments

A documentation comment is short for an attribute that holds its text as a
string literal.  The literal shows every character: the quote and the backslash
stand behind a backslash, line ends and tabs have short escapes, and a character
without a shape of its own is written by its code.
-/

namespace SqlBuilder

/-- Whether a comment documents what follows it or what it stands in. -/
inductive DocScope where
  | following
  | enclosing
deriving DecidableEq

namespace DocComment

/--
The zero character has a short escape, unless an octal digit follows: then it
is written by two hexadecimal digits.
-/
def escapeZero (next? : Option Char) : Text :=
  if next?.any fun next => '0' ≤ next ∧ next ≤ '7' then
    ['\\', 'x', '0', '0']
  else
    ['\\', '0']

/-- A character written by its code, without zeros in front. -/
def codePoint (c : Char) : Text :=
  ['\\', 'u', '\x7b'] ++ Text.hexadecimal 1 c.toNat ++ ['\x7d']

/-- One character of the text, given the character after it. -/
def escape (next? : Option Char) : Char → Text
  | '\x00' => escapeZero next?
  | '\t' => ['\\', 't']
  | '\n' => ['\\', 'n']
  | '\r' => ['\\', 'r']
  | '"' => ['\\', '"']
  | '\\' => ['\\', '\\']
  | c => if IsShapeless c then codePoint c else [c]

/-- The text between the quotes of the literal. -/
def escaped : Text → Text
  | [] => []
  | c :: rest => escape rest.head? c ++ escaped rest

/-- The text of a comment as a string literal. -/
def literal (content : Text) : Lexeme :=
  .literal (String.ofList ('"' :: escaped content ++ ['"']))

/-- The marks in front of the attribute's brackets. -/
def marks : DocScope → List Lexeme
  | .following => [.mark '#' false]
  | .enclosing => [.mark '#' false, .mark '!' false]

/-- The attribute that a documentation comment is short for. -/
def lexemes (scope : DocScope) (content : Text) : List Lexeme :=
  marks scope ++
    [.opening .square, .word "doc", .mark '=' false, literal content, .closing .square]

end DocComment

end SqlBuilder

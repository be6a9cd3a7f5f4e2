import SqlBuilder.Declaration.Keyword
import SqlBuilder.Declaration.Lexeme

/-!
# Readers of lexemes

A reader takes lexemes from the front of a list and fails where they do not fit.
What it gives back are the lexemes of what it has read, either arranged or as
they are written.
-/

namespace SqlBuilder

/-- A reader of lexemes. -/
abbrev Reader := StateT (List Lexeme) Option

/-- A reader that gives back lexemes. -/
abbrev LexemeReader := Reader (List Lexeme)

namespace Reader

/-- The next lexemes, as many as asked for. -/
def take (count : Nat) : LexemeReader := do
  let rest ← get
  let taken := rest.take count
  guard (taken.length = count)
  set (rest.drop count)
  return taken

/-- The next lexemes as long as they satisfy a condition. -/
def takeWhile (condition : Lexeme → Bool) : LexemeReader := do
  let rest ← get
  set (rest.dropWhile condition)
  return rest.takeWhile condition

/-- The given punctuation mark. -/
def symbol (expected : Char) : LexemeReader := do
  match ← get with
  | .mark found _ :: _ => if found = expected then take 1 else failure
  | _ => failure

/-- The given punctuation mark, if it comes next. -/
def symbol? (expected : Char) : LexemeReader := do
  match ← get with
  | .mark found _ :: _ => if found = expected then take 1 else pure []
  | _ => pure []

/-- The given word, if it comes next. -/
def word? (expected : String) : LexemeReader := do
  match ← get with
  | .word found :: _ => if found = expected then take 1 else pure []
  | _ => pure []

/-- An opening bracket. -/
def opening : LexemeReader := do
  match ← get with
  | .opening _ :: _ => take 1
  | _ => failure

/-- A closing bracket. -/
def closing : LexemeReader := do
  match ← get with
  | .closing _ :: _ => take 1
  | _ => failure

/-- Lexemes up to a closing bracket that is not opened among them; the lexemes from it on. -/
def untilClosing : Nat → List Lexeme → List Lexeme × List Lexeme
  | _, [] => ([], [])
  | depth, .opening bracket :: rest =>
      let (inner, after) := untilClosing (depth + 1) rest
      (.opening bracket :: inner, after)
  | 0, .closing bracket :: rest => ([], .closing bracket :: rest)
  | depth + 1, .closing bracket :: rest =>
      let (inner, after) := untilClosing depth rest
      (.closing bracket :: inner, after)
  | depth, lexeme :: rest =>
      let (inner, after) := untilClosing depth rest
      (lexeme :: inner, after)

/-- No lexeme is lost. -/
theorem untilClosing_append (depth : Nat) (lexemes : List Lexeme) :
    (untilClosing depth lexemes).1 ++ (untilClosing depth lexemes).2 = lexemes := by
  fun_induction untilClosing depth lexemes <;> simp_all

/-- The lexemes up to the closing bracket, as they are written. -/
def content : LexemeReader := do
  let (inner, after) := untilClosing 0 (← get)
  set after
  return inner

/-- A pair of brackets with what stands between them, as it is written. -/
def group : LexemeReader := do
  return (← opening) ++ (← content) ++ (← closing)

/-- What a reader takes, as it is written. -/
def asWritten {α : Type} (reader : Reader α) : LexemeReader := do
  let before ← get
  let _ ← reader
  let after ← get
  return before.take (before.length - after.length)

/-- What a reader arranges; what it takes as it is written if it has no arrangement. -/
def arrangedOrWritten (reader : Reader (Option (List Lexeme))) : LexemeReader := do
  let before ← get
  match ← reader with
  | some arranged => return arranged
  | none =>
      let after ← get
      return before.take (before.length - after.length)

end Reader

/-! ## What comes next -/

namespace Lexeme

/-- A single colon comes next. -/
def atColon : List Lexeme → Bool
  | .mark ':' true :: .mark ':' _ :: _ => false
  | .mark ':' _ :: _ => true
  | _ => false

/-- The given punctuation mark comes next. -/
def atSymbol (expected : Char) : List Lexeme → Bool
  | .mark found _ :: _ => found = expected
  | _ => false

/-- The given word comes next. -/
def atWord (expected : String) : List Lexeme → Bool
  | .word found :: _ => found = expected
  | _ => false

/-- A pattern comes next that has no arrangement: a boxed one or a constant block. -/
def atWrittenPattern : List Lexeme → Bool
  | .word "box" :: _ => true
  | .word "const" :: .opening .curly :: _ => true
  | _ => false

/-- A value in front is called, indexed or looked into. -/
def atTrailer : List Lexeme → Bool
  | .opening .round :: _ => true
  | .opening .square :: _ => true
  | .mark '.' true :: .mark '.' _ :: _ => false
  | .mark c _ :: _ => c = '.' ∨ c = '?'
  | _ => false

/-- An expression comes next that has no arrangement. -/
def atWrittenExpression : List Lexeme → Bool
  | .word "become" :: _ => true
  | .word "builtin" :: .mark '#' _ :: .word _ :: .opening _ :: rest =>
      !atTrailer ((Reader.untilClosing 0 rest).2.drop 1)
  | _ => false

/-- A curly bracket is opened next. -/
def atBlock : List Lexeme → Bool
  | .opening .curly :: _ => true
  | _ => false

/-- A bound may begin here. -/
def atBound : List Lexeme → Bool
  | .word name :: _ => name ≠ "where"
  | .lifetime _ :: _ => true
  | .opening .round :: _ => true
  | .opening .square :: _ => true
  | .mark ':' true :: .mark ':' _ :: _ => true
  | .mark c _ :: _ => c = '?' ∨ c = '<' ∨ c = '~'
  | _ => false

/-- The types of a function trait come next, perhaps behind a double colon. -/
def atFunctionTypes : List Lexeme → Bool
  | .opening .round :: _ => true
  | .mark ':' true :: .mark ':' _ :: .opening .round :: _ => true
  | _ => false

/-- The angle bracket that comes next opens parameters, and not a type. -/
def atParameters : List Lexeme → Bool
  | .mark '<' _ :: .mark c _ :: _ => c = '>' ∨ c = '#'
  | .mark '<' _ :: .word "const" :: _ => true
  | .mark '<' _ :: .word _ :: .mark ':' true :: .mark ':' _ :: _ => false
  | .mark '<' _ :: .word name :: .mark c _ :: _ => IsName name ∧ c ∈ ":,>=".toList
  | .mark '<' _ :: .lifetime _ :: .mark c _ :: _ => c ∈ ":,>=".toList
  | _ => false

/-- The word that comes next may open a path. -/
def atPath : List Lexeme → Bool
  | .word name :: _ => OpensPath name
  | .mark ':' true :: .mark ':' _ :: _ => true
  | _ => false

/-- The lexemes behind the attributes that come next, of which there are at most `count`. -/
def afterAttributes : Nat → List Lexeme → List Lexeme
  | count + 1, .mark '#' _ :: .opening .square :: rest =>
      afterAttributes count ((Reader.untilClosing 0 rest).2.drop 1)
  | _, lexemes => lexemes

/-- The lexemes behind the further segments of a path. -/
def afterSegments : List Lexeme → List Lexeme
  | .mark ':' true :: .mark ':' _ :: .word _ :: rest => afterSegments rest
  | lexemes => lexemes

/-- The call of a macro comes next. -/
def atMacroCall : List Lexeme → Bool
  | .mark ':' true :: .mark ':' _ :: rest => atMacroCall rest
  | .word _ :: rest =>
      match afterSegments rest with
      | .mark '!' _ :: .opening _ :: _ => true
      | _ => false
  | _ => false

/-- A function comes next, perhaps behind qualifying words. -/
def atFunction : List Lexeme → Bool
  | .word "fn" :: _ => true
  | .word "extern" :: .literal _ :: rest => atFunction rest
  | .word name :: rest => name ∈ ["async", "const", "extern", "safe", "unsafe"] ∧ atFunction rest
  | _ => false

/-- A block of foreign items comes next. -/
def atForeignBlock : List Lexeme → Bool
  | .word "unsafe" :: .word "extern" :: rest => atForeignBlock (.word "extern" :: rest)
  | .word "extern" :: .literal _ :: .opening .curly :: _ => true
  | .word "extern" :: .opening .curly :: _ => true
  | _ => false

/-- A static item comes next, perhaps behind a word on its safety. -/
def atStatic : List Lexeme → Bool
  | .word "static" :: _ => true
  | .word "safe" :: .word "static" :: _ => true
  | .word "unsafe" :: .word "static" :: _ => true
  | _ => false

/-- The macro call that comes next defines something: a name stands behind its mark. -/
def atDefinition : List Lexeme → Bool
  | .word name :: rest =>
      if OpensPath name then
        match afterSegments rest with
        | .mark '!' false :: .word _ :: _ => true
        | _ => false
      else
        false
  | _ => false

/-- The words that open an item wherever a statement may begin. -/
def itemKeywords : List String :=
  ["enum", "extern", "fn", "impl", "macro", "mod", "pub", "struct", "trait", "type", "use"]

/-- An item comes next, behind its attributes. -/
def atBareItem : List Lexeme → Bool
  | .word "static" :: .word name :: _ => name = "mut" ∨ IsName name
  | .word "const" :: .word name :: rest =>
      name ∉ ["async", "move", "static"] ∨ atFunction (.word name :: rest)
  | .word "const" :: _ => false
  | .word "unsafe" :: next => !atBlock next
  | .word "async" :: next => atFunction next
  | .word "union" :: .word name :: _ => IsName name
  | .word "auto" :: .word name :: _ => name = "trait"
  | .word "default" :: .word name :: _ => name = "impl" ∨ name = "unsafe"
  | .word name :: rest => name ∈ itemKeywords ∨ atDefinition (.word name :: rest)
  | lexemes => atDefinition lexemes

/-- An item comes next where a statement may begin. -/
def atItem (lexemes : List Lexeme) : Bool :=
  atBareItem (afterAttributes lexemes.length lexemes)

end Lexeme

end SqlBuilder

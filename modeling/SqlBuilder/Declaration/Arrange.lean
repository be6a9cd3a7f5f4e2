import SqlBuilder.Declaration.AngleList
import SqlBuilder.Declaration.Member
import SqlBuilder.Declaration.Position
import SqlBuilder.Declaration.Reader

/-!
# Canonical order of a type's lexemes

The type of a field may be written in several ways that mean the same.  The
readers of this module take lexemes from the front and give them back in
canonical form:

* lifetimes stand first among the arguments of a generic type, among the
  parameters of a generic item and among what a bound captures;
* a colon or the word `where` with nothing behind it is left out, and so are
  empty angle brackets behind the name of an item;
* the types of a function trait stand right behind its name, without a double
  colon or empty angle brackets between;
* the mark that relaxes a bound stands in front of the lifetimes the bound is
  stated for;
* the position of a tuple's member is a plain decimal number;
* a closed range in a pattern has two points and an equals sign;
* a variant of an enumeration has no visibility, and a binding of a function
  that has a type only gets the name that stands for none.

A length, a constant argument or the value of an attribute may hold expressions
and with them statements and items.  Expressions are followed only as far as it
takes to find the types within them.

Some parts have no form of their own and stay as they are written: the bodies of
macro calls and the lists of attributes, bounds that are constant, patterns that
are boxed or constant blocks, and the expressions and items that the language
reads but has no use for at the place where they stand.

Every reader has a bound on the depth of its calls.  A few calls at most follow
each other before a lexeme is taken, so a multiple of the number of lexemes is
enough.
-/

namespace SqlBuilder

namespace Arrange

open Lexeme Reader

/-- Where an item stands. -/
inductive Scope where
  /-- In a module or in a block. -/
  | block
  | traitBody
  | implementation
  /-- In a block of items that are defined elsewhere. -/
  | foreign
deriving DecidableEq

/-- What stands in front of an item besides its attributes. -/
structure Modifiers where
  visibility : List Lexeme
  defaultness : List Lexeme
deriving DecidableEq

namespace Modifiers

/-- The modifiers as they are written. -/
def lexemes (modifiers : Modifiers) : List Lexeme :=
  modifiers.visibility ++ modifiers.defaultness

end Modifiers

/-- Who may see an item. -/
def visibility : LexemeReader := do
  match ← get with
  | .word "pub" :: .opening .round :: .word "in" :: _ => return (← take 1) ++ (← group)
  | .word "pub" :: .opening .round :: .word name :: .closing .round :: _ =>
      if name ∈ ["crate", "self", "super"] then take 4 else take 1
  | .word "pub" :: _ => take 1
  | _ => return []

/-- The visibility of an item, and whether it may be replaced. -/
def modifiers : Reader Modifiers := do
  let visibility ← visibility
  match ← get with
  | .word "default" :: .mark '!' _ :: _ => return ⟨visibility, []⟩
  | _ => return ⟨visibility, ← word? "default"⟩

/-- The words that qualify a function or a static item. -/
def qualifiers : Nat → LexemeReader
  | 0 => failure
  | depth + 1 => do
      match ← get with
      | .word "extern" :: .literal _ :: _ => return (← take 2) ++ (← qualifiers depth)
      | .word name :: _ =>
          if name ∈ ["async", "const", "extern", "safe", "unsafe"] then
            return (← take 1) ++ (← qualifiers depth)
          else
            return []
      | _ => return []

/-- An item up to its semicolon, as it is written. -/
def plainItem : LexemeReader := do
  return (← takeWhile fun lexeme => !atSymbol ';' [lexeme]) ++ (← symbol ';')

/-- The definition of a macro, as it is written. -/
def macroDefinition : LexemeReader := do
  let front ← take 2
  if atBlock (← get) then
    return front ++ (← group)
  else
    return front ++ (← group) ++ (← group)

/-- A macro call that stands for items, as it is written. -/
def macroItem : LexemeReader := do
  let front ← takeWhile fun lexeme => !atSymbol '!' [lexeme]
  let mark ← symbol '!'
  match ← get with
  | .word _ :: _ => return front ++ mark ++ (← take 1) ++ (← group) ++ (← symbol? ';')
  | _ => return front ++ mark ++ (← group) ++ (← symbol? ';')

/-- Points: three of them stand for a closed range, as two and an equals sign do. -/
def dots : LexemeReader := do
  match ← get with
  | .mark '.' true :: .mark '.' true :: .mark '.' _ :: _ =>
      let _ ← take 3
      return [.mark '.' true, .mark '.' true, .mark '=' false]
  | .mark '.' true :: .mark '.' true :: .mark '=' _ :: _ => take 3
  | .mark '.' true :: .mark '.' _ :: _ => take 2
  | _ => take 1

mutual

/-- An attribute.  Its value is an expression; a list in brackets stays as it is written. -/
def attribution : Nat → LexemeReader
  | 0 => failure
  | depth + 1 => do
      let front := (← symbol '#') ++ (← symbol? '!') ++ (← opening) ++
        (← takeWhile fun lexeme => atSymbol ':' [lexeme] || lexeme matches .word _)
      match ← get with
      | .mark '=' _ :: _ =>
          return front ++ (← take 1) ++ (← code depth Position.list) ++ (← closing)
      | _ => return front ++ (← content) ++ (← closing)

/-- The attributes in front of a member. -/
def attributions : Nat → LexemeReader
  | 0 => failure
  | depth + 1 => do
      match ← get with
      | .mark '#' _ :: .opening .square :: _ =>
          return (← attribution depth) ++ (← attributions depth)
      | _ => return []

/-- A type.  Plus signs may add bounds to it where they cannot be taken for an operator. -/
def typeExpr : Nat → Bool → LexemeReader
  | 0, _ => failure
  | depth + 1, plus => do
      let first ← simpleType depth plus
      match ← get with
      | .mark '+' _ :: rest =>
          if plus then
            return first ++ (← take 1) ++
              (← if atBound rest then boundList depth true else pure [])
          else
            return first
      | _ => return first

/-- A type up to the plus sign behind its first bound. -/
def simpleType : Nat → Bool → LexemeReader
  | 0, _ => failure
  | depth + 1, plus => do
      match ← get with
      | .opening .round :: _ => return (← take 1) ++ (← typeList depth) ++ (← closing)
      | .opening .square :: _ =>
          let front := (← take 1) ++ (← typeExpr depth true)
          match ← get with
          | .mark ';' _ :: _ =>
              return front ++ (← take 1) ++ (← code depth Position.list) ++ (← closing)
          | _ => return front ++ (← closing)
      | .lifetime _ :: _ => take 1
      | .mark '!' _ :: _ => take 1
      | .mark '?' _ :: _ => bound depth
      | .mark '&' _ :: .lifetime _ :: .word "mut" :: _ =>
          return (← take 3) ++ (← simpleType depth false)
      | .mark '&' _ :: .lifetime _ :: _ => return (← take 2) ++ (← simpleType depth false)
      | .mark '&' _ :: .word "mut" :: _ => return (← take 2) ++ (← simpleType depth false)
      | .mark '&' _ :: _ => return (← take 1) ++ (← simpleType depth false)
      | .mark '*' _ :: .word _ :: _ => return (← take 2) ++ (← simpleType depth false)
      | .mark '<' _ :: _ => return (← qualifier depth) ++ (← segments depth)
      | .word "dyn" :: .mark '*' _ :: _ =>
          asWritten do
            let _ ← take 2
            boundList depth plus
      | .word "dyn" :: _ => return (← take 1) ++ (← boundList depth plus)
      | .word "impl" :: _ => return (← take 1) ++ (← boundList depth plus)
      | .word "unsafe" :: _ => return (← take 1) ++ (← simpleType depth false)
      | .word "extern" :: .literal _ :: _ =>
          return (← take 2) ++ (← simpleType depth false)
      | .word "extern" :: _ => return (← take 1) ++ (← simpleType depth false)
      | .word "fn" :: _ =>
          return (← take 1) ++ (← opening) ++ (← functionTypes depth true) ++ (← closing) ++
            (← output depth false)
      | .word "for" :: _ => return (← quantifier depth) ++ (← simpleType depth plus)
      | _ => path depth

/-- The lifetimes that a type or a bound is stated for. -/
def quantifier : Nat → LexemeReader
  | 0 => failure
  | depth + 1 => do
      return (← take 1) ++ (← symbol '<') ++ (← parameters depth).inOrder ++ (← symbol '>')

/-- Bounds with plus signs between them, or a single bound. -/
def boundList : Nat → Bool → LexemeReader
  | 0, _ => failure
  | depth + 1, plus => do
      let first ← bound depth
      match ← get with
      | .mark '+' _ :: rest =>
          if plus then
            return first ++ (← take 1) ++
              (← if atBound rest then boundList depth true else pure [])
          else
            return first
      | _ => return first

/-- A bound: a lifetime, the names that a type captures, or a trait. -/
def bound : Nat → LexemeReader
  | 0 => failure
  | depth + 1 => do
      match ← get with
      | .lifetime _ :: _ => take 1
      | .word "use" :: _ => return (← take 1) ++ (← arguments depth)
      | _ => arrangedOrWritten (traitBound depth)

/-- A trait as a bound.  A bound that is constant has no arrangement. -/
def traitBound : Nat → Reader (Option (List Lexeme))
  | 0 => failure
  | depth + 1 => do
      match ← get with
      | .opening .round :: _ =>
          let front ← take 1
          let inner ← traitBound depth
          let back ← closing
          return inner.map fun inner => front ++ inner ++ back
      | .opening .square :: .word "const" :: .closing .square :: _ =>
          let _ ← take 3
          let _ ← traitBound depth
          return none
      | .mark '~' _ :: .word "const" :: _ =>
          let _ ← take 2
          let _ ← traitBound depth
          return none
      | .word "const" :: _ =>
          let _ ← take 1
          let _ ← traitBound depth
          return none
      | .mark '?' _ :: _ =>
          let relaxing ← take 1
          return (← traitBound depth).map (relaxing ++ ·)
      | .word "for" :: _ =>
          let stated ← quantifier depth
          match ← get with
          | .mark '?' _ :: _ =>
              let relaxing ← take 1
              return (← traitBound depth).map (relaxing ++ stated ++ ·)
          | _ => return (← traitBound depth).map (stated ++ ·)
      | _ => return some (← path depth)

/-- Bounds with the colon in front of them, which is left out if there are none. -/
def statedBounds : Nat → LexemeReader
  | 0 => failure
  | depth + 1 => do
      if atColon (← get) then
        let colon ← take 1
        if atBound (← get) then
          return colon ++ (← boundList depth true)
        else
          return []
      else
        return []

/-- Types between round brackets. -/
def typeList : Nat → LexemeReader
  | 0 => failure
  | depth + 1 => do
      match ← get with
      | .closing _ :: _ => return []
      | .mark ',' _ :: _ => return (← take 1) ++ (← typeList depth)
      | _ => return (← typeExpr depth true) ++ (← typeList depth)

/--
The types of a function's bindings, with attributes and names where they have
them.  The first one may be the value itself; a changeable one has no
arrangement.
-/
def functionTypes : Nat → Bool → LexemeReader
  | 0, _ => failure
  | depth + 1, isFirst => do
      match ← get with
      | .closing _ :: _ => return []
      | .mark '#' _ :: _ => return (← attribution depth) ++ (← functionTypes depth isFirst)
      | .mark ',' _ :: _ => return (← take 1) ++ (← functionTypes depth false)
      | .mark '.' _ :: _ => return (← take 1) ++ (← functionTypes depth false)
      | .word "mut" :: .word "self" :: rest =>
          guard isFirst
          if atColon rest then
            let written ← asWritten do
              let _ ← take 3
              typeExpr depth true
            return written ++ (← functionTypes depth false)
          else
            return (← take 2) ++ (← functionTypes depth false)
      | .word _ :: rest =>
          if atColon rest then
            return (← take 2) ++ (← functionTypes depth false)
          else
            return (← typeExpr depth true) ++ (← functionTypes depth false)
      | _ => return (← typeExpr depth true) ++ (← functionTypes depth false)

/-- The type behind an arrow, if there is one. -/
def output : Nat → Bool → LexemeReader
  | 0, _ => failure
  | depth + 1, plus => do
      match ← get with
      | .mark '-' true :: .mark '>' _ :: _ => return (← take 2) ++ (← typeExpr depth plus)
      | _ => return []

/-- The type in front of a path, with the trait that it is seen as. -/
def qualifier : Nat → LexemeReader
  | 0 => failure
  | depth + 1 => do
      let front := (← symbol '<') ++ (← typeExpr depth true)
      match ← get with
      | .word "as" :: _ => return front ++ (← take 1) ++ (← path depth) ++ (← symbol '>')
      | _ => return front ++ (← symbol '>')

/-- A path in a type. -/
def path : Nat → LexemeReader
  | 0 => failure
  | depth + 1 => do
      match ← get with
      | .mark ':' true :: .mark ':' _ :: _ => return (← take 2) ++ (← path depth)
      | .word _ :: _ => return (← take 1) ++ (← segments depth)
      | _ => failure

/-- What follows the name of a segment: arguments, further segments or a macro call. -/
def segments : Nat → LexemeReader
  | 0 => failure
  | depth + 1 => do
      let rest ← get
      if atFunctionTypes rest then
        functionTrait depth
      else
        match rest with
        | .mark '<' true :: .mark '=' _ :: _ => return []
        | .mark '<' _ :: _ => genericSegment depth
        | .mark ':' true :: .mark ':' _ :: .mark '<' _ :: _ => genericSegment depth
        | .mark ':' true :: .mark ':' _ :: _ => return (← take 2) ++ (← path depth)
        | .mark '!' _ :: .opening _ :: _ => return (← take 1) ++ (← group)
        | _ => return []

/-- The arguments of a segment, which are left out if they are empty and types follow them. -/
def genericSegment : Nat → LexemeReader
  | 0 => failure
  | depth + 1 => do
      let colons ← takeWhile (atSymbol ':' [·])
      let opening ← symbol '<'
      let members ← argumentList depth
      let closing ← symbol '>'
      if members.isEmpty && atFunctionTypes (← get) then
        functionTrait depth
      else
        return colons ++ opening ++ members.lifetimesFirst ++ closing ++ (← segments depth)

/-- The argument types and the output of a function trait. -/
def functionTrait : Nat → LexemeReader
  | 0 => failure
  | depth + 1 => do
      let _ ← takeWhile (atSymbol ':' [·])
      return (← opening) ++ (← typeList depth) ++ (← closing) ++ (← output depth false) ++
        (← segments depth)

/-- Arguments between angle brackets, in canonical order. -/
def arguments : Nat → LexemeReader
  | 0 => failure
  | depth + 1 => do
      return (← symbol '<') ++ (← argumentList depth).lifetimesFirst ++ (← symbol '>')

/-- The arguments up to the closing angle bracket. -/
def argumentList : Nat → Reader AngleList
  | 0 => failure
  | depth + 1 => do
      match ← get with
      | .mark '>' _ :: _ => return []
      | .lifetime name :: .mark ',' _ :: _ =>
          let _ ← take 2
          return ⟨true, [.lifetime name], true⟩ :: (← argumentList depth)
      | .lifetime _ :: .mark '>' _ :: _ => return [⟨true, ← take 1, false⟩]
      | _ =>
          let found ← argument depth
          match ← get with
          | .mark ',' _ :: _ =>
              let _ ← take 1
              return ⟨false, found, true⟩ :: (← argumentList depth)
          | _ => return [⟨false, found, false⟩]

/-- An argument that is not a lifetime: a value, a type, or what an associated item is. -/
def argument : Nat → LexemeReader
  | 0 => failure
  | depth + 1 => do
      match ← get with
      | .literal _ :: _ => take 1
      | .mark '-' _ :: .literal _ :: _ => take 2
      | .opening .curly :: _ => block depth
      | _ =>
          let found ← typeExpr depth true
          let rest ← get
          match rest with
          | .mark '=' _ :: _ => return found ++ (← take 1) ++ (← argument depth)
          | _ =>
              if atColon rest then
                let colon ← take 1
                return found ++ colon ++
                  (← if atBound (← get) then boundList depth true else pure [])
              else
                return found

/-- The parameters up to the closing angle bracket. -/
def parameters : Nat → Reader AngleList
  | 0 => failure
  | depth + 1 => do
      match ← get with
      | .mark '>' _ :: _ => return []
      | _ =>
          let front ← attributions depth
          let isLifetime := (← get).head? matches some (.lifetime _)
          let found := front ++ (← parameter depth)
          match ← get with
          | .mark ',' _ :: _ =>
              let _ ← take 1
              return ⟨isLifetime, found, true⟩ :: (← parameters depth)
          | _ => return [⟨isLifetime, found, false⟩]

/-- A parameter: a lifetime or a type with its bounds, or a constant with its type. -/
def parameter : Nat → LexemeReader
  | 0 => failure
  | depth + 1 => do
      let front ← match ← get with
        | .word "const" :: .word _ :: .mark ':' _ :: _ =>
            pure ((← take 3) ++ (← typeExpr depth true))
        | _ => pure ((← take 1) ++ (← statedBounds depth))
      match ← get with
      | .mark '=' _ :: _ => return front ++ (← take 1) ++ (← argument depth)
      | _ => return front

/-- The parameters behind the name of an item, which are left out if there are none. -/
def generics : Nat → LexemeReader
  | 0 => failure
  | depth + 1 => do
      match ← get with
      | .mark '<' _ :: _ =>
          let opening ← take 1
          let members ← parameters depth
          let closing ← symbol '>'
          return if members.isEmpty then [] else opening ++ members.lifetimesFirst ++ closing
      | _ => return []

/-- The conditions behind the word `where`, which is left out if there are none. -/
def conditions : Nat → LexemeReader
  | 0 => failure
  | depth + 1 => do
      match ← get with
      | .word "where" :: _ =>
          let front ← take 1
          let found ← conditionList depth
          return if found.isEmpty then [] else front ++ found
      | _ => return []

/-- Conditions, each a type or a lifetime with its bounds. -/
def conditionList : Nat → LexemeReader
  | 0 => failure
  | depth + 1 => do
      match ← get with
      | [] => return []
      | .closing _ :: _ => return []
      | .opening .curly :: _ => return []
      | .mark ';' _ :: _ => return []
      | .mark '=' _ :: _ => return []
      | _ =>
          let front := (← typeExpr depth true) ++ (← symbol ':')
          let found := front ++ (← if atBound (← get) then boundList depth true else pure [])
          match ← get with
          | .mark ',' _ :: _ => return found ++ (← take 1) ++ (← conditionList depth)
          | _ => return found

/-- A block. -/
def block : Nat → LexemeReader
  | 0 => failure
  | depth + 1 => do
      guard (atBlock (← get))
      return (← take 1) ++ (← code depth Position.block) ++ (← closing)

/-- Patterns with bars between them, and perhaps one in front. -/
def alternatives : Nat → LexemeReader
  | 0 => failure
  | depth + 1 => do
      let front ← symbol? '|'
      let found ← pattern depth
      guard (!found.isEmpty)
      if atSymbol '|' (← get) then
        return front ++ found ++ (← alternatives depth)
      else
        return front ++ found

/-- The patterns between brackets, with attributes and the names of members. -/
def patternList : Nat → LexemeReader
  | 0 => failure
  | depth + 1 => do
      match ← get with
      | .closing _ :: _ => return []
      | .mark '#' _ :: _ => return (← attribution depth) ++ (← patternList depth)
      | .mark ',' _ :: _ => return (← take 1) ++ (← patternList depth)
      | .literal source :: .mark ':' _ :: _ =>
          let _ ← take 1
          let colon ← take 1
          return Member.lexeme (.literal source) :: colon ++ (← patternList depth)
      | .word _ :: rest =>
          if atColon rest then
            return (← take 2) ++ (← patternList depth)
          else
            return (← alternatives depth) ++ (← patternList depth)
      | _ => return (← alternatives depth) ++ (← patternList depth)

/--
A pattern up to what cannot belong to it.  A boxed pattern and a constant block
stay as they are written, but not a constant block that ends a range.
-/
def pattern : Nat → LexemeReader
  | 0 => failure
  | depth + 1 => do
      match ← get with
      | .opening _ :: _ =>
          return (← take 1) ++ (← patternList depth) ++ (← closing) ++ (← pattern depth)
      | .literal _ :: _ => return (← take 1) ++ (← pattern depth)
      | .lifetime _ :: _ => return (← take 1) ++ (← pattern depth)
      | .word "if" :: _ => return []
      | .word "in" :: _ => return []
      | .word "box" :: _ =>
          asWritten do
            let _ ← take 1
            pattern depth
      | .word "const" :: .opening _ :: _ =>
          return (← take 1) ++ (← group) ++ (← pattern depth)
      | .word _ :: .mark '!' _ :: .opening _ :: _ =>
          return (← take 2) ++ (← group) ++ (← pattern depth)
      | .word _ :: _ => return (← take 1) ++ (← pattern depth)
      | .mark '<' _ :: _ => return (← qualifier depth) ++ (← pattern depth)
      | .mark ':' true :: .mark ':' _ :: .mark '<' _ :: _ =>
          return (← take 2) ++ (← arguments depth) ++ (← pattern depth)
      | .mark ':' true :: .mark ':' _ :: _ => return (← take 2) ++ (← pattern depth)
      | .mark '.' _ :: _ =>
          let found ← dots
          if atWord "const" (← get) then
            return found ++ (← take 1) ++ (← block depth)
          else
            return found ++ (← pattern depth)
      | .mark c _ :: _ =>
          if c ∈ "&-@".toList then
            return (← take 1) ++ (← pattern depth)
          else
            return []
      | _ => return []

/-- The bindings of a function or a closure up to the bracket or the bar that closes them. -/
def bindings : Nat → Bool → LexemeReader
  | 0, _ => failure
  | depth + 1, ofFunction => do
      match ← get with
      | .closing _ :: _ => return []
      | .mark '|' _ :: _ => return []
      | .mark ',' _ :: _ => return (← take 1) ++ (← bindings depth ofFunction)
      | _ => return (← binding depth ofFunction) ++ (← bindings depth ofFunction)

/--
A binding.  A binding of a closure that has no type loses its attributes if its
pattern stays as it is written.
-/
def binding : Nat → Bool → LexemeReader
  | 0, _ => failure
  | depth + 1, ofFunction => do
      let attributes ← attributions depth
      let rest ← get
      match rest with
      | .mark '.' true :: .mark '.' true :: .mark '.' _ :: _ => return attributes ++ (← take 3)
      | .word name :: .mark '<' _ :: _ =>
          guard (ofFunction ∧ IsName name)
          return attributes ++ [.word "_", .mark ':' false] ++ (← typeExpr depth true)
      | _ =>
          let found ← pattern depth
          guard (!found.isEmpty)
          match ← get with
          | .mark ':' _ :: .mark '.' true :: _ => return attributes ++ found ++ (← take 4)
          | .mark ':' _ :: _ =>
              return attributes ++ found ++ (← take 1) ++ (← typeExpr depth true)
          | _ =>
              if atWrittenPattern rest && !ofFunction then
                return found
              else
                return attributes ++ found

/-- The fields of a structure or of a variant up to the closing bracket. -/
def fields : Nat → LexemeReader
  | 0 => failure
  | depth + 1 => do
      match ← get with
      | .closing _ :: _ => return []
      | .mark '#' _ :: _ => return (← attribution depth) ++ (← fields depth)
      | .mark ',' _ :: _ => return (← take 1) ++ (← fields depth)
      | .word "pub" :: _ => return (← visibility) ++ (← fields depth)
      | .word "_" :: .mark ':' _ :: .word "struct" :: .opening .curly :: _ =>
          return (← take 3) ++ (← group) ++ (← fields depth)
      | .word "_" :: .mark ':' _ :: .word "union" :: .opening .curly :: _ =>
          return (← take 3) ++ (← group) ++ (← fields depth)
      | .word _ :: rest =>
          if atColon rest then
            return (← take 2) ++ (← typeExpr depth true) ++ (← fields depth)
          else
            return (← typeExpr depth true) ++ (← fields depth)
      | _ => return (← typeExpr depth true) ++ (← fields depth)

/-- The variants of an enumeration up to the closing bracket.  They have no visibility. -/
def variants : Nat → LexemeReader
  | 0 => failure
  | depth + 1 => do
      match ← get with
      | .closing _ :: _ => return []
      | .mark '#' _ :: _ => return (← attribution depth) ++ (← variants depth)
      | .mark ',' _ :: _ => return (← take 1) ++ (← variants depth)
      | .mark '=' _ :: _ =>
          return (← take 1) ++ (← code depth Position.member) ++ (← variants depth)
      | .word "pub" :: _ =>
          let _ ← visibility
          variants depth
      | .word _ :: .opening _ :: _ =>
          return (← take 2) ++ (← fields depth) ++ (← closing) ++ (← variants depth)
      | .word _ :: _ => return (← take 1) ++ (← variants depth)
      | _ => failure

/-- The members of a module, a trait, an implementation or a foreign block. -/
def members : Nat → Scope → LexemeReader
  | 0, _ => failure
  | depth + 1, scope => do
      match ← get with
      | .closing _ :: _ => return []
      | .mark '#' _ :: .mark '!' _ :: _ =>
          return (← attribution depth) ++ (← members depth scope)
      | _ => return (← item depth scope) ++ (← members depth scope)

/-- An item. -/
def item : Nat → Scope → LexemeReader
  | 0, _ => failure
  | depth + 1, scope =>
      arrangedOrWritten do
        let front ← attributions depth
        let modifiers ← modifiers
        return (← bareItem depth scope modifiers).map (front ++ modifiers.lexemes ++ ·)

/-- An item behind its attributes and modifiers, if it has an arrangement. -/
def bareItem : Nat → Scope → Modifiers → Reader (Option (List Lexeme))
  | 0, _, _ => failure
  | depth + 1, scope, modifiers => do
      let rest ← get
      if atFunction rest then
        function depth scope modifiers
      else if atStatic rest then
        staticItem depth scope
      else if atForeignBlock rest then
        return some ((← qualifiers depth) ++ (← opening) ++ (← members depth .foreign) ++
          (← closing))
      else
        match rest with
        | .word "unsafe" :: _ =>
            let front ← take 1
            return (← bareItem depth scope modifiers).map (front ++ ·)
        | .word "auto" :: .word "trait" :: _ =>
            let front ← take 1
            return (← bareItem depth scope modifiers).map (front ++ ·)
        | .word "const" :: _ => constant depth scope modifiers
        | .word "type" :: _ => typeAlias depth scope modifiers
        | .word "use" :: _ => return some (← plainItem)
        | .word "extern" :: _ => return some (← plainItem)
        | .word "mod" :: .word _ :: .opening .curly :: _ =>
            return some ((← take 3) ++ (← members depth .block) ++ (← closing))
        | .word "mod" :: _ => return some (← plainItem)
        | .word "struct" :: _ => return some (← structureItem depth)
        | .word "union" :: .word _ :: _ => return some (← structureItem depth)
        | .word "enum" :: _ =>
            return some ((← take 2) ++ (← generics depth) ++ (← conditions depth) ++
              (← opening) ++ (← variants depth) ++ (← closing))
        | .word "trait" :: _ => return some (← traitItem depth)
        | .word "impl" :: _ => implementation depth modifiers
        | .word "macro" :: _ =>
            let _ ← macroDefinition
            return none
        | _ => return some (← macroItem)

/-- The body of a function, or the semicolon in its place. -/
def functionBody : Nat → LexemeReader
  | 0 => failure
  | depth + 1 => do
      if atBlock (← get) then block depth else symbol ';'

/--
A function.  It has a body in a module and in an implementation, none in a
foreign block, and may have one in a trait.
-/
def function : Nat → Scope → Modifiers → Reader (Option (List Lexeme))
  | 0, _, _ => failure
  | depth + 1, scope, modifiers => do
      let front ← qualifiers depth
      let head := (← take 2) ++ (← generics depth) ++ (← opening) ++ (← bindings depth true) ++
        (← closing) ++ (← output depth true) ++ (← conditions depth)
      let hasBody := atBlock (← get)
      let found := front ++ head ++ (← functionBody depth)
      let isArranged : Bool := match scope with
        | .block => hasBody
        | .implementation => hasBody
        | .traitBody => modifiers.lexemes.isEmpty
        | .foreign => !hasBody ∧ Lexeme.word "safe" ∉ front
      return if isArranged then some found else none

/-- The value behind an equals sign, if there is one. -/
def assigned : Nat → LexemeReader
  | 0 => failure
  | depth + 1 => do
      if atSymbol '=' (← get) then
        return (← take 1) ++ (← code depth Position.member)
      else
        return []

/-- A constant.  It has a value, except in a trait, and neither parameters nor conditions. -/
def constant : Nat → Scope → Modifiers → Reader (Option (List Lexeme))
  | 0, _, _ => failure
  | depth + 1, scope, modifiers => do
      let front ← take 2
      let isGeneric := atSymbol '<' (← get)
      let parameters ← generics depth
      let type := (← symbol ':') ++ (← typeExpr depth true)
      let value ← assigned depth
      let isConditional := atWord "where" (← get)
      let conditions ← conditions depth
      let back ← symbol ';'
      let isComplete : Bool := match scope with
        | .traitBody => modifiers.lexemes.isEmpty
        | _ => !value.isEmpty
      return if isComplete ∧ !isGeneric ∧ !isConditional then
        some (front ++ parameters ++ type ++ value ++ conditions ++ back)
      else
        none

/-- A static item.  It has a type, and a value unless it is foreign. -/
def staticItem : Nat → Scope → Reader (Option (List Lexeme))
  | 0, _ => failure
  | depth + 1, scope => do
      let safety ← qualifiers depth
      let front := (← take 1) ++ (← word? "mut") ++ (← take 1)
      let type ← if atColon (← get) then pure ((← take 1) ++ (← typeExpr depth true)) else pure []
      let value ← assigned depth
      let back ← symbol ';'
      let isArranged : Bool := match scope with
        | .foreign => safety.isEmpty ∧ value.isEmpty
        | _ => !type.isEmpty ∧ !value.isEmpty
      return if isArranged then some (safety ++ front ++ type ++ value ++ back) else none

/--
A type with a name.  In a module and in an implementation it has a definition
and no bounds, in a foreign block it has neither.
-/
def typeAlias : Nat → Scope → Modifiers → Reader (Option (List Lexeme))
  | 0, _, _ => failure
  | depth + 1, scope, modifiers => do
      let front := (← take 2) ++ (← generics depth)
      let isBounded := atColon (← get)
      let head := front ++ (← statedBounds depth) ++ (← conditions depth)
      let isDefined := atSymbol '=' (← get)
      let definition ←
        if isDefined then pure ((← take 1) ++ (← typeExpr depth true)) else pure []
      let back := (← conditions depth) ++ (← symbol ';')
      let isArranged : Bool := match scope with
        | .block => isDefined ∧ !isBounded
        | .implementation => isDefined ∧ !isBounded
        | .traitBody => modifiers.lexemes.isEmpty
        | .foreign => !isDefined ∧ !isBounded
      return if isArranged then some (head ++ definition ++ back) else none

/-- A structure or a union. -/
def structureItem : Nat → LexemeReader
  | 0 => failure
  | depth + 1 => do
      let front := (← take 2) ++ (← generics depth) ++ (← conditions depth)
      match ← get with
      | .opening _ :: _ =>
          return front ++ (← take 1) ++ (← fields depth) ++ (← closing) ++
            (← conditions depth) ++ (← symbol? ';')
      | _ => return front ++ (← symbol ';')

/-- A trait, or another name for bounds. -/
def traitItem : Nat → LexemeReader
  | 0 => failure
  | depth + 1 => do
      let front := (← take 2) ++ (← generics depth) ++ (← statedBounds depth)
      match ← get with
      | .mark '=' _ :: _ =>
          let equals ← take 1
          let bounds ← if atBound (← get) then boundList depth true else pure []
          return front ++ equals ++ bounds ++ (← conditions depth) ++ (← symbol ';')
      | _ =>
          return front ++ (← conditions depth) ++ (← opening) ++ (← members depth .traitBody) ++
            (← closing)

/--
What an implementation is for, and whether it has an arrangement: a trait has to
be given by a path.  A type that is said to have no implementation stays as it
is written; an exclamation mark by itself is a type.
-/
def subject : Nat → Reader (List Lexeme × Bool)
  | 0 => failure
  | depth + 1 => do
      let before ← get
      let polarity ← if atBlock (before.drop 1) then pure [] else symbol? '!'
      let next ← get
      let opensPath := atPath next && !atMacroCall next
      let first ← if opensPath then path depth else typeExpr depth true
      let isPath := opensPath && !atSymbol '+' (← get)
      let further ← if atSymbol '+' (← get) then
          pure ((← take 1) ++ (← boundList depth true))
        else
          pure []
      if atWord "for" (← get) then
        return (polarity ++ first ++ further ++ (← take 1) ++ (← typeExpr depth true), isPath)
      else if polarity.isEmpty then
        return (first ++ further, true)
      else
        return (before.take (before.length - (← get).length), true)

/-- An implementation.  It has no visibility and is not constant. -/
def implementation : Nat → Modifiers → Reader (Option (List Lexeme))
  | 0, _ => failure
  | depth + 1, modifiers => do
      let front ← take 1
      let parameters ← if atParameters (← get) then generics depth else pure []
      let constness := (← symbol? '?') ++ (← word? "const")
      let (subject, isArranged) ← subject depth
      let found := front ++ parameters ++ subject ++ (← conditions depth) ++ (← opening) ++
        (← members depth .implementation) ++ (← closing)
      return if isArranged ∧ constness.isEmpty ∧ modifiers.visibility.isEmpty then
        some found
      else
        none

/-- The bindings of a closure with the bars around them. -/
def closureHead : Nat → LexemeReader
  | 0 => failure
  | depth + 1 => do
      return (← symbol '|') ++ (← bindings depth false) ++ (← symbol '|')

/-- What stands behind the block of a condition. -/
def otherwise : Nat → LexemeReader
  | 0 => failure
  | depth + 1 => do
      match ← get with
      | .word "else" :: .word "if" :: _ =>
          return (← take 2) ++ (← code depth Position.head) ++ (← block depth) ++
            (← otherwise depth)
      | .word "else" :: .opening .curly :: _ => return (← take 1) ++ (← block depth)
      | _ => return []

/-- The arms that a value is matched with from the pattern of the next one on. -/
def arms : Nat → Position → LexemeReader
  | 0, _ => failure
  | depth + 1, position => do
      match ← get with
      | .closing _ :: _ => return []
      | .mark '#' _ :: _ => return (← attribution depth) ++ (← arms depth position)
      | .mark ',' _ :: _ => return (← take 1) ++ (← arms depth position)
      | _ => return (← alternatives depth) ++ (← word? "if") ++ (← code depth position.operator)

/--
Attributes in front of an expression, and what follows.  An expression that stays
as it is written keeps them as they are, or loses them at the beginning of a
statement.
-/
def attributed : Nat → Position → LexemeReader
  | 0, _ => failure
  | depth + 1, position => do
      let rest ← get
      if atWrittenExpression (afterAttributes rest.length rest) then
        let written ← asWritten (attributions depth)
        if position.place = .statement then
          code depth position
        else
          return written ++ (← code depth position)
      else
        return (← attribution depth) ++ (← code depth position)

/-- Lexemes of expressions and statements up to their end. -/
def code : Nat → Position → LexemeReader
  | 0, _ => failure
  | depth + 1, position => do
      let rest ← get
      if position.place = .arm then
        arms depth position
      else if position.place = .statement ∧ atItem rest then
        return (← item depth .block) ++ (← code depth position.next)
      else
        match rest with
        | [] => return []
        | .closing _ :: _ => return []
        | .opening bracket :: _ =>
            if bracket = .curly ∧ position.endsAtBlock then
              return []
            else
              return (← take 1) ++ (← code depth (Position.within bracket)) ++ (← closing) ++
                (← code depth (position.behind bracket))
        | .literal source :: next =>
            let found ← take 1
            return (if atColon next then [Member.lexeme (.literal source)] else found) ++
              (← code depth position.value)
        | .lifetime _ :: .mark ':' _ :: _ =>
            return (← take 2) ++ (← code depth position.label)
        | .lifetime _ :: _ => return (← take 1) ++ (← code depth position.operator)
        | .mark c joined :: next => codeMark depth position c joined next
        | .word name :: next => codeWord depth position name next

/-- Lexemes of expressions and statements that begin with a punctuation mark. -/
def codeMark : Nat → Position → Char → Bool → List Lexeme → LexemeReader
  | 0, _, _, _, _ => failure
  | depth + 1, position, c, joined, next => do
      match c, joined, next with
      | '#', _, _ => attributed depth position
      | ',', _, _ =>
          if position.isMember then
            return []
          else
            return (← take 1) ++ (← code depth position.comma)
      | ';', _, _ =>
          if position.isMember then
            return []
          else
            return (← take 1) ++ (← code depth position.next)
      | '=', true, .mark '>' _ :: _ =>
          return (← take 2) ++ (← code depth position.body)
      | '-', true, .mark '>' _ :: _ =>
          return (← output depth true) ++ (← code depth position.operator)
      | ':', true, .mark ':' _ :: .mark '<' _ :: _ =>
          return (← take 2) ++ (← arguments depth) ++ (← code depth position.value)
      | ':', true, .mark ':' _ :: _ =>
          return (← take 2) ++ (← code depth position.operator)
      | '.', false, .literal source :: _ =>
          let point ← take 1
          let _ ← take 1
          return point ++ [Member.lexeme (.literal source)] ++ (← code depth position.value)
      | '.', _, _ =>
          let found ← dots
          if position.surroundings = .head ∧ atBlock (← get) then
            return found
          else
            return found ++ (← code depth position.operator)
      | '?', _, _ => return (← take 1) ++ (← code depth position.value)
      | '<', true, .mark '<' _ :: _ =>
          if position.afterValue then
            return (← take 2) ++ (← code depth position.operator)
          else
            return (← qualifier depth) ++ (← code depth position.value)
      | '<', _, _ =>
          if position.afterValue then
            return (← take 1) ++ (← code depth position.operator)
          else
            return (← qualifier depth) ++ (← code depth position.value)
      | '|', true, .mark '|' _ :: _ => return (← take 2) ++ (← code depth position.operator)
      | '|', _, _ =>
          if position.afterValue then
            return (← take 1) ++ (← code depth position.operator)
          else
            return (← closureHead depth) ++ (← code depth position.operator)
      | _, _, _ => return (← take 1) ++ (← code depth position.operator)

/-- Lexemes of expressions and statements that begin with a word. -/
def codeWord : Nat → Position → String → List Lexeme → LexemeReader
  | 0, _, _, _ => failure
  | depth + 1, position, name, next => do
      match name, next with
      | "where", _ => return []
      | "as", _ =>
          return (← take 1) ++ (← simpleType depth false) ++ (← code depth position.value)
      | "let", _ =>
          let front := (← take 1) ++ (← alternatives depth)
          let type ←
            if atColon (← get) then pure ((← take 1) ++ (← typeExpr depth true)) else pure []
          return front ++ type ++ (← code depth position.value)
      | "if", _ =>
          return (← take 1) ++ (← code depth Position.head) ++ (← block depth) ++
            (← otherwise depth) ++ (← code depth (position.behind .curly))
      | "while", _ =>
          return (← take 1) ++ (← code depth Position.head) ++ (← block depth) ++
            (← code depth (position.behind .curly))
      | "match", _ =>
          return (← take 1) ++ (← code depth Position.head) ++ (← opening) ++
            (← code depth Position.arms) ++ (← closing) ++ (← code depth (position.behind .curly))
      | "for", .mark '<' _ :: .lifetime _ :: _ =>
          return (← quantifier depth) ++ (← code depth position.operator)
      | "for", .mark '<' _ :: .mark '>' _ :: _ =>
          return (← quantifier depth) ++ (← code depth position.operator)
      | "for", _ =>
          return (← take 1) ++ (← alternatives depth) ++ (← word? "in") ++
            (← code depth Position.head) ++ (← block depth) ++
            (← code depth (position.behind .curly))
      | "become", _ =>
          let written ← asWritten do
            let _ ← take 1
            code depth Position.member
          return written ++ (← code depth position.value)
      | "builtin", .mark '#' _ :: .word _ :: .opening _ :: _ =>
          return (← take 3) ++ (← group) ++ (← code depth position.value)
      | _, .mark '!' _ :: .opening bracket :: _ =>
          if OpensPath name then
            return (← take 2) ++ (← group) ++ (← code depth (position.behindCall bracket))
          else
            return (← take 1) ++ (← code depth (position.word name))
      | _, _ => return (← take 1) ++ (← code depth (position.word name))

end

/-- The lexemes of a type in canonical form; lexemes that are no type are left as they are. -/
def typeLexemes (lexemes : List Lexeme) : List Lexeme :=
  match (typeExpr (32 * (lexemes.length + 1)) true).run lexemes with
  | some (arranged, []) => arranged
  | _ => lexemes

end Arrange

end SqlBuilder

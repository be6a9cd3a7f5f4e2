import SqlBuilder.Declaration.TypeText
import SqlBuilder.Proofs.ReaderSteps

/-!
# The canonical form of plain types

A plain type is built of paths, references, slices and tuples; the segments of
its paths may have lifetimes and plain types for arguments.  `PlainType` is the
grammar of such types.  It says at once which lexemes they are written with and
what their canonical form is: the same lexemes, with the lifetimes first between
angle brackets and plain commas there.

The readers find this form whatever the type (`PlainType.typeLexemes_eq`), and a
type in this form is plain and stays as it is (`PlainType.arranged`).  To bring a
plain type into canonical form once more therefore changes nothing
(`PlainType.typeLexemes_typeLexemes`).
-/

namespace SqlBuilder

namespace Arrange

open Lexeme Reader

/-! ## The grammar of plain types -/

/-- The marks of a reference, with its lifetime and the word that makes it changeable. -/
def referenceMarks (joined : Bool) (lifetime : Option String) (isMutable : Bool) : List Lexeme :=
  .mark '&' joined ::
    (lifetime.toList.map .lifetime ++ if isMutable then [.word "mut"] else [])

mutual

/-- A plain type as it is written, and its canonical form. -/
inductive PlainType : List Lexeme → List Lexeme → Prop where
  | path {written arranged : List Lexeme} :
      PlainPath written arranged → PlainType written arranged
  | reference {written arranged : List Lexeme} (joined : Bool) (lifetime : Option String)
      (isMutable : Bool) : PlainType written arranged →
      PlainType (referenceMarks joined lifetime isMutable ++ written)
        (referenceMarks joined lifetime isMutable ++ arranged)
  | slice {written arranged : List Lexeme} : PlainType written arranged →
      PlainType (.opening .square :: (written ++ [.closing .square]))
        (.opening .square :: (arranged ++ [.closing .square]))
  | tuple {written arranged : List Lexeme} : PlainTuple written arranged →
      PlainType (.opening .round :: (written ++ [.closing .round]))
        (.opening .round :: (arranged ++ [.closing .round]))

/-- A path from its first name on, or from the root. -/
inductive PlainPath : List Lexeme → List Lexeme → Prop where
  | name {written arranged : List Lexeme} (name : String) (opens : OpensPath name) :
      PlainSegments written arranged → PlainPath (.word name :: written) (.word name :: arranged)
  | rooted {written arranged : List Lexeme} (joined : Bool) : PlainPath written arranged →
      PlainPath (.mark ':' true :: .mark ':' joined :: written)
        (.mark ':' true :: .mark ':' joined :: arranged)

/-- What follows the name of a segment. -/
inductive PlainSegments : List Lexeme → List Lexeme → Prop where
  | none : PlainSegments [] []
  | further {written arranged : List Lexeme} (joined : Bool) : PlainPath written arranged →
      PlainSegments (.mark ':' true :: .mark ':' joined :: written)
        (.mark ':' true :: .mark ':' joined :: arranged)
  | generic {front : List Lexeme} {members : AngleList} {written arranged : List Lexeme}
      (joined joined' : Bool) : PlainArguments front members → PlainSegments written arranged →
      PlainSegments (.mark '<' joined :: (front ++ .mark '>' joined' :: written))
        (.mark '<' joined :: (members.lifetimesFirst ++ .mark '>' joined' :: arranged))

/-- The arguments of a segment as they are written, and as members in the order they have there. -/
inductive PlainArguments : List Lexeme → AngleList → Prop where
  | none : PlainArguments [] []
  | lastLifetime (name : String) :
      PlainArguments [.lifetime name] [⟨true, [.lifetime name], false⟩]
  | lastType {written arranged : List Lexeme} : PlainType written arranged →
      PlainArguments written [⟨false, arranged, false⟩]
  | lifetime {written : List Lexeme} {members : AngleList} (name : String) (joined : Bool) :
      PlainArguments written members →
      PlainArguments (.lifetime name :: .mark ',' joined :: written)
        (⟨true, [.lifetime name], true⟩ :: members)
  | type {written arranged others : List Lexeme} {members : AngleList} (joined : Bool) :
      PlainType written arranged → PlainArguments others members →
      PlainArguments (written ++ .mark ',' joined :: others) (⟨false, arranged, true⟩ :: members)

/-- The types of a tuple. -/
inductive PlainTuple : List Lexeme → List Lexeme → Prop where
  | none : PlainTuple [] []
  | last {written arranged : List Lexeme} :
      PlainType written arranged → PlainTuple written arranged
  | member {written arranged others others' : List Lexeme} (joined : Bool) :
      PlainType written arranged → PlainTuple others others' →
      PlainTuple (written ++ .mark ',' joined :: others) (arranged ++ .mark ',' joined :: others')

end

/-- What may follow a type: nothing, or what ends the list that it stands in. -/
inductive EndsType : List Lexeme → Prop where
  | nothing : EndsType []
  | closing (bracket : Bracket) (rest : List Lexeme) : EndsType (.closing bracket :: rest)
  | comma (joined : Bool) (rest : List Lexeme) : EndsType (.mark ',' joined :: rest)
  | angle (joined : Bool) (rest : List Lexeme) : EndsType (.mark '>' joined :: rest)

/-- What a plain type may begin with. -/
inductive OpensType : Lexeme → Prop where
  | word {name : String} (opens : OpensPath name) : OpensType (.word name)
  | colon (joined : Bool) : OpensType (.mark ':' joined)
  | reference (joined : Bool) : OpensType (.mark '&' joined)
  | opening {bracket : Bracket} (notCurly : bracket ≠ .curly) : OpensType (.opening bracket)

variable {depth : Nat} {written arranged rest : List Lexeme} {members : AngleList}
  {first : Lexeme}

theorem PlainPath.opensType (plain : PlainPath written arranged) :
    ∃ first others, written = first :: others ∧ OpensType first := by
  cases plain with
  | name name opens => exact ⟨_, _, rfl, .word opens⟩
  | rooted => exact ⟨_, _, rfl, .colon true⟩

theorem PlainType.opensType (plain : PlainType written arranged) :
    ∃ first others, written = first :: others ∧ OpensType first := by
  cases plain with
  | path plain => exact plain.opensType
  | reference joined => exact ⟨_, _, rfl, .reference joined⟩
  | slice => exact ⟨_, _, rfl, .opening (by decide)⟩
  | tuple => exact ⟨_, _, rfl, .opening (by decide)⟩

theorem PlainArguments.opens (plain : PlainArguments written members) (joined : Bool)
    (rest : List Lexeme) :
    ∃ first others, written ++ .mark '>' joined :: rest = first :: others ∧
      ∀ joined', first ≠ .mark '=' joined' := by
  cases plain with
  | none => exact ⟨_, _, rfl, by simp⟩
  | lastLifetime => exact ⟨_, _, rfl, by simp⟩
  | lifetime => exact ⟨_, _, rfl, by simp⟩
  | lastType plain =>
      obtain ⟨first, others, rfl, opens⟩ := plain.opensType
      exact ⟨first, _, rfl, by rintro joined' rfl; cases opens⟩
  | type joined' plain =>
      obtain ⟨first, others, rfl, opens⟩ := plain.opensType
      exact ⟨first, _, rfl, by rintro joined' rfl; cases opens⟩

theorem PlainSegments.not_atFunctionTypes (plain : PlainSegments written arranged)
    (ends : EndsType rest) : atFunctionTypes (written ++ rest) = false := by
  cases plain with
  | none => cases ends <;> rfl
  | further joined plain => cases plain <;> rfl
  | generic => rfl

/-! ## Reading plain types -/

/--
The readers bring what is plain into canonical form.  Eight calls for each lexeme
are enough, as no more of them follow each other before a lexeme is taken.
-/
structure ReadsPlainAt (depth : Nat) : Prop where
  typeExpr {written arranged rest : List Lexeme} (plus : Bool) :
    PlainType written arranged → EndsType rest → 8 * written.length + 4 ≤ depth →
    typeExpr depth plus (written ++ rest) = some (arranged, rest)
  simpleType {written arranged rest : List Lexeme} (plus : Bool) :
    PlainType written arranged → EndsType rest → 8 * written.length + 3 ≤ depth →
    simpleType depth plus (written ++ rest) = some (arranged, rest)
  path {written arranged rest : List Lexeme} :
    PlainPath written arranged → EndsType rest → 8 * written.length + 2 ≤ depth →
    path depth (written ++ rest) = some (arranged, rest)
  segments {written arranged rest : List Lexeme} :
    PlainSegments written arranged → EndsType rest → 8 * written.length + 8 ≤ depth →
    segments depth (written ++ rest) = some (arranged, rest)
  genericSegment {front written arranged rest : List Lexeme} {members : AngleList}
    (joined joined' : Bool) : PlainArguments front members → PlainSegments written arranged →
    EndsType rest → 8 * (front.length + written.length) + 20 ≤ depth →
    genericSegment depth (.mark '<' joined :: (front ++ .mark '>' joined' :: (written ++ rest))) =
      some (.mark '<' joined :: (members.lifetimesFirst ++ .mark '>' joined' :: arranged), rest)
  argumentList {written : List Lexeme} {members : AngleList} (joined : Bool)
    (rest : List Lexeme) : PlainArguments written members → 8 * written.length + 8 ≤ depth →
    argumentList depth (written ++ .mark '>' joined :: rest) =
      some (members, .mark '>' joined :: rest)
  argument {written arranged rest : List Lexeme} :
    PlainType written arranged → EndsType rest → 8 * written.length + 5 ≤ depth →
    argument depth (written ++ rest) = some (arranged, rest)
  furtherTypes {written arranged : List Lexeme} (joined : Bool) (bracket : Bracket)
    (rest : List Lexeme) : PlainTuple written arranged → 8 * written.length + 9 ≤ depth →
    typeList depth (.mark ',' joined :: (written ++ .closing bracket :: rest)) =
      some (.mark ',' joined :: arranged, .closing bracket :: rest)
  typeList {written arranged : List Lexeme} (bracket : Bracket) (rest : List Lexeme) :
    PlainTuple written arranged → 8 * written.length + 8 ≤ depth →
    typeList depth (written ++ .closing bracket :: rest) =
      some (arranged, .closing bracket :: rest)

theorem typeExpr_plain (ih : ReadsPlainAt depth) (plus : Bool)
    (plain : PlainType written arranged) (ends : EndsType rest)
    (enough : 8 * written.length + 4 ≤ depth + 1) :
    typeExpr (depth + 1) plus (written ++ rest) = some (arranged, rest) := by
  rw [typeExpr, bind_apply, ih.simpleType plus plain ends (by omega), Option.bind_some,
    get_bind_apply]
  cases ends <;> rfl

/-! ### A type up to the plus sign -/

-- A name that may open a path is none of the words that the reader tells apart, but a match on
-- a name that is not known does not reduce: the cases of the match are gone through instead.

theorem simpleType_word {name : String} (opens : OpensPath name) (plus : Bool) :
    simpleType (depth + 1) plus (.word name :: rest) = path depth (.word name :: rest) := by
  generalize whole : Lexeme.word name :: rest = input
  rw [simpleType, get_bind_apply]
  split
  all_goals first
    | rfl
    | (cases whole <;> exact absurd opens (by decide))

/-- What a reference points to, behind its marks. -/
def pointee (depth count : Nat) : LexemeReader := do
  return (← take count) ++ (← simpleType depth false)

theorem simpleType_reference_word {name : String} (opens : OpensPath name) (plus joined : Bool) :
    simpleType (depth + 1) plus (.mark '&' joined :: .word name :: rest) =
      pointee depth 1 (.mark '&' joined :: .word name :: rest) := by
  generalize whole : Lexeme.mark '&' joined :: .word name :: rest = input
  rw [simpleType, get_bind_apply]
  split
  all_goals first
    | (cases whole <;> first | rfl | exact absurd opens (by decide))
    | grind

theorem simpleType_reference_lifetime_word {name : String} (opens : OpensPath name)
    (plus joined : Bool) (lifetime : String) :
    simpleType (depth + 1) plus (.mark '&' joined :: .lifetime lifetime :: .word name :: rest) =
      pointee depth 2 (.mark '&' joined :: .lifetime lifetime :: .word name :: rest) := by
  generalize whole : Lexeme.mark '&' joined :: .lifetime lifetime :: .word name :: rest = input
  rw [simpleType, get_bind_apply]
  split
  all_goals first
    | (cases whole <;> first | rfl | exact absurd opens (by decide))
    | grind

theorem simpleType_reference (opens : OpensType first) (plus joined : Bool)
    (lifetime : Option String) (isMutable : Bool) :
    simpleType (depth + 1) plus (referenceMarks joined lifetime isMutable ++ first :: rest) =
      (simpleType depth false (first :: rest)).bind fun found =>
        some (referenceMarks joined lifetime isMutable ++ found.1, found.2) := by
  cases isMutable with
  | true => cases lifetime <;> rfl
  | false =>
      cases opens with
      | word opens =>
          cases lifetime with
          | none => exact simpleType_reference_word opens plus joined
          | some name => exact simpleType_reference_lifetime_word opens plus joined name
      | colon => cases lifetime <;> rfl
      | reference => cases lifetime <;> rfl
      | opening => cases lifetime <;> rfl

theorem simpleType_plain (ih : ReadsPlainAt depth) (plus : Bool)
    (plain : PlainType written arranged) (ends : EndsType rest)
    (enough : 8 * written.length + 3 ≤ depth + 1) :
    simpleType (depth + 1) plus (written ++ rest) = some (arranged, rest) := by
  cases plain with
  | path plain =>
      have read := ih.path plain ends (by omega)
      cases plain with
      | name name opens =>
          rw [← read]
          exact simpleType_word opens plus
      | rooted => exact read
  | @reference written arranged joined lifetime isMutable plain =>
      have shorter : written.length + 1 ≤
          (referenceMarks joined lifetime isMutable ++ written).length := by
        simp only [referenceMarks, List.length_append, List.length_cons]
        omega
      have read := ih.simpleType false plain ends (by omega)
      obtain ⟨first, others, rfl, opens⟩ := plain.opensType
      rw [List.append_assoc, List.cons_append, simpleType_reference opens, ← List.cons_append,
        read, Option.bind_some]
  | @slice written arranged plain =>
      have read := ih.typeExpr true plain (.closing .square rest) (by simp at enough; omega)
      rw [List.cons_append, List.append_assoc, List.singleton_append]
      change (typeExpr depth true (written ++ .closing .square :: rest)).bind _ = _
      rw [read]
      rfl
  | @tuple written arranged plain =>
      have read := ih.typeList .round rest plain (by simp at enough; omega)
      rw [List.cons_append, List.append_assoc, List.singleton_append]
      change (typeList depth (written ++ .closing .round :: rest)).bind _ = _
      rw [read]
      rfl

/-! ### Paths -/

theorem path_plain (ih : ReadsPlainAt depth) (plain : PlainPath written arranged)
    (ends : EndsType rest) (enough : 8 * written.length + 2 ≤ depth + 1) :
    path (depth + 1) (written ++ rest) = some (arranged, rest) := by
  cases plain with
  | @name written arranged name opens plain =>
      have read := ih.segments plain ends (by simp at enough; omega)
      change (segments depth (written ++ rest)).bind _ = _
      rw [read]
      rfl
  | @rooted written arranged joined plain =>
      have read := ih.path plain ends (by simp at enough; omega)
      change (path depth (written ++ rest)).bind _ = _
      rw [read]
      rfl

/-- An angle bracket opens arguments unless it is the first half of an operator. -/
theorem segments_angle (other : ∀ joined, first ≠ .mark '=' joined) (joined : Bool) :
    segments (depth + 1) (.mark '<' joined :: first :: rest) =
      genericSegment depth (.mark '<' joined :: first :: rest) := by
  generalize whole : Lexeme.mark '<' joined :: first :: rest = input
  have notFunction : atFunctionTypes input = false := by
    subst whole
    rfl
  rw [segments, get_bind_apply, notFunction, if_neg Bool.false_ne_true]
  split
  all_goals first
    | (cases whole <;> first | rfl | exact absurd rfl (other _))
    | grind

theorem segments_plain (ih : ReadsPlainAt depth) (plain : PlainSegments written arranged)
    (ends : EndsType rest) (enough : 8 * written.length + 8 ≤ depth + 1) :
    segments (depth + 1) (written ++ rest) = some (arranged, rest) := by
  cases plain with
  | none => cases ends <;> rfl
  | @further written arranged joined plain =>
      have read := ih.path plain ends (by simp at enough; omega)
      have step : segments (depth + 1) (.mark ':' true :: .mark ':' joined :: (written ++ rest)) =
          (path depth (written ++ rest)).bind fun found =>
            some (.mark ':' true :: .mark ':' joined :: found.1, found.2) := by
        cases plain <;> rfl
      rw [read] at step
      exact step
  | generic joined joined' plain others =>
      have read := ih.genericSegment joined joined' plain others ends (by simp at enough; omega)
      obtain ⟨first, more, whole, other⟩ := plain.opens joined' _
      rw [whole] at read
      rw [List.cons_append, List.append_assoc, List.cons_append, whole, segments_angle other, read]

theorem genericSegment_plain (ih : ReadsPlainAt depth) {front : List Lexeme}
    (joined joined' : Bool) (plain : PlainArguments front members)
    (others : PlainSegments written arranged) (ends : EndsType rest)
    (enough : 8 * (front.length + written.length) + 20 ≤ depth + 1) :
    genericSegment (depth + 1)
        (.mark '<' joined :: (front ++ .mark '>' joined' :: (written ++ rest))) =
      some (.mark '<' joined :: (members.lifetimesFirst ++ .mark '>' joined' :: arranged),
        rest) := by
  have read := ih.argumentList joined' (written ++ rest) plain (by omega)
  have read' := ih.segments others ends (by omega)
  change (argumentList depth (front ++ .mark '>' joined' :: (written ++ rest))).bind _ = _
  rw [read]
  change (if members.isEmpty && atFunctionTypes (written ++ rest) then functionTrait depth
    else segments depth >>= fun further => pure ([.mark '<' joined] ++ members.lifetimesFirst ++
      [.mark '>' joined'] ++ further) : LexemeReader) (written ++ rest) = _
  rw [others.not_atFunctionTypes ends, Bool.and_false, if_neg Bool.false_ne_true, bind_apply,
    read', Option.bind_some]
  exact congrArg (fun found => some (found, rest)) (by simp)

/-! ### Arguments -/

theorem argument_of_opensType {others : List Lexeme} (opens : OpensType first)
    (ends : EndsType rest)
    (read : typeExpr depth true (first :: others) = some (arranged, rest)) :
    argument (depth + 1) (first :: others) = some (arranged, rest) := by
  cases opens with
  | @opening bracket notCurly =>
      cases bracket with
      | curly => exact absurd rfl notCurly
      | round =>
          change (typeExpr depth true _).bind _ = _
          rw [read]
          cases ends <;> rfl
      | square =>
          change (typeExpr depth true _).bind _ = _
          rw [read]
          cases ends <;> rfl
  | _ =>
      change (typeExpr depth true _).bind _ = _
      rw [read]
      cases ends <;> rfl

theorem argument_plain (ih : ReadsPlainAt depth) (plain : PlainType written arranged)
    (ends : EndsType rest) (enough : 8 * written.length + 5 ≤ depth + 1) :
    argument (depth + 1) (written ++ rest) = some (arranged, rest) := by
  have read := ih.typeExpr true plain ends (by omega)
  obtain ⟨first, others, rfl, opens⟩ := plain.opensType
  exact argument_of_opensType opens ends read

/-- A type with a comma behind it is followed by further arguments. -/
theorem argumentList_comma {others : List Lexeme} {joined : Bool} (opens : OpensType first)
    (read : argument depth (first :: others) = some (arranged, .mark ',' joined :: rest)) :
    argumentList (depth + 1) (first :: others) =
      (argumentList depth rest).bind fun further =>
        some (⟨false, arranged, true⟩ :: further.1, further.2) := by
  cases opens <;>
    change (argument depth _).bind _ = _ <;>
    rw [read] <;>
    rfl

/-- A type with the closing angle bracket behind it is the last argument. -/
theorem argumentList_angle {others : List Lexeme} {joined : Bool} (opens : OpensType first)
    (read : argument depth (first :: others) = some (arranged, .mark '>' joined :: rest)) :
    argumentList (depth + 1) (first :: others) =
      some ([⟨false, arranged, false⟩], .mark '>' joined :: rest) := by
  cases opens <;>
    change (argument depth _).bind _ = _ <;>
    rw [read] <;>
    rfl

theorem argumentList_plain (ih : ReadsPlainAt depth) (joined : Bool) (rest : List Lexeme)
    (plain : PlainArguments written members) (enough : 8 * written.length + 8 ≤ depth + 1) :
    argumentList (depth + 1) (written ++ .mark '>' joined :: rest) =
      some (members, .mark '>' joined :: rest) := by
  cases plain with
  | none => rfl
  | lastLifetime => rfl
  | @lifetime written members name joined' plain =>
      have read := ih.argumentList joined rest plain (by simp at enough; omega)
      change (argumentList depth (written ++ .mark '>' joined :: rest)).bind _ = _
      rw [read]
      rfl
  | lastType plain =>
      have read := ih.argument plain (.angle joined rest) (by omega)
      obtain ⟨first, others, rfl, opens⟩ := plain.opensType
      exact argumentList_angle opens read
  | @type written arranged others members joined' plain plain' =>
      have read := ih.argument plain (.comma joined' (others ++ .mark '>' joined :: rest))
        (by simp at enough; omega)
      have read' := ih.argumentList joined rest plain' (by simp at enough; omega)
      obtain ⟨first, more, rfl, opens⟩ := plain.opensType
      rw [List.append_assoc, List.cons_append, List.cons_append,
        argumentList_comma opens (by simpa using read), read', Option.bind_some]

/-! ### Tuples -/

theorem typeList_of_opensType (opens : OpensType first) :
    typeList (depth + 1) (first :: rest) =
      (typeExpr depth true (first :: rest)).bind fun found =>
        (typeList depth found.2).bind fun further => some (found.1 ++ further.1, further.2) := by
  cases opens <;> rfl

theorem furtherTypes_plain (ih : ReadsPlainAt depth) (joined : Bool) (bracket : Bracket)
    (rest : List Lexeme) (plain : PlainTuple written arranged)
    (enough : 8 * written.length + 9 ≤ depth + 1) :
    typeList (depth + 1) (.mark ',' joined :: (written ++ .closing bracket :: rest)) =
      some (.mark ',' joined :: arranged, .closing bracket :: rest) := by
  have read := ih.typeList bracket rest plain (by omega)
  change (typeList depth (written ++ .closing bracket :: rest)).bind _ = _
  rw [read]
  rfl

theorem typeList_plain (ih : ReadsPlainAt depth) (bracket : Bracket) (rest : List Lexeme)
    (plain : PlainTuple written arranged) (enough : 8 * written.length + 8 ≤ depth + 1) :
    typeList (depth + 1) (written ++ .closing bracket :: rest) =
      some (arranged, .closing bracket :: rest) := by
  cases plain with
  | none => rfl
  | last plain =>
      obtain ⟨first, others, rfl, opens⟩ := plain.opensType
      have read := ih.typeExpr true plain (.closing bracket rest) (by omega)
      have read' := ih.typeList bracket rest .none (by simp at enough ⊢; omega)
      rw [List.nil_append] at read'
      rw [List.cons_append, typeList_of_opensType opens, ← List.cons_append, read,
        Option.bind_some, read', Option.bind_some, List.append_nil]
  | @member written arranged others others' joined plain plain' =>
      obtain ⟨first, more, rfl, opens⟩ := plain.opensType
      have read := ih.typeExpr true plain (.comma joined (others ++ .closing bracket :: rest))
        (by simp at enough ⊢; omega)
      have read' := ih.furtherTypes joined bracket rest plain'
        (by simp at enough; omega)
      rw [List.append_assoc, List.cons_append, List.cons_append, typeList_of_opensType opens,
        ← List.cons_append, read, Option.bind_some, read', Option.bind_some]

/-! ### All readers together -/

theorem ReadsPlainAt.zero : ReadsPlainAt 0 where
  typeExpr _ _ _ enough := absurd enough (by omega)
  simpleType _ _ _ enough := absurd enough (by omega)
  path _ _ enough := absurd enough (by omega)
  segments _ _ enough := absurd enough (by omega)
  genericSegment _ _ _ _ _ enough := absurd enough (by omega)
  argumentList _ _ _ enough := absurd enough (by omega)
  argument _ _ enough := absurd enough (by omega)
  furtherTypes _ _ _ _ enough := absurd enough (by omega)
  typeList _ _ _ enough := absurd enough (by omega)

theorem ReadsPlainAt.succ (ih : ReadsPlainAt depth) : ReadsPlainAt (depth + 1) where
  typeExpr := typeExpr_plain ih
  simpleType := simpleType_plain ih
  path := path_plain ih
  segments := segments_plain ih
  genericSegment := genericSegment_plain ih
  argumentList := argumentList_plain ih
  argument := argument_plain ih
  furtherTypes := furtherTypes_plain ih
  typeList := typeList_plain ih

theorem readsPlainAt : ∀ depth, ReadsPlainAt depth
  | 0 => .zero
  | depth + 1 => (readsPlainAt depth).succ

/-- The canonical form of a plain type is the one that the grammar gives it. -/
theorem PlainType.typeLexemes_eq (plain : PlainType written arranged) :
    typeLexemes written = arranged := by
  have read := (readsPlainAt (32 * (written.length + 1))).typeExpr true plain .nothing (by omega)
  rw [List.append_nil] at read
  rw [typeLexemes, StateT.run, read]

example :
    typeLexemes [.word "Cow", .mark '<' false, .word "T", .mark ',' false, .lifetime "'a",
        .mark '>' false] =
      [.word "Cow", .mark '<' false, .lifetime "'a", .mark ',' false, .word "T", .mark ',' false,
        .mark '>' false] := by
  rfl

/-- The canonical text of a plain type is that of its canonical form. -/
theorem PlainType.canonicalType_eq {source : Text} (read : ofText? source = some written)
    (plain : PlainType written arranged) :
    canonicalType source = (spelled arranged).filter fun c => ¬IsSpace c := by
  simp only [canonicalType, read, plain.typeLexemes_eq]

/-! ## Canonical forms are plain -/

/-- A plain member of a list between angle brackets that is in canonical form. -/
inductive PlainMember : AngleMember → Prop where
  | lifetime (name : String) (hasComma : Bool) : PlainMember ⟨true, [.lifetime name], hasComma⟩
  | type {found : List Lexeme} (hasComma : Bool) : PlainType found found →
      PlainMember ⟨false, found, hasComma⟩

theorem PlainMember.withComma : ∀ member, PlainMember member →
    PlainMember { member with hasComma := true }
  | _, .lifetime name _ => .lifetime name true
  | _, .type _ plain => .type true plain

theorem PlainArguments.isSeparated {written : List Lexeme} {members : AngleList} :
    PlainArguments written members → members.IsSeparated
  | .none => .nil
  | .lastLifetime _ => List.pairwise_singleton _ _
  | .lastType _ => List.pairwise_singleton _ _
  | .lifetime _ _ plain => List.pairwise_cons.mpr ⟨fun _ _ => rfl, plain.isSeparated⟩
  | .type _ _ plain => List.pairwise_cons.mpr ⟨fun _ _ => rfl, plain.isSeparated⟩

theorem PlainArguments.inOrder {members : AngleList} (separated : members.IsSeparated)
    (each : ∀ member ∈ members, PlainMember member) :
    PlainArguments members.inOrder members := by
  induction members with
  | nil => exact .none
  | cons member rest ih =>
      obtain ⟨comma, further⟩ := List.pairwise_cons.mp separated
      obtain ⟨plain, others⟩ := List.forall_mem_cons.mp each
      have behind : PlainArguments (AngleList.inOrder rest) rest := ih further others
      have last (without : member.hasComma = false) : rest = [] :=
        List.eq_nil_iff_forall_not_mem.mpr fun other found => by
          simpa [without] using comma other found
      cases plain with
      | lifetime name hasComma =>
          cases hasComma with
          | true => exact .lifetime name false behind
          | false =>
              obtain rfl := last rfl
              exact .lastLifetime name
      | type hasComma plain =>
          cases hasComma with
          | true =>
              have written := PlainArguments.type false plain behind
              rwa [← List.singleton_append, ← List.append_assoc] at written
          | false =>
              obtain rfl := last rfl
              simpa [AngleList.inOrder, AngleMember.written] using PlainArguments.lastType plain

theorem PlainArguments.lifetimesFirst (separated : members.IsSeparated)
    (each : ∀ member ∈ members, PlainMember member) :
    PlainArguments members.lifetimesFirst members.arranged := by
  rw [← AngleList.inOrder_arranged]
  exact .inOrder separated.arranged (AngleList.forall_mem_arranged PlainMember.withComma each)

mutual

/-- The canonical form of a plain type is a plain type, in canonical form already. -/
theorem PlainType.arranged {written arranged : List Lexeme} :
    PlainType written arranged → PlainType arranged arranged
  | .path plain => .path plain.arranged
  | .reference joined name isMutable plain => .reference joined name isMutable plain.arranged
  | .slice plain => .slice plain.arranged
  | .tuple plain => .tuple plain.arranged

theorem PlainPath.arranged {written arranged : List Lexeme} :
    PlainPath written arranged → PlainPath arranged arranged
  | .name name opens plain => .name name opens plain.arranged
  | .rooted joined plain => .rooted joined plain.arranged

theorem PlainSegments.arranged {written arranged : List Lexeme} :
    PlainSegments written arranged → PlainSegments arranged arranged
  | .none => .none
  | .further joined plain => .further joined plain.arranged
  | .generic joined joined' plain others => by
      have sorted := PlainSegments.generic joined joined'
        (.lifetimesFirst plain.isSeparated plain.arranged) others.arranged
      rwa [AngleList.lifetimesFirst_arranged, AngleList.inOrder_arranged] at sorted

theorem PlainArguments.arranged {written : List Lexeme} {members : AngleList} :
    PlainArguments written members → ∀ member ∈ members, PlainMember member
  | .none => by simp
  | .lastLifetime name => by simpa using PlainMember.lifetime name false
  | .lastType plain => by simpa using PlainMember.type false plain.arranged
  | .lifetime name _ plain => List.forall_mem_cons.mpr ⟨.lifetime name true, plain.arranged⟩
  | .type _ plain others =>
      List.forall_mem_cons.mpr ⟨.type true plain.arranged, others.arranged⟩

theorem PlainTuple.arranged {written arranged : List Lexeme} :
    PlainTuple written arranged → PlainTuple arranged arranged
  | .none => .none
  | .last plain => .last plain.arranged
  | .member joined plain others => .member joined plain.arranged others.arranged

end

/-- A plain type in canonical form is left as it is. -/
theorem PlainType.typeLexemes_typeLexemes (plain : PlainType written arranged) :
    typeLexemes (typeLexemes written) = typeLexemes written := by
  rw [plain.typeLexemes_eq, plain.arranged.typeLexemes_eq]

end Arrange

end SqlBuilder

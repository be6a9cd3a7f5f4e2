import SqlBuilder.Expr.Render
import SqlBuilder.Proofs.NumberText
import SqlBuilder.Value.Convert

/-!
# Reading values back

A reader for the literals of the dialect, from text to the value that stands at
its front and the text behind it.  It takes one token at a time and remembers
the arrays that are open, innermost first, with the elements that each holds so
far.

The main theorem is about values made of NULL, STRING, BYTES, INT64, BOOL and
arrays of these: the text of such a value is read as the value again, and the
reading stops right behind it, whatever text follows at a break.
-/

namespace SqlBuilder

/-! ## One token at a time -/

/-- The first token of a text and the text behind it.  Gaps in front are passed over. -/
def nextToken? : Text → Option (SqlToken × Text)
  | [] => none
  | first :: text =>
      match _found : readPiece? first text with
      | none => none
      | some (some token, after) => some (token, after)
      | some (none, after) => nextToken? after
termination_by text => text.length
decreasing_by
  have shorter := length_le_of_readPiece? _found
  simp only [List.length_cons]
  omega

theorem length_lt_of_nextToken? {text after : Text} {token : SqlToken}
    (read : nextToken? text = some (token, after)) : after.length < text.length := by
  fun_induction nextToken? text with
  | case1 => cases read
  | case2 => cases read
  | case3 first text token' after' found =>
      cases read
      have shorter := length_le_of_readPiece? found
      simp only [List.length_cons]
      omega
  | case4 first text after' found ih =>
      have shorter := length_le_of_readPiece? found
      have further := ih read
      simp only [List.length_cons]
      omega

theorem nextToken?_blank (text : Text) : nextToken? (' ' :: text) = nextToken? text := by
  rw [nextToken?]
  rfl

theorem Text.ReadsFirst.nextToken? {text rest : Text} {token : SqlToken}
    (reads : Text.ReadsFirst text token rest) :
    nextToken? (text ++ rest) = some (token, rest) := by
  rcases reads with ⟨first, others, rfl, read⟩
  rw [List.cons_append, SqlBuilder.nextToken?]
  split
  · rename_i none_read
    rw [read] at none_read
    cases none_read
  · rename_i found
    rw [read] at found
    cases found
    rfl
  · rename_i found
    rw [read] at found
    cases found

/-! ## Literals -/

/-- The INT64 that digits stand for behind a sign, if it is in range. -/
def int64? (negative : Bool) (digits : String) : Option Int64 :=
  let magnitude : Int := Nat.ofDigitChars 10 digits.toList 0
  let value := if negative then -magnitude else magnitude
  if Int64.minValue.toInt ≤ value ∧ value ≤ Int64.maxValue.toInt then
    some (.ofInt value)
  else
    none

/-- Where a reader of literals stands.  The arrays that are open come with their elements so far. -/
inductive LiteralState where
  /-- In front of a literal. -/
  | due (outer : List (List Datum))
  /-- Behind the sign of an integer. -/
  | signed (negative : Bool) (outer : List (List Datum))
  /-- Behind the word ARRAY. -/
  | array (outer : List (List Datum))
  /-- Behind the opening bracket of an array. -/
  | opened (outer : List (List Datum))
  /-- Behind a literal. -/
  | read (datum : Datum) (outer : List (List Datum))

namespace LiteralState

/-- The state behind the first token of a literal. -/
def start? (outer : List (List Datum)) : SqlToken → Option LiteralState
  | .word (.keyword word) =>
      if word = "NULL" then some (.read .null outer)
      else if word = "TRUE" then some (.read (.bool true) outer)
      else if word = "FALSE" then some (.read (.bool false) outer)
      else if word = "ARRAY" then some (.array outer)
      else none
  | .word (.string content) => some (.read (.string content) outer)
  | .word (.bytes content) => some (.read (.bytes content) outer)
  | .word (.integer digits) => (int64? false digits).map fun value => .read (.int64 value) outer
  | .word (.symbol sign) =>
      if sign = "-" then some (.signed true outer)
      else if sign = "+" then some (.signed false outer)
      else none
  | .opening .square => some (.opened outer)
  | _ => none

/-- The state behind the next token. -/
def step? : LiteralState → SqlToken → Option LiteralState
  | .due outer, token => start? outer token
  | .signed negative outer, .word (.integer digits) =>
      (int64? negative digits).map fun value => .read (.int64 value) outer
  | .array outer, .opening .square => some (.opened outer)
  | .opened outer, .closing .square => some (.read (.array []) outer)
  | .opened outer, token => start? ([] :: outer) token
  | .read datum (elements :: outer), .word (.symbol ",") =>
      some (.due ((elements ++ [datum]) :: outer))
  | .read datum (elements :: outer), .closing .square =>
      some (.read (.array (elements ++ [datum])) outer)
  | _, _ => none

end LiteralState

namespace Datum

/-- The value that is complete once the text has been read on from a state, and the text behind. -/
def readFrom? (state : LiteralState) (text : Text) : Option (Datum × Text) :=
  match state with
  | .read datum [] => some (datum, text)
  | state =>
      match _found : nextToken? text with
      | none => none
      | some (token, after) =>
          match state.step? token with
          | none => none
          | some next => readFrom? next after
termination_by text.length
decreasing_by exact length_lt_of_nextToken? _found

/-- The value whose literal a text opens with, and the text behind the literal. -/
def read? (text : Text) : Option (Datum × Text) :=
  readFrom? (.due []) text

variable {state next : LiteralState} {text rest : Text} {token : SqlToken}

/-- Where a literal is not complete, the next token is read. -/
theorem readFrom?_incomplete (incomplete : ∀ datum, state ≠ .read datum []) (text : Text) :
    readFrom? state text =
      (nextToken? text).bind fun read => (state.step? read.1).bind (readFrom? · read.2) := by
  rw [readFrom?.eq_2 _ _ incomplete]
  split
  · rename_i found
    rw [found]
    rfl
  · rename_i token after found
    rw [found, Option.bind_some]
    cases state.step? token <;> rfl

/-- A token takes one step. -/
theorem readFrom?_token (reads : Text.ReadsFirst text token rest)
    (stepped : state.step? token = some next) :
    readFrom? state (text ++ rest) = readFrom? next rest := by
  have incomplete : ∀ datum, state ≠ .read datum [] := by
    rintro datum rfl
    simp [LiteralState.step?] at stepped
  rw [readFrom?_incomplete incomplete, reads.nextToken?, Option.bind_some, stepped,
    Option.bind_some]

/-- A blank in front of the next token makes no difference. -/
theorem readFrom?_blank (incomplete : ∀ datum, state ≠ .read datum []) (text : Text) :
    readFrom? state (' ' :: text) = readFrom? state text := by
  rw [readFrom?_incomplete incomplete, readFrom?_incomplete incomplete, nextToken?_blank]

end Datum

/-! ## Reading one literal -/

/-- The value of digits that are written for an INT64. -/
theorem int64?_toDigits {negative : Bool} {number : Nat} {value : Int64}
    (same : value.toInt = if negative then -(number : Int) else number) :
    int64? negative (String.ofList (Nat.toDigits 10 number)) = some value := by
  have read : Nat.ofDigitChars 10 (Nat.toDigits 10 number) 0 = number :=
    Nat.ofDigitChars_toDigits (by decide) (by decide)
  have inRange : Int64.minValue.toInt ≤ value.toInt ∧ value.toInt ≤ Int64.maxValue.toInt :=
    ⟨value.minValue_le_toInt, value.toInt_le⟩
  rw [int64?, String.toList_ofList, read]
  simp only [← same]
  rw [if_pos inRange, Int64.ofInt_toInt]

/-- A state in which every token but a closing bracket is the first one of a literal. -/
def LiteralState.Awaits (state : LiteralState) (outer : List (List Datum)) : Prop :=
  ∀ token, token ≠ .closing .square → state.step? token = LiteralState.start? outer token

theorem LiteralState.awaits_due (outer : List (List Datum)) : (due outer).Awaits outer :=
  fun _ _ => rfl

theorem LiteralState.awaits_opened (outer : List (List Datum)) :
    (opened outer).Awaits ([] :: outer) := by
  intro token other
  cases token with
  | closing bracket => cases bracket <;> simp_all [step?]
  | _ => rfl

namespace Datum

/-- A value made of NULL, STRING, BYTES, INT64, BOOL and arrays of such values. -/
inductive IsLiteral : Datum → Prop where
  | null : IsLiteral .null
  | string (content : String) : IsLiteral (.string content)
  | bytes (content : List UInt8) : IsLiteral (.bytes content)
  | int64 (value : Int64) : IsLiteral (.int64 value)
  | bool (value : Bool) : IsLiteral (.bool value)
  | array {elements : List Datum} (each : ∀ element ∈ elements, IsLiteral element) :
      IsLiteral (.array elements)

/-- A text of which a value is read, wherever a literal is awaited and a text follows at a break. -/
def ReadOff (datum : Datum) (text : Text) : Prop :=
  ∀ (state : LiteralState) (outer : List (List Datum)) (rest : Text),
    state.Awaits outer → AtBreak rest →
      readFrom? state (text ++ rest) = readFrom? (.read datum outer) rest

namespace ReadOff

variable {datum : Datum} {text : Text} {token : SqlToken}

/-- A literal of one token. -/
theorem of_token (reads : ∀ rest, AtBreak rest → Text.ReadsFirst text token rest)
    (other : token ≠ .closing .square)
    (started : ∀ outer, LiteralState.start? outer token = some (.read datum outer)) :
    ReadOff datum text := by
  intro state outer rest awaits stop
  exact readFrom?_token (reads rest stop) ((awaits token other).trans (started outer))

theorem keyword (word : String) (written : word ∈ writtenKeywords)
    (started : ∀ outer,
      LiteralState.start? outer (.word (.keyword word)) = some (.read datum outer)) :
    ReadOff datum word.toList :=
  of_token (fun _ stop => readsFirst_keyword written stop.endsWord) (by simp) started

/-- A literal of digits alone. -/
theorem natural {number : Nat} {value : Int64} (same : value.toInt = number) :
    ReadOff (.int64 value) (Nat.toDigits 10 number) := by
  refine of_token (fun rest stop => readsFirst_digits Nat.toDigits_ne_nil
    (fun c member => isDigit_of_mem_toDigits member) stop) (by simp) fun outer => ?_
  rw [LiteralState.start?, int64?_toDigits (by simpa using same)]
  rfl

/-- A literal of digits behind a hyphen. -/
theorem negative {number : Nat} {value : Int64} (same : value.toInt = -(number : Int)) :
    ReadOff (.int64 value) ('-' :: Nat.toDigits 10 number) := by
  intro state outer rest awaits stop
  have digit (c : Char) (member : c ∈ Nat.toDigits 10 number) : c.isDigit = true :=
    isDigit_of_mem_toDigits member
  have digits := readsFirst_digits Nat.toDigits_ne_nil digit stop
  have sign : Text.ReadsFirst ['-'] (.word (.symbol "-")) (Nat.toDigits 10 number ++ rest) := by
    cases written : Nat.toDigits 10 number with
    | nil => exact absurd written Nat.toDigits_ne_nil
    | cons first others =>
        rw [written] at digit
        have follows := isAlphanum_of_isDigit (digit first (List.mem_cons_self ..))
        exact readsFirst_sign (Or.inl rfl) follows (others ++ rest)
  have signed : state.step? (.word (.symbol "-")) = some (.signed true outer) :=
    awaits _ (by simp)
  have number : LiteralState.step? (.signed true outer)
      (.word (.integer (String.ofList (Nat.toDigits 10 number)))) =
        some (.read (.int64 value) outer) := by
    rw [LiteralState.step?, int64?_toDigits (by simpa using same)]
    rfl
  calc readFrom? state ('-' :: Nat.toDigits 10 _ ++ rest)
      = readFrom? (.signed true outer) (Nat.toDigits 10 _ ++ rest) := readFrom?_token sign signed
    _ = readFrom? (.read (.int64 value) outer) rest := readFrom?_token digits number

theorem int64 (value : Int64) : ReadOff (.int64 value) (Expr.ofInt64 value).text := by
  show ReadOff (.int64 value) value.toInt.repr.toList
  rw [Int.repr_eq_if]
  by_cases sign : 0 ≤ value.toInt
  · have same : value.toInt = (value.toInt.toNat : Int) := by omega
    simpa [sign, Nat.toList_repr] using natural same
  · have same : value.toInt = -((-value.toInt).toNat : Int) := by omega
    simpa [sign, Nat.toList_repr] using negative same

section Array

variable {write : Datum → Text} {outer : List (List Datum)} {rest : Text}

/-- The elements of an array are read one after another, up to the closing bracket. -/
theorem elements {first : Datum} {others : List Datum}
    (each : ∀ element ∈ first :: others, ReadOff element (write element))
    {state : LiteralState} {done : List Datum} (awaits : state.Awaits (done :: outer)) :
    readFrom? state (Text.commaSeparated ((first :: others).map write) ++ ']' :: rest) =
      readFrom? (.read (.array (done ++ first :: others)) outer) rest := by
  induction others generalizing first state done with
  | nil =>
      have head := each first (List.mem_cons_self ..) state _ (']' :: rest) awaits (by simp)
      have closing : LiteralState.step? (.read first (done :: outer)) (.closing .square) =
          some (.read (.array (done ++ [first])) outer) := rfl
      rw [List.map_singleton, Text.commaSeparated_singleton, head]
      exact readFrom?_token (readsFirst_closing .square rest) closing
  | cons next others ih =>
      rw [List.forall_mem_cons] at each
      have tail := ih each.2 (LiteralState.awaits_due ((done ++ [first]) :: outer))
      generalize following : Text.commaSeparated ((next :: others).map write) ++ ']' :: rest =
        back at tail
      have head := each.1 state _ (',' :: ' ' :: back) awaits (by simp)
      have comma : LiteralState.step? (.read first (done :: outer)) (.word (.symbol ",")) =
          some (.due ((done ++ [first]) :: outer)) := rfl
      calc readFrom? state
            (Text.commaSeparated ((first :: next :: others).map write) ++ ']' :: rest)
          = readFrom? state (write first ++ ',' :: ' ' :: back) := by simp [← following]
        _ = readFrom? (.read first (done :: outer)) (',' :: ' ' :: back) := head
        _ = readFrom? (.due ((done ++ [first]) :: outer)) (' ' :: back) :=
            readFrom?_token (readsFirst_comma _) comma
        _ = readFrom? (.due ((done ++ [first]) :: outer)) back := readFrom?_blank (by simp) _
        _ = readFrom? (.read (.array (done ++ first :: next :: others)) outer) rest := by
            simpa using tail

theorem array {elements : List Datum}
    (each : ∀ element ∈ elements, ReadOff element (write element)) :
    ReadOff (.array elements)
      ("ARRAY[".toList ++ Text.commaSeparated (elements.map write) ++ [']']) := by
  intro state outer rest awaits stop
  have word : Text.ReadsFirst "ARRAY".toList (.word (.keyword "ARRAY"))
      ('[' :: (Text.commaSeparated (elements.map write) ++ ']' :: rest)) :=
    readsFirst_keyword (by decide) (by simp [EndsWord]; decide)
  have named : state.step? (.word (.keyword "ARRAY")) = some (.array outer) :=
    awaits _ (by simp)
  have bracket : LiteralState.step? (.array outer) (.opening .square) = some (.opened outer) :=
    rfl
  calc readFrom? state
        ("ARRAY[".toList ++ Text.commaSeparated (elements.map write) ++ [']'] ++ rest)
      = readFrom? state
          ("ARRAY".toList ++
            '[' :: (Text.commaSeparated (elements.map write) ++ ']' :: rest)) := by simp
    _ = readFrom? (.array outer)
          ('[' :: (Text.commaSeparated (elements.map write) ++ ']' :: rest)) :=
        readFrom?_token word named
    _ = readFrom? (.opened outer) (Text.commaSeparated (elements.map write) ++ ']' :: rest) :=
        readFrom?_token (readsFirst_opening .square _) bracket
    _ = readFrom? (.read (.array elements) outer) rest := by
        cases elements with
        | nil => exact readFrom?_token (readsFirst_closing .square rest) rfl
        | cons first others => exact ReadOff.elements each (LiteralState.awaits_opened outer)

end Array

end ReadOff

/-- Every value made of literals is read off its text. -/
theorem IsLiteral.readOff {datum : Datum} (literal : datum.IsLiteral) :
    ReadOff datum datum.toExpr.text := by
  induction literal with
  | null => exact .keyword "NULL" (by decide) fun _ => rfl
  | string content =>
      exact .of_token (fun _ stop => readsFirst_stringLiteral content stop.endsWord) (by simp)
        fun _ => rfl
  | bytes content =>
      exact .of_token (fun _ stop => readsFirst_bytesLiteral content stop.endsWord) (by simp)
        fun _ => rfl
  | int64 value => exact .int64 value
  | bool value =>
      cases value with
      | true => exact .keyword "TRUE" (by decide) fun _ => rfl
      | false => exact .keyword "FALSE" (by decide) fun _ => rfl
  | @array elements _ ih =>
      show ReadOff (.array elements)
        ("ARRAY[".toList ++ Text.commaSeparated (Expr.texts (toExprs elements)) ++ [']'])
      rw [toExprs_eq_map, Expr.texts_eq_map, List.map_map]
      exact .array ih

end Datum

/--
A value made of NULL, STRING, BYTES, INT64, BOOL and arrays of these has an
expression.  With any text at a break behind it, the text of the expression is
read as the very same value, and the reading stops at the text behind.
-/
theorem read?_text_append (datum : Datum) (literal : datum.IsLiteral)
    (rest : Text) (stop : AtBreak rest) :
    ∃ expr, (Value.dynamic datum).toExpr = .ok expr ∧
      Datum.read? (expr.text ++ rest) = some (datum, rest) := by
  refine ⟨datum.toExpr, ?_, ?_⟩
  · rw [Value.toExpr]
  · rw [Datum.read?, literal.readOff _ _ _ (LiteralState.awaits_due []) stop, Datum.readFrom?]

/-- A value whose strings and bytes hold quotes, brackets, commas and backslashes. -/
def hostileArray : Datum :=
  .array [.string "a\"], \\", .array [.int64 Int64.minValue, .null, .array []],
    .bytes [0, 34, 93, 255], .bool false]

theorem hostileArray_isLiteral : hostileArray.IsLiteral := by
  have inner : (Datum.array [.int64 Int64.minValue, .null, .array []]).IsLiteral := by
    refine .array ?_
    rw [List.forall_mem_cons, List.forall_mem_cons, List.forall_mem_singleton]
    exact ⟨.int64 _, .null, .array fun _ member => absurd member List.not_mem_nil⟩
  refine .array ?_
  rw [List.forall_mem_cons, List.forall_mem_cons, List.forall_mem_cons,
    List.forall_mem_singleton]
  exact ⟨.string _, inner, .bytes _, .bool _⟩

/-- The text behind a value need not be made of tokens. -/
theorem hostileArray_readBack :
    hostileArray.IsLiteral ∧ AtBreak ",\"".toList ∧
      ∃ expr, (Value.dynamic hostileArray).toExpr = .ok expr ∧
        Datum.read? (expr.text ++ ",\"".toList) = some (hostileArray, ",\"".toList) :=
  ⟨hostileArray_isLiteral, by simp,
    read?_text_append hostileArray hostileArray_isLiteral ",\"".toList (by simp)⟩

end SqlBuilder

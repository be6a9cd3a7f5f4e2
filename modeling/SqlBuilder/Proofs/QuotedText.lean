import SqlBuilder.Lexical.Quoted

/-!
# Reading quoted text

Quoted text is read in two passes.  The first looks for the closing quote and
takes no notice of a character behind a backslash.  The second replaces every
escape by what it stands for: a letter that names a character, or the code of a
character in hexadecimal or octal digits.

STRING literals and quoted names hold characters, BYTES literals hold bytes.
Both are read by the same machine, which walks over the text with one of three
states.  The statements say how a text is read piece by piece, where its closing
quote is found, and that codes written in hexadecimal digits are read as they stand.
-/

namespace SqlBuilder

/-! ## Escapes -/

/-- The value of a digit in a base of at most sixteen. -/
def digitValue? (base : Nat) (c : Char) : Option Nat :=
  (List.range base).find? fun value => value.digitChar = c.toLower

theorem digitValue?_digitChar :
    ∀ value < 16, digitValue? 16 value.digitChar = some value := by
  decide

/-- The number that hexadecimal digits stand for behind digits that stand for another. -/
def hexValueFrom? (value : Nat) : Text → Option Nat
  | [] => some value
  | c :: rest => (digitValue? 16 c).bind fun digit => hexValueFrom? (16 * value + digit) rest

/-- The character that a letter behind a backslash names. -/
def namedEscape? : Char → Option Char
  | 'a' => some '\x07'
  | 'b' => some '\x08'
  | 'f' => some '\x0c'
  | 'n' => some '\n'
  | 'r' => some '\r'
  | 't' => some '\t'
  | 'v' => some '\x0b'
  | '\\' => some '\\'
  | '?' => some '?'
  | '"' => some '"'
  | '\x27' => some '\x27'
  | '\x60' => some '\x60'
  | _ => none

/-- How the parts of quoted text are read: as characters, or as bytes. -/
structure QuotedForm (α : Type) where
  /-- What a character that stands for itself is read as. -/
  plain : Char → List α
  /-- What a numeric code is read as, if it is one. -/
  code? : Nat → Option α
  /-- Whether codes of four and eight digits may be used. -/
  longCodes : Bool

namespace QuotedForm

/-- Characters: those of STRING literals and of quoted names. -/
def characters : QuotedForm Char where
  plain := fun c => [c]
  code? := fun code => if code.isValidChar then some (Char.ofNat code) else none
  longCodes := true

/-- Bytes: a character outside ASCII stands for its encoding. -/
def bytes : QuotedForm UInt8 where
  plain := String.utf8EncodeChar
  code? := fun code => if code < 256 then some (UInt8.ofNat code) else none
  longCodes := false

end QuotedForm

/-- Where a reader of escapes stands. -/
inductive EscapeState where
  /-- Between two escapes. -/
  | plain
  /-- Behind a backslash. -/
  | escaped
  /-- Within a code: its base, the digits due and the value so far. -/
  | code (base due value : Nat)
deriving DecidableEq

namespace QuotedForm

variable {α : Type}

/-- The state behind the letter or digit that opens a numeric code. -/
def codeStart? (form : QuotedForm α) (c : Char) : Option EscapeState :=
  if c = 'x' ∨ c = 'X' then
    some (.code 16 2 0)
  else if form.longCodes ∧ c = 'u' then
    some (.code 16 4 0)
  else if form.longCodes ∧ c = 'U' then
    some (.code 16 8 0)
  else
    (digitValue? 4 c).map fun value => .code 8 2 value

/-- Reading one character: the next state, and what has been read. -/
def step (form : QuotedForm α) : EscapeState → Char → Option (EscapeState × List α)
  | .plain, c =>
      if c = '\\' then some (.escaped, []) else some (.plain, form.plain c)
  | .escaped, c =>
      match namedEscape? c with
      | some named => some (.plain, form.plain named)
      | none => (form.codeStart? c).map fun state => (state, [])
  | .code base due value, c => do
      let digit ← digitValue? base c
      if due ≤ 1 then
        let item ← form.code? (base * value + digit)
        return (.plain, [item])
      else
        return (.code base (due - 1) (base * value + digit), [])

/-- Reading a text: the state it ends in, and what has been read. -/
def run (form : QuotedForm α) (state : EscapeState) :
    Text → Option (EscapeState × List α)
  | [] => some (state, [])
  | c :: rest => do
      let (next, first) ← form.step state c
      let (final, others) ← form.run next rest
      return (final, first ++ others)

/-- What a text without its quotes holds, if its escapes are complete. -/
def content? (form : QuotedForm α) (body : Text) : Option (List α) :=
  match form.run .plain body with
  | some (.plain, items) => some items
  | _ => none

/-- A text that is read from one state into another leaves the rest to be read from there. -/
theorem run_append
    (form : QuotedForm α) {state middle : EscapeState}
    {front : Text} {items : List α}
    (reads : form.run state front = some (middle, items)) (back : Text) :
    form.run state (front ++ back) =
      (form.run middle back).map fun read => (read.1, items ++ read.2) := by
  induction front generalizing state items with
  | nil =>
      simp only [run, Option.some.injEq, Prod.mk.injEq] at reads
      rcases reads with ⟨rfl, rfl⟩
      simp
  | cons c rest ih =>
      simp only [run, List.cons_append] at reads ⊢
      cases stepped : form.step state c with
      | none => simp [stepped] at reads
      | some pair =>
          rcases pair with ⟨next, first⟩
          cases followed : form.run next rest with
          | none => simp [stepped, followed] at reads
          | some read =>
              rcases read with ⟨final, others⟩
              simp only [stepped, followed, Option.bind_eq_bind, Option.bind_some,
                Option.pure_def, Option.some.injEq, Prod.mk.injEq] at reads
              rcases reads with ⟨rfl, rfl⟩
              rw [Option.bind_eq_bind, Option.bind_some, ih followed]
              cases form.run final back <;> simp

end QuotedForm

/-! ## The closing quote -/

/-- The text up to the next closing quote on the same line, and the text behind it. -/
def Text.untilQuote? (quote : Char) : Text → Option (Text × Text)
  | [] => none
  | '\\' :: c :: rest =>
      (untilQuote? quote rest).map fun (body, after) => ('\\' :: c :: body, after)
  | c :: rest =>
      if c = quote then
        some ([], rest)
      else if c = '\n' ∨ c = '\r' then
        none
      else
        (untilQuote? quote rest).map fun (body, after) => (c :: body, after)

/-- The text up to the next three closing quotes in a row, and the text behind them. -/
def Text.untilTripleQuote? (quote : Char) : Text → Option (Text × Text)
  | [] => none
  | '\\' :: c :: rest =>
      (untilTripleQuote? quote rest).map fun (body, after) => ('\\' :: c :: body, after)
  | c :: rest =>
      if c = quote ∧ [quote, quote].isPrefixOf rest then
        some ([], rest.drop 2)
      else
        (untilTripleQuote? quote rest).map fun (body, after) => (c :: body, after)

/-- The text behind an opening quote, up to the quotes that close it. -/
def Text.quotedBody? (quote : Char) (text : Text) : Option (Text × Text) :=
  if [quote, quote].isPrefixOf text then
    Text.untilTripleQuote? quote (text.drop 2)
  else
    Text.untilQuote? quote text

/-- A piece of quoted text that does not hold its closing quote. -/
def Text.Inert (quote : Char) (piece : Text) : Prop :=
  ∀ rest, Text.untilQuote? quote (piece ++ rest) =
    (Text.untilQuote? quote rest).map fun (body, after) => (piece ++ body, after)

namespace Text

theorem untilQuote?_quote {quote : Char} (mark : quote ≠ '\\') (rest : Text) :
    untilQuote? quote (quote :: rest) = some ([], rest) := by
  rw [untilQuote?]
  · simp
  · intro c others equal
    simp [mark] at equal

namespace Inert

variable {quote : Char}

theorem nil : Inert quote [] := by
  intro rest
  simp

theorem append {front back : Text}
    (first : Inert quote front) (second : Inert quote back) :
    Inert quote (front ++ back) := by
  intro rest
  rw [List.append_assoc, first, second]
  simp [Function.comp_def]

theorem plain {c : Char}
    (differs : c ≠ quote) (noBackslash : c ≠ '\\')
    (sameLine : c ≠ '\n' ∧ c ≠ '\r') :
    Inert quote [c] := by
  intro rest
  rw [List.singleton_append, untilQuote?]
  · simp [differs, sameLine]
  · intro d others equal
    simp [noBackslash] at equal

theorem escaped (c : Char) : Inert quote ['\\', c] := by
  intro rest
  rfl

theorem flatMap {α : Type} {written : α → Text} {items : List α}
    (each : ∀ item ∈ items, Inert quote (written item)) :
    Inert quote (items.flatMap written) := by
  induction items with
  | nil => exact nil
  | cons item rest ih =>
      rw [List.flatMap_cons]
      exact (each item (List.mem_cons_self ..)).append
        (ih fun other member => each other (List.mem_cons_of_mem _ member))

end Inert

end Text

namespace Text

/-- A piece that does not hold its closing quote does not open with it. -/
theorem Inert.head?_ne {quote : Char} (mark : quote ≠ '\\')
    {piece : Text} (inert : Inert quote piece) :
    piece.head? ≠ some quote := by
  intro opens
  cases piece with
  | nil => simp at opens
  | cons c rest =>
      obtain rfl : c = quote := by simpa using opens
      have read := inert []
      rw [List.cons_append, untilQuote?_quote mark] at read
      cases found : untilQuote? c [] <;> simp [found] at read

/-- What stands between two quotes ends at the second, unless a third one follows. -/
theorem quotedBody?_of_inert {quote : Char} (mark : quote ≠ '\\')
    {body : Text} (inert : Inert quote body)
    {rest : Text} (ends : rest.head? ≠ some quote) :
    quotedBody? quote (body ++ quote :: rest) = some (body, rest) := by
  have single : ¬ [quote, quote].isPrefixOf (body ++ quote :: rest) = true := by
    intro triple
    cases body with
    | nil =>
        cases rest with
        | nil => simp at triple
        | cons next others => simp_all
    | cons c others =>
        have differs := inert.head?_ne mark
        simp_all
  rw [quotedBody?, if_neg single, inert, untilQuote?_quote mark]
  simp

end Text

/-! ## Written escapes -/

/-- Two hexadecimal digits are written for a byte, behind as many zeros as are asked for. -/
theorem hexadecimal_of_lt {width code : Nat} (wide : 2 ≤ width) (small : code < 256) :
    Text.hexadecimal width code =
      List.replicate (width - 2) '0' ++
        [(code / 16).digitChar, (code % 16).digitChar] := by
  by_cases single : code < 16
  · have high : code / 16 = 0 := by omega
    have low : code % 16 = code := by omega
    have zeros : width - 1 = width - 2 + 1 := by omega
    rw [Text.hexadecimal, Nat.toDigits_of_lt_base single, high, low]
    simp [List.leftpad, zeros, List.replicate_succ', Nat.digitChar]
  · rw [Text.hexadecimal, Nat.toDigits_of_base_le (by decide) (by omega),
      Nat.toDigits_of_lt_base (by omega)]
    simp [List.leftpad]

theorem length_hexadecimal {width code : Nat} (wide : 2 ≤ width) (small : code < 256) :
    (Text.hexadecimal width code).length = width := by
  rw [hexadecimal_of_lt wide small]
  simp only [List.length_append, List.length_replicate, List.length_cons, List.length_nil]
  omega

theorem hexValueFrom?_hexadecimal {width code : Nat} (wide : 2 ≤ width) (small : code < 256) :
    hexValueFrom? 0 (Text.hexadecimal width code) = some code := by
  have high := digitValue?_digitChar (code / 16) (by omega)
  have low := digitValue?_digitChar (code % 16) (by omega)
  have value : 16 * (code / 16) + code % 16 = code := by omega
  have zero : digitValue? 16 '0' = some 0 := by decide
  rw [hexadecimal_of_lt wide small]
  induction width - 2 with
  | zero => simp [hexValueFrom?, high, low, value]
  | succ _ ih => simpa [List.replicate_succ, hexValueFrom?, zero] using ih

/-- What holds of every digit holds of all that a code is written with. -/
theorem forall_mem_hexadecimal {condition : Char → Prop} {width code : Nat} (wide : 2 ≤ width)
    (small : code < 256) (each : ∀ value < 16, condition value.digitChar) :
    ∀ c ∈ Text.hexadecimal width code, condition c := by
  rw [hexadecimal_of_lt wide small, List.forall_mem_append]
  constructor
  · intro c member
    rw [List.eq_of_mem_replicate member]
    exact each 0 (by decide)
  · rw [List.forall_mem_cons, List.forall_mem_singleton]
    exact ⟨each _ (by omega), each _ (by omega)⟩

namespace QuotedForm

variable {α : Type}

/-- As many digits are read as are due, and no more. -/
theorem run_code (form : QuotedForm α) {value code : Nat} {digits : Text} {item : α}
    (present : digits ≠ []) (read : hexValueFrom? value digits = some code)
    (known : form.code? code = some item) :
    form.run (.code 16 digits.length value) digits = some (.plain, [item]) := by
  induction digits generalizing value with
  | nil => exact absurd rfl present
  | cons first rest ih =>
      obtain ⟨number, digit, others⟩ := Option.bind_eq_some_iff.mp read
      cases rest with
      | nil =>
          have whole : 16 * value + number = code := Option.some.inj others
          simp [run, step, digit, whole, known]
      | cons next more =>
          have due : ¬ (first :: next :: more).length ≤ 1 := by simp
          have left : (first :: next :: more).length - 1 = (next :: more).length := rfl
          rw [run, step, digit]
          simp only [Option.bind_eq_bind, Option.bind_some, if_neg due, left, Option.pure_def,
            ih (List.cons_ne_nil _ _) others, List.nil_append]

/-- A letter that asks for digits is read with the digits it asks for. -/
theorem run_opened_code (form : QuotedForm α) {letter : Char} {code : Nat} {digits : Text}
    {item : α}
    (opened : form.run .plain ['\\', letter] = some (.code 16 digits.length 0, []))
    (present : digits ≠ []) (read : hexValueFrom? 0 digits = some code)
    (known : form.code? code = some item) :
    form.run .plain ('\\' :: letter :: digits) = some (.plain, [item]) := by
  have followed := form.run_append opened digits
  rw [form.run_code present read known] at followed
  exact followed

theorem characters_code?_toNat (c : Char) : characters.code? c.toNat = some c := by
  have valid : c.toNat.isValidChar := c.valid
  simp [characters, valid]

theorem bytes_code?_toNat (byte : UInt8) : bytes.code? byte.toNat = some byte := by
  have small : byte.toNat < 256 := byte.toNat_lt
  simp [bytes, small]

end QuotedForm

/-- The quotes that are written: those of STRING literals and those of names. -/
def IsQuote (quote : Char) : Prop :=
  quote = doubleQuote ∨ quote = backtick

namespace IsQuote

variable {quote : Char}

theorem ne_backslash (mark : IsQuote quote) : quote ≠ '\\' := by
  rcases mark with rfl | rfl <;> decide

/-- A quote is no digit of a code, so a code never closes quoted text. -/
theorem inert_digit (mark : IsQuote quote) (value : Nat) :
    Text.Inert quote [value.digitChar] := by
  apply Text.Inert.plain
  · rcases mark with rfl | rfl <;> exact Nat.digitChar_ne _ (by decide)
  · exact Nat.digitChar_ne _ (by decide)
  · exact ⟨Nat.digitChar_ne _ (by decide), Nat.digitChar_ne _ (by decide)⟩

end IsQuote

/-! ## Characters and bytes -/

theorem IsControl.toNat_lt {c : Char} (control : IsControl c) : c.toNat < 256 := by
  unfold IsControl at control
  omega

theorem toNat_ofNat_byte (byte : UInt8) : (Char.ofNat byte.toNat).toNat = byte.toNat := by
  have small : byte.toNat < 256 := byte.toNat_lt
  have valid : byte.toNat.isValidChar := Or.inl (by omega)
  rw [Char.ofNat, dif_pos valid]
  rfl

theorem utf8EncodeChar_ofNat {byte : UInt8} (ascii : byte.toNat ≤ 0x7f) :
    String.utf8EncodeChar (Char.ofNat byte.toNat) = [byte] := by
  have code := toNat_ofNat_byte byte
  simp only [Char.toNat] at code
  simp [String.utf8EncodeChar, code, ascii]

end SqlBuilder

import SqlBuilder.Proofs.QuotedText

/-!
# What is spelled between two quotes

Between two quotes a character stands for itself unless it is the closing quote, a
backslash or the end of a line.  Behind a backslash a letter names a character, and
so does a code: two, four or eight hexadecimal digits behind a letter that says how
many there are, or three octal digits.  None of these has a closing mark.

The grammar is one for the text of STRING literals and quoted names and for that of
BYTES literals, which spells bytes.  The reader of escapes reads what is spelled, so
no text spells two things, and where a spelled text ends does not depend on what
stands behind the closing quote.
-/

namespace SqlBuilder

/-- The letters that stand behind a backslash, and the characters they name. -/
def namedCharacters : List (Char × Char) :=
  [('\\', '\\'), ('?', '?'), (doubleQuote, doubleQuote), ('\x27', '\x27'),
    (backtick, backtick), ('a', '\x07'), ('b', '\x08'), ('f', '\x0c'), ('n', '\n'),
    ('r', '\r'), ('t', '\t'), ('v', '\x0b')]

namespace QuotedForm

variable {α : Type}

/-! ## The grammar -/

/-- The letters that stand in front of a hexadecimal code, and how many digits follow. -/
def codeLetters (form : QuotedForm α) : List (Char × Nat) :=
  [('x', 2), ('X', 2)] ++ if form.longCodes then [('u', 4), ('U', 8)] else []

/-- A piece of text between two quotes spells the items it stands for. -/
inductive SpellsPiece (form : QuotedForm α) (quote : Char) : Text → List α → Prop where
  | itself (c : Char) (noQuote : c ≠ quote) (noBackslash : c ≠ '\\')
      (sameLine : c ≠ '\n' ∧ c ≠ '\r') : SpellsPiece form quote [c] (form.plain c)
  | letter {letter c : Char} (names : (letter, c) ∈ namedCharacters) :
      SpellsPiece form quote ['\\', letter] (form.plain c)
  | code {letter : Char} {digits : Text} {code : Nat} {item : α}
      (opens : (letter, digits.length) ∈ form.codeLetters)
      (value : hexValueFrom? 0 digits = some code) (known : form.code? code = some item) :
      SpellsPiece form quote ('\\' :: letter :: digits) [item]
  | octal {high middle low : Nat} {item : α} (highDigit : high < 4) (middleDigit : middle < 8)
      (lowDigit : low < 8) (known : form.code? (8 * (8 * high + middle) + low) = some item) :
      SpellsPiece form quote
        ['\\', high.digitChar, middle.digitChar, low.digitChar] [item]

/-- A text between two quotes spells items, piece by piece. -/
inductive Spells (form : QuotedForm α) (quote : Char) : Text → List α → Prop where
  | nil : Spells form quote [] []
  | cons {piece body : Text} {front back : List α} (first : form.SpellsPiece quote piece front)
      (others : Spells form quote body back) : Spells form quote (piece ++ body) (front ++ back)

/-! ## What is spelled is read -/

section Read

variable {form : QuotedForm α} {quote : Char} {piece body inner after behind : Text}
variable {items others : List α}

/-- A letter in front of a code asks for at least one digit. -/
theorem run_codeLetter {letter : Char} {width : Nat} (opens : (letter, width) ∈ form.codeLetters) :
    form.run .plain ['\\', letter] = some (.code 16 width 0, []) ∧ width ≠ 0 := by
  rcases List.mem_append.mp opens with short | long
  · simp only [List.mem_cons, Prod.mk.injEq, List.not_mem_nil, or_false] at short
    rcases short with ⟨rfl, rfl⟩ | ⟨rfl, rfl⟩ <;> exact ⟨rfl, by decide⟩
  · split at long
    · rename_i allowed
      simp only [List.mem_cons, Prod.mk.injEq, List.not_mem_nil, or_false] at long
      rcases long with ⟨rfl, rfl⟩ | ⟨rfl, rfl⟩ <;>
        simp [QuotedForm.run, step, namedEscape?, codeStart?, allowed]
    · exact absurd long List.not_mem_nil

/-- The digits of a code hold no quote. -/
theorem inert_of_hexValueFrom? (mark : IsQuote quote) {digits : Text} {value code : Nat}
    (read : hexValueFrom? value digits = some code) : Text.Inert quote digits := by
  induction digits generalizing value with
  | nil => exact .nil
  | cons digit rest ih =>
      obtain ⟨number, known, others⟩ := Option.bind_eq_some_iff.mp read
      have differs (other : Char) (none : digitValue? 16 other = none) : digit ≠ other := by
        rintro rfl
        rw [known] at none
        cases none
      have noQuote : digitValue? 16 quote = none := by
        rcases mark with rfl | rfl <;> rfl
      exact (Text.Inert.plain (differs _ noQuote) (differs _ rfl)
        ⟨differs _ rfl, differs _ rfl⟩).append (ih others)

theorem SpellsPiece.run (spells : form.SpellsPiece quote piece items) :
    form.run .plain piece = some (.plain, items) := by
  cases spells with
  | itself _ _ noBackslash => simp [QuotedForm.run, step, noBackslash]
  | letter names =>
      have known : ∀ pair ∈ namedCharacters, namedEscape? pair.1 = some pair.2 := by decide
      simp [QuotedForm.run, step, known _ names]
  | @code _ digits _ _ opens value known =>
      obtain ⟨opened, some⟩ := run_codeLetter opens
      exact form.run_opened_code opened (List.ne_nil_of_length_pos (Nat.pos_of_ne_zero some))
        value known
  | @octal high middle low _ highDigit middleDigit lowDigit known =>
      have opened : ∀ high < 4, namedEscape? high.digitChar = none ∧
          high.digitChar ∉ ['x', 'X', 'u', 'U'] ∧
          digitValue? 4 high.digitChar = some high := by decide
      have digit : ∀ value < 8, digitValue? 8 value.digitChar = some value := by decide
      obtain ⟨unnamed, noLetter, first⟩ := opened high highDigit
      simp only [List.mem_cons, List.not_mem_nil, or_false, not_or] at noLetter
      simp [QuotedForm.run, step, codeStart?, unnamed, noLetter, first,
        digit middle middleDigit, digit low lowDigit, known]

theorem SpellsPiece.inert (mark : IsQuote quote) (spells : form.SpellsPiece quote piece items) :
    Text.Inert quote piece := by
  cases spells with
  | itself _ noQuote noBackslash sameLine => exact .plain noQuote noBackslash sameLine
  | letter => exact .escaped _
  | @code letter _ _ _ _ value =>
      exact (Text.Inert.escaped letter).append (inert_of_hexValueFrom? mark value)
  | @octal high middle low _ _ _ _ _ =>
      exact (Text.Inert.escaped _).append
        ((mark.inert_digit middle).append (mark.inert_digit low))

theorem Spells.run (spells : form.Spells quote body items) :
    form.run .plain body = some (.plain, items) := by
  induction spells with
  | nil => rfl
  | cons first _ ih =>
      rw [form.run_append first.run, ih]
      rfl

theorem Spells.content?_eq (spells : form.Spells quote body items) :
    form.content? body = some items := by
  rw [content?, spells.run]

theorem Spells.inert (mark : IsQuote quote) (spells : form.Spells quote body items) :
    Text.Inert quote body := by
  induction spells with
  | nil => exact .nil
  | cons first _ ih => exact (first.inert mark).append ih

/-- What stands in front of a closing quote spells one thing, and the quote has one place. -/
theorem Spells.unique (mark : IsQuote quote) (spells : form.Spells quote body items)
    (again : form.Spells quote inner others)
    (same : body ++ quote :: after = inner ++ quote :: behind) :
    others = items ∧ behind = after := by
  have upTo {body : Text} (after : Text) (inert : Text.Inert quote body) :
      Text.untilQuote? quote (body ++ quote :: after) = some (body, after) := by
    rw [inert, Text.untilQuote?_quote mark.ne_backslash]
    simp
  have read := upTo after (spells.inert mark)
  rw [same, upTo behind (again.inert mark)] at read
  cases read
  have content := spells.run
  rw [again.run] at content
  cases content
  exact ⟨rfl, rfl⟩

/-- Where each item is spelled by a piece of its own, the pieces in a row spell the items. -/
theorem Spells.flatMap {written : α → Text}
    (each : ∀ item ∈ items, form.SpellsPiece quote (written item) [item]) :
    form.Spells quote (items.flatMap written) items := by
  induction items with
  | nil => exact .nil
  | cons item rest ih =>
      rw [List.forall_mem_cons] at each
      exact .cons each.1 (ih each.2)

end Read

/-- The code of an item is written in hexadecimal digits, with zeros in front. -/
theorem SpellsPiece.hexadecimal {form : QuotedForm α} {quote letter : Char} {width code : Nat}
    {item : α} (opens : (letter, width) ∈ form.codeLetters) (wide : 2 ≤ width)
    (small : code < 256) (known : form.code? code = some item) :
    form.SpellsPiece quote ('\\' :: letter :: Text.hexadecimal width code) [item] := by
  refine .code ?_ (hexValueFrom?_hexadecimal wide small) known
  rwa [length_hexadecimal wide small]

end QuotedForm

/-! ## What is written spells what it is written for -/

/-- A letter that is written for a character is among those that name it. -/
theorem mem_namedCharacters_of_shortEscape? {c letter : Char}
    (written : shortEscape? c = some letter) : (letter, c) ∈ namedCharacters := by
  unfold shortEscape? at written
  split at written <;> cases written <;> decide

theorem spellsPiece_escape {quote : Char} (mark : IsQuote quote) (c : Char) :
    QuotedForm.characters.SpellsPiece quote (escape quote c) [c] := by
  have named {letter : Char} (names : (letter, c) ∈ namedCharacters) :
      QuotedForm.characters.SpellsPiece quote ['\\', letter] [c] := .letter names
  by_cases special : c = quote ∨ c = '\\'
  · have names : (c, c) ∈ namedCharacters := by
      rcases special with rfl | rfl
      · rcases mark with rfl | rfl <;> decide
      · decide
    rw [escape, if_pos special]
    exact named names
  by_cases control : IsControl c
  · rw [escape, if_neg special, if_pos control, controlEscape]
    cases short : shortEscape? c with
    | some letter => exact named (mem_namedCharacters_of_shortEscape? short)
    | none =>
        have known := QuotedForm.characters_code?_toNat c
        show QuotedForm.characters.SpellsPiece quote (codeEscape c) [c]
        rw [codeEscape]
        split
        · exact .hexadecimal (by decide) (Nat.le_refl 2) control.toNat_lt known
        · exact .hexadecimal (by decide) (by decide) control.toNat_lt known
  · rw [escape, if_neg special, if_neg control]
    refine .itself c (fun equal => special (.inl equal)) (fun equal => special (.inr equal)) ?_
    constructor <;>
    · rintro rfl
      exact control (by decide)

theorem spellsPiece_escapeByte (byte : UInt8) :
    QuotedForm.bytes.SpellsPiece doubleQuote (escapeByte byte) [byte] := by
  have code := toNat_ofNat_byte byte
  generalize coded : Char.ofNat byte.toNat = c at code
  have plain (ascii : byte.toNat ≤ 0x7f) : QuotedForm.bytes.plain c = [byte] := by
    rw [← coded]
    exact utf8EncodeChar_ofNat ascii
  have named {letter : Char} (names : (letter, c) ∈ namedCharacters) :
      QuotedForm.bytes.SpellsPiece doubleQuote ['\\', letter] [byte] := by
    have ascii : ∀ pair ∈ namedCharacters, pair.2.toNat ≤ 0x7f := by decide
    rw [← plain (code ▸ ascii _ names)]
    exact .letter names
  by_cases special : c = doubleQuote ∨ c = '\\'
  · rw [escapeByte, coded, if_pos special]
    rcases special with rfl | rfl <;> exact named (by decide)
  by_cases printable : 0x20 ≤ byte.toNat ∧ byte.toNat ≤ 0x7e
  · have visible (other : Char) (below : other.toNat < 0x20) : c ≠ other := by
      rintro rfl
      omega
    rw [escapeByte, coded, if_neg special, if_pos printable, ← plain (by omega)]
    exact .itself c (fun equal => special (.inl equal)) (fun equal => special (.inr equal))
      ⟨visible _ (by decide), visible _ (by decide)⟩
  · rw [escapeByte, coded, if_neg special, if_neg printable]
    cases short : shortEscape? c with
    | some letter => exact named (mem_namedCharacters_of_shortEscape? short)
    | none =>
        exact .hexadecimal (by decide) (Nat.le_refl 2) byte.toNat_lt
          (QuotedForm.bytes_code?_toNat byte)

/-- The text of quoted characters spells them. -/
theorem spells_escaped {quote : Char} (mark : IsQuote quote) (content : Text) :
    QuotedForm.characters.Spells quote (content.flatMap (escape quote)) content :=
  .flatMap fun c _ => spellsPiece_escape mark c

/-- The text of quoted bytes spells them. -/
theorem spells_escapedBytes (content : List UInt8) :
    QuotedForm.bytes.Spells doubleQuote (content.flatMap escapeByte) content :=
  .flatMap fun byte _ => spellsPiece_escapeByte byte

end SqlBuilder

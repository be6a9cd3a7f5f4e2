import SqlBuilder.Proofs.LiteralReader

/-!
# How bytes are spelled

A BYTES literal is a letter `B` in either case and a text between double quotes.
The text spells bytes: a character stands for the bytes of its encoding, a letter
behind a backslash for the byte of the character it names, and a code of two
hexadecimal or three octal digits for the byte of that number.

The main statement is that the literal of a list of bytes spells these bytes and no
others, whatever stands behind it, unless it is one more double quote.  The literal
is printable ASCII although the bytes need not be the encoding of any text.
-/

namespace SqlBuilder

/--
A text opens with a BYTES literal between double quotes, which spells `content`, and
goes on with `after`.  Three double quotes do not open such a literal.
-/
def Text.OpensWithBytes (text : Text) (content : List UInt8) (after : Text) : Prop :=
  ∃ letter body, letter ∈ ['B', 'b'] ∧
    text = letter :: doubleQuote :: body ++ doubleQuote :: after ∧
    QuotedForm.bytes.Spells doubleQuote body content ∧
    (body = [] → after.head? ≠ some doubleQuote)

/-- What a text opens with is one list of bytes, and its literal ends at one place. -/
theorem Text.OpensWithBytes.unique {text after behind : Text} {content other : List UInt8}
    (opens : text.OpensWithBytes content after) (again : text.OpensWithBytes other behind) :
    other = content ∧ behind = after := by
  obtain ⟨letter, body, -, rfl, spells, -⟩ := opens
  obtain ⟨letterToo, inner, -, same, spellsToo, -⟩ := again
  have rest : body ++ doubleQuote :: after = inner ++ doubleQuote :: behind := by
    simpa using (List.cons.inj same).2
  exact spells.unique (.inl rfl) spellsToo rest

/-- The characters of ASCII that are seen, and the blank. -/
def IsPrintable (c : Char) : Prop :=
  0x20 ≤ c.toNat ∧ c.toNat ≤ 0x7e

instance IsPrintable.decidable (c : Char) : Decidable (IsPrintable c) :=
  inferInstanceAs (Decidable (_ ∧ _))

theorem isPrintable_of_mem_escapeByte (byte : UInt8) :
    ∀ c ∈ escapeByte byte, IsPrintable c := by
  have behind {letter : Char} {rest : Text} (visible : IsPrintable letter)
      (others : ∀ c ∈ rest, IsPrintable c) : ∀ c ∈ '\\' :: letter :: rest, IsPrintable c :=
    List.forall_mem_cons.mpr ⟨by decide, List.forall_mem_cons.mpr ⟨visible, others⟩⟩
  have none : ∀ c ∈ ([] : Text), IsPrintable c := fun _ member => absurd member List.not_mem_nil
  have code := toNat_ofNat_byte byte
  generalize coded : Char.ofNat byte.toNat = c at code
  by_cases special : c = doubleQuote ∨ c = '\\'
  · rw [escapeByte, coded, if_pos special]
    rcases special with rfl | rfl <;> exact behind (by decide) none
  by_cases printable : 0x20 ≤ byte.toNat ∧ byte.toNat ≤ 0x7e
  · rw [escapeByte, coded, if_neg special, if_pos printable]
    rw [List.forall_mem_singleton, IsPrintable, code]
    exact printable
  · rw [escapeByte, coded, if_neg special, if_neg printable]
    cases short : shortEscape? c with
    | some letter =>
        have visible : ∀ pair ∈ namedCharacters, IsPrintable pair.1 := by decide
        exact behind (visible _ (mem_namedCharacters_of_shortEscape? short)) none
    | none =>
        exact behind (by decide)
          (forall_mem_hexadecimal (Nat.le_refl 2) byte.toNat_lt (by decide))

/--
With any text behind it that does not open with a double quote, a BYTES literal is
read as the very bytes it was written for, and the reading stops at the text behind:
so the rules of spelling have it, and so does the reader of tokens.  Whatever the
bytes are, every character of the literal is printable ASCII.
-/
theorem bytesLiteral_readExactly (content : List UInt8) (rest : Text)
    (noQuote : rest.head? ≠ some doubleQuote) :
    (∀ inside after,
        (bytesLiteral content ++ rest).OpensWithBytes inside after ↔
          inside = content ∧ after = rest) ∧
      nextToken? (bytesLiteral content ++ rest) = some (.word (.bytes content), rest) ∧
      ∀ c ∈ bytesLiteral content, 0x20 ≤ c.toNat ∧ c.toNat ≤ 0x7e := by
  have opens : (bytesLiteral content ++ rest).OpensWithBytes content rest := by
    refine ⟨'B', _, by decide, ?_, spells_escapedBytes content, fun _ => noQuote⟩
    simp [bytesLiteral]
  refine ⟨?_, ?_, ?_⟩
  · intro inside after
    constructor
    · exact opens.unique
    · rintro ⟨rfl, rfl⟩
      exact opens
  · exact (readsFirst_bytesLiteral_of_head?_ne content noQuote).nextToken?
  · show ∀ c ∈ bytesLiteral content, IsPrintable c
    rw [bytesLiteral, List.forall_mem_append, List.forall_mem_cons, List.forall_mem_cons,
      List.forall_mem_singleton, List.forall_mem_flatMap]
    exact ⟨⟨by decide, by decide, fun byte _ => isPrintable_of_mem_escapeByte byte⟩, by decide⟩

/-- Quote, backslash, codes with digits behind them, and bytes that encode no text. -/
def hostileBytes : List UInt8 :=
  [34, 92, 120, 52, 49, 0, 48, 97, 10, 127, 128, 255, 195]

/-- The text behind a literal may go on with letters, digits and quotes. -/
theorem hostileBytes_readExactly :
    "0a\"".toList.head? ≠ some doubleQuote ∧
      bytesLiteral hostileBytes =
        "B\"\\\"\\\\x41\\x000a\\n\\x7f\\x80\\xff\\xc3\"".toList ∧
      nextToken? (bytesLiteral hostileBytes ++ "0a\"".toList) =
        some (.word (.bytes hostileBytes), "0a\"".toList) ∧
      (bytesLiteral hostileBytes ++ "0a\"".toList).OpensWithBytes hostileBytes
        "0a\"".toList := by
  have noQuote : "0a\"".toList.head? ≠ some doubleQuote := by decide
  obtain ⟨spells, token, -⟩ := bytesLiteral_readExactly hostileBytes _ noQuote
  exact ⟨noQuote, by decide, token, (spells _ _).mpr ⟨rfl, rfl⟩⟩

end SqlBuilder

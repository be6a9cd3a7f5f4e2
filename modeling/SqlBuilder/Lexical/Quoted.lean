import SqlBuilder.Lexical.Keyword

/-!
# Quoted text

The written forms of a STRING literal, a BYTES literal and an identifier.

* A STRING stands between double quotes.  The quote and the backslash are
  written behind a backslash, control characters by a short escape where there
  is one and by their code otherwise, and every other character as itself.
* BYTES stand between double quotes behind the letter `B`.  Printable ASCII is
  written as itself, every other byte by a short escape or by two hexadecimal
  digits, so the text is ASCII whatever the bytes are.
* An identifier is bare when it is plain and not reserved.  Otherwise it stands
  between backticks, escaped as a STRING is.
-/

namespace SqlBuilder

/-- The quote of STRING and BYTES literals. -/
def doubleQuote : Char := '"'

/-- The quote of identifiers that cannot stand bare. -/
def backtick : Char := '\x60'

/-- Control characters: the two ranges of codes that Unicode sets aside for them. -/
def IsControl (c : Char) : Prop :=
  c.toNat < 0x20 ∨ 0x7f ≤ c.toNat ∧ c.toNat ≤ 0x9f

instance IsControl.decidable (c : Char) : Decidable (IsControl c) :=
  inferInstanceAs (Decidable (_ ∨ _))

/-- The letter that stands behind the backslash for a control character with a short escape. -/
def shortEscape? : Char → Option Char
  | '\x07' => some 'a'
  | '\x08' => some 'b'
  | '\x0c' => some 'f'
  | '\n' => some 'n'
  | '\r' => some 'r'
  | '\t' => some 't'
  | '\x0b' => some 'v'
  | _ => none

/-- A character written by its code: two hexadecimal digits within ASCII, four beyond. -/
def codeEscape (c : Char) : Text :=
  if c.toNat < 0x80 then
    '\\' :: 'x' :: Text.hexadecimal 2 c.toNat
  else
    '\\' :: 'u' :: Text.hexadecimal 4 c.toNat

/-- A control character: its short escape, or its code if it has none. -/
def controlEscape (c : Char) : Text :=
  match shortEscape? c with
  | some letter => ['\\', letter]
  | none => codeEscape c

/-- One character of quoted text whose closing character is `quote`. -/
def escape (quote c : Char) : Text :=
  if c = quote ∨ c = '\\' then
    ['\\', c]
  else if IsControl c then
    controlEscape c
  else
    [c]

/-- Text between two quotes, escaped. -/
def quoted (quote : Char) (content : Text) : Text :=
  quote :: content.flatMap (escape quote) ++ [quote]

/-- A STRING literal. -/
def stringLiteral (content : String) : Text :=
  quoted doubleQuote content.toList

/-- One byte of a BYTES literal. -/
def escapeByte (byte : UInt8) : Text :=
  let c := Char.ofNat byte.toNat
  if c = doubleQuote ∨ c = '\\' then
    ['\\', c]
  else if 0x20 ≤ byte.toNat ∧ byte.toNat ≤ 0x7e then
    [c]
  else
    match shortEscape? c with
    | some letter => ['\\', letter]
    | none => '\\' :: 'x' :: Text.hexadecimal 2 byte.toNat

/-- A BYTES literal. -/
def bytesLiteral (content : List UInt8) : Text :=
  'B' :: doubleQuote :: content.flatMap escapeByte ++ [doubleQuote]

/-- A character that may open a plain name: an ASCII letter or an underscore. -/
def IsNameStart (c : Char) : Prop :=
  c.isAlpha = true ∨ c = '_'

/-- A character that may follow in a plain name: an ASCII letter, a digit or an underscore. -/
def IsNameRest (c : Char) : Prop :=
  c.isAlphanum = true ∨ c = '_'

instance IsNameStart.decidable (c : Char) : Decidable (IsNameStart c) :=
  inferInstanceAs (Decidable (_ ∨ _))

instance IsNameRest.decidable (c : Char) : Decidable (IsNameRest c) :=
  inferInstanceAs (Decidable (_ ∨ _))

/-- Plain text opens with a name's first character and goes on with name characters. -/
def IsPlainText : Text → Prop
  | [] => False
  | first :: rest => IsNameStart first ∧ ∀ c ∈ rest, IsNameRest c

instance IsPlainText.decidable : (name : Text) → Decidable (IsPlainText name)
  | [] => inferInstanceAs (Decidable False)
  | first :: rest =>
      @instDecidableAnd (IsNameStart first) _ _ (List.decidableBAll IsNameRest rest)

/-- A plain name needs no quotes on account of its characters. -/
def IsPlain (name : String) : Prop :=
  IsPlainText name.toList

instance IsPlain.decidable (name : String) : Decidable (IsPlain name) :=
  inferInstanceAs (Decidable (IsPlainText name.toList))

/-- A bare name is plain and not reserved. -/
def IsBare (name : String) : Prop :=
  IsPlain name ∧ ¬ IsReserved name

instance IsBare.decidable (name : String) : Decidable (IsBare name) :=
  inferInstanceAs (Decidable (_ ∧ _))

/-- An identifier: as it is when it can stand bare, and between backticks otherwise. -/
def identifier (name : String) : Text :=
  if IsBare name then name.toList else quoted backtick name.toList

/-- A path of identifiers, each segment written on its own, with dots between them. -/
def path (segments : List String) : Text :=
  List.intercalate ['.'] (segments.map identifier)

end SqlBuilder

import SqlBuilder.Proofs.WordText

/-!
# The tokens of written numbers

A written number is a sign, if it has one, and a row of digits with an optional
fraction and exponent.  The sign is a symbol of its own, the rest is one number.
The floating-point values that are not finite are written as a name, behind a
sign for the two infinities.
-/

namespace SqlBuilder

/-- Text of an INT64 literal. -/
def IsIntegerText (digits : String) : Prop :=
  ∃ value : Int64, digits = value.toInt.repr

def IsFloatText (digits : String) : Prop :=
  ∃ (format : BinaryFormat) (value : BinaryFloat format), digits = String.ofList value.text

/-- Text of a FLOAT64 literal with a finite value. -/
def IsFiniteText (digits : String) : Prop :=
  ∃ (format : BinaryFormat) (value : BinaryFloat format),
    value.IsFinite ∧ digits = String.ofList value.text

theorem IsFiniteText.isFloatText {digits : String} (finite : IsFiniteText digits) :
    IsFloatText digits := by
  rcases finite with ⟨format, value, _, rfl⟩
  exact ⟨format, value, rfl⟩

/-- The words of a number: its sign as a symbol of its own, if it has one. -/
def signedWords (number : String → Word) : Text → List Word
  | '-' :: rest => [.symbol "-", number (String.ofList rest)]
  | '+' :: rest => [.symbol "+", number (String.ofList rest)]
  | text => [number (String.ofList text)]

theorem signedWords_of_isAlphanum (number : String → Word) {first : Char}
    (follows : first.isAlphanum = true) (text : Text) :
    signedWords number (first :: text) = [number (String.ofList (first :: text))] := by
  unfold signedWords
  split
  · simp_all
  · simp_all
  · rfl

/-- The words of an INT64 literal. -/
def integerWords (digits : String) : List Word :=
  signedWords .integer digits.toList

/-- The word of a FLOAT64 literal without its sign. -/
def floatWord (digits : String) : Word :=
  if digits = "NaN" ∨ digits = "Inf" then .name digits false else .float digits

def floatWords (digits : String) : List Word :=
  signedWords floatWord digits.toList

/-! ## Digits -/

theorem isDigit_of_mem_toDigits {c : Char} {number : Nat}
    (member : c ∈ Nat.toDigits 10 number) : c.isDigit = true :=
  Nat.isDigit_of_mem_toDigits (by decide) (by decide) member

theorem isDigit_of_mem_decimal {c : Char} {width number : Nat}
    (member : c ∈ Text.decimal width number) : c.isDigit = true := by
  rw [Text.decimal, List.leftpad, List.mem_append] at member
  rcases member with padding | digit
  · rw [List.eq_of_mem_replicate padding]
    rfl
  · exact isDigit_of_mem_toDigits digit

theorem decimal_ne_nil (width number : Nat) : Text.decimal width number ≠ [] := by
  simp [Text.decimal, List.leftpad, Nat.toDigits_ne_nil]

theorem mem_of_mem_trimZeros {c : Char} {digits : Text}
    (member : c ∈ Text.trimZeros digits) : c ∈ digits := by
  rw [Text.trimZeros, List.mem_reverse] at member
  exact List.mem_reverse.mp ((List.dropWhile_sublist _).mem member)

theorem isAlphanum_of_isDigit {c : Char} (digit : c.isDigit = true) : c.isAlphanum = true := by
  simp [Char.isAlphanum, digit]

/-- A digit opens no name. -/
theorem not_isNameStart_of_isDigit {c : Char} (digit : c.isDigit = true) : ¬ IsNameStart c := by
  rintro (letter | rfl)
  · have code : c.toNat ≤ 57 := (Char.isDigit_iff_toNat.mp digit).2
    rcases (Bool.or_eq_true _ _).mp letter with upper | lower
    · have above : 65 ≤ c.toNat := (of_decide_eq_true upper).1
      omega
    · have above : 97 ≤ c.toNat := of_decide_eq_true ((Bool.and_eq_true _ _).mp lower).1
      omega
  · simp at digit

theorem AtBreak.not_isDigit {rest : Text} (stop : AtBreak rest) :
    ∀ c ∈ rest.head?, c.isDigit = false := by
  intro c member
  have mark := stop c member
  simp only [List.mem_cons, List.not_mem_nil, or_false] at mark
  rcases mark with rfl | rfl | rfl | rfl <;> rfl

/-- A number does not run into a name at a break. -/
theorem AtBreak.followsInName_head? {rest : Text} (stop : AtBreak rest) :
    rest.head?.any followsInName = false := by
  cases rest with
  | nil => rfl
  | cons c others =>
      have ends := stop.endsWord
      simpa [followsInName] using (ends c rfl).1

theorem AtBreak.fractionPart {rest : Text} (stop : AtBreak rest) :
    fractionPart rest = ([], rest) := by
  cases rest with
  | nil => rfl
  | cons c others =>
      rw [AtBreak.cons] at stop
      simp only [List.mem_cons, List.not_mem_nil, or_false] at stop
      rcases stop with rfl | rfl | rfl | rfl <;> rfl

theorem AtBreak.exponentPart {rest : Text} (stop : AtBreak rest) :
    exponentPart rest = ([], rest) := by
  cases rest with
  | nil => rfl
  | cons c others =>
      rw [AtBreak.cons] at stop
      simp only [List.mem_cons, List.not_mem_nil, or_false] at stop
      rcases stop with rfl | rfl | rfl | rfl <;> simp [SqlBuilder.exponentPart]

/-- A digit, or a point with a digit behind it, opens a number. -/
def OpensNumber (first : Char) (text : Text) : Prop :=
  first.isDigit = true ∨ first = '.' ∧ text.head?.any Char.isDigit = true

theorem readPiece?_of_opensNumber {first : Char} {text after : Text} {word : Word}
    (opens : OpensNumber first text)
    (read : readNumber? (first :: text) = some (word, after)) :
    readPiece? first text = some (some (.word word), after) := by
  have noName : ¬ IsNameStart first := by
    rcases opens with digit | ⟨rfl, -⟩
    · exact not_isNameStart_of_isDigit digit
    · decide
  have mark : first.isDigit = true ∨ first = '.' ∧ text.head?.any Char.isDigit = true := opens
  simp [readPiece?, noName, mark, read]

theorem readsFirst_number {first : Char} (digit : first.isDigit = true) {text rest : Text}
    {word : Word} (read : readNumber? (first :: text ++ rest) = some (word, rest)) :
    Text.ReadsFirst (first :: text) (.word word) rest := by
  rw [List.cons_append] at read
  exact Text.ReadsFirst.of_readPiece? (readPiece?_of_opensNumber (.inl digit) read)

theorem readsAs_number {first : Char} (digit : first.isDigit = true) {text rest : Text}
    {word : Word} (read : readNumber? (first :: text ++ rest) = some (word, rest)) :
    Text.ReadsAs (first :: text) [.word word] rest :=
  (readsFirst_number digit read).readsAs

/-! ## Whole numbers -/

theorem readsFirst_digits {digits rest : Text} (present : digits ≠ [])
    (each : ∀ c ∈ digits, c.isDigit = true) (stop : AtBreak rest) :
    Text.ReadsFirst digits (.word (.integer (String.ofList digits))) rest := by
  cases digits with
  | nil => exact absurd rfl present
  | cons first others =>
      rcases takeWhile_append_of_stop each stop.not_isDigit with ⟨taken, dropped⟩
      apply readsFirst_number (each first (List.mem_cons_self ..))
      simp only [readNumber?, taken, dropped, stop.fractionPart, stop.exponentPart,
        stop.followsInName_head?, Bool.false_eq_true, if_false, and_self, if_true,
        List.append_nil]

theorem readsAs_digits {digits rest : Text} (present : digits ≠ [])
    (each : ∀ c ∈ digits, c.isDigit = true) (stop : AtBreak rest) :
    Text.ReadsAs digits [.word (.integer (String.ofList digits))] rest :=
  (readsFirst_digits present each stop).readsAs

/-- A sign in front of a number is a symbol of its own. -/
theorem readsAs_signed {sign first : Char} (signed : IsSign sign)
    (follows : first.isAlphanum = true) {text rest : Text} {word : Word}
    (reads : Text.ReadsAs (first :: text) [.word word] rest) :
    Text.ReadsAs (sign :: first :: text)
      [.word (.symbol (String.ofList [sign])), .word word] rest := by
  exact (readsAs_sign signed follows (text ++ rest)).append reads

/-- A number that stands for its words without a sign does so with a hyphen as well. -/
theorem readsAs_signedWords (number : String → Word) {first : Char}
    (follows : first.isAlphanum = true) {text rest : Text}
    (reads : Text.ReadsAs (first :: text)
      [.word (number (String.ofList (first :: text)))] rest) (negative : Bool) :
    Text.ReadsAs (signText negative ++ first :: text)
      ((signedWords number (signText negative ++ first :: text)).map .word) rest := by
  cases negative with
  | false =>
      rw [signText, if_neg Bool.false_ne_true, List.nil_append,
        signedWords_of_isAlphanum number follows]
      exact reads
  | true => exact readsAs_signed (Or.inl rfl) follows reads

theorem readsAs_integer {digits : String} (integer : IsIntegerText digits)
    {rest : Text} (stop : AtBreak rest) :
    Text.ReadsAs digits.toList ((integerWords digits).map .word) rest := by
  rcases integer with ⟨value, rfl⟩
  have signed (negative : Bool) (number : Nat) :
      Text.ReadsAs (signText negative ++ Nat.toDigits 10 number)
        ((signedWords .integer (signText negative ++ Nat.toDigits 10 number)).map .word)
        rest := by
    have digit (c : Char) (member : c ∈ Nat.toDigits 10 number) : c.isDigit = true :=
      isDigit_of_mem_toDigits member
    cases written : Nat.toDigits 10 number with
    | nil => exact absurd written Nat.toDigits_ne_nil
    | cons first others =>
        rw [written] at digit
        refine readsAs_signedWords _ ?_ (readsAs_digits (List.cons_ne_nil _ _) digit stop) _
        exact isAlphanum_of_isDigit (digit first (List.mem_cons_self ..))
  rw [Int.repr_eq_if, integerWords]
  by_cases natural : 0 ≤ value.toInt
  · simpa [natural, Nat.toList_repr, signText] using signed false value.toInt.toNat
  · simpa [natural, Nat.toList_repr, signText] using signed true (-value.toInt).toNat

/-! ## Floating-point numbers -/

/-- An exponent is cut off whole. -/
theorem exponentPart_exponentText (exponent : Int) {rest : Text} (stop : AtBreak rest) :
    exponentPart (exponentText exponent ++ rest) = (exponentText exponent, rest) := by
  have each : ∀ c ∈ Text.decimal 2 exponent.natAbs, c.isDigit = true :=
    fun c member => isDigit_of_mem_decimal member
  rcases takeWhile_append_of_stop each stop.not_isDigit with ⟨taken, dropped⟩
  have present := decimal_ne_nil 2 exponent.natAbs
  by_cases negative : exponent < 0 <;>
    simp [exponentText, negative, exponentPart, signPart, taken, dropped, present]

theorem fractionPart_fraction {digits : Text} (each : ∀ c ∈ digits, c.isDigit = true)
    (exponent : Int) (rest : Text) :
    fractionPart (Text.fraction digits ++ (exponentText exponent ++ rest)) =
      (Text.fraction digits, exponentText exponent ++ rest) := by
  have stop : ∀ c ∈ (exponentText exponent ++ rest).head?, c.isDigit = false := by
    intro c opens
    simp only [exponentText, List.cons_append, List.head?_cons, Option.mem_def,
      Option.some.injEq] at opens
    subst opens
    rfl
  rw [Text.fraction]
  cases trimmed : Text.trimZeros digits with
  | nil =>
      simp [exponentText, fractionPart]
  | cons first others =>
      have kept : ∀ c ∈ first :: others, c.isDigit = true := by
        intro c member
        rw [← trimmed] at member
        exact each c (mem_of_mem_trimZeros member)
      rcases takeWhile_append_of_stop kept stop with ⟨taken, dropped⟩
      simp only [List.cons_append] at taken dropped
      simp [fractionPart, taken, dropped]

/-- Scientific notation is read as one number. -/
theorem readNumber?_scientific {first : Char} {digits rest : Text}
    (digit : first.isDigit = true) (each : ∀ c ∈ digits, c.isDigit = true)
    (exponent : Int) (stop : AtBreak rest) :
    readNumber? (first :: (Text.fraction digits ++ exponentText exponent) ++ rest) =
      some (.float (String.ofList
        (first :: (Text.fraction digits ++ exponentText exponent))), rest) := by
  have whole : ∀ c ∈ [first], c.isDigit = true := by
    simpa using digit
  have noDigit : ∀ c ∈ (Text.fraction digits ++ (exponentText exponent ++ rest)).head?,
      c.isDigit = false := by
    rw [Text.fraction]
    cases Text.trimZeros digits <;> simp [exponentText]
  rcases takeWhile_append_of_stop whole noDigit with ⟨taken, dropped⟩
  have marked : exponentText exponent ≠ [] := List.cons_ne_nil _ _
  rw [List.cons_append, List.append_assoc]
  simp only [List.singleton_append] at taken dropped
  simp only [readNumber?, taken, dropped, fractionPart_fraction each,
    exponentPart_exponentText exponent stop, stop.followsInName_head?, Bool.false_eq_true,
    marked, and_false, if_false, List.cons_append, List.nil_append]

theorem floatWord_of_isDigit {first : Char} (digit : first.isDigit = true) (text : Text) :
    floatWord (String.ofList (first :: text)) = .float (String.ofList (first :: text)) := by
  have other (word : String) (letter : word.toList.head?.any Char.isDigit = false) :
      String.ofList (first :: text) ≠ word := by
    rintro rfl
    simp [digit] at letter
  rw [floatWord, if_neg (not_or_intro (other "NaN" rfl) (other "Inf" rfl))]

/-- The two infinities are a sign in front of a name. -/
theorem readsAs_infinity {sign : Char} (signed : IsSign sign) {rest : Text}
    (stop : AtBreak rest) :
    Text.ReadsAs (sign :: "Inf".toList)
      [.word (.symbol (String.ofList [sign])), .word (.name "Inf" false)] rest := by
  have bare : IsBare "Inf" := by decide
  have name := readsAs_bareName bare stop.endsWord
  exact readsAs_signed signed rfl name

theorem readsAs_scientific {value : Decimal} (negative : Bool) {rest : Text}
    (stop : AtBreak rest) :
    Text.ReadsAs (signText negative ++ value.scientific)
      ((signedWords floatWord (signText negative ++ value.scientific)).map .word) rest := by
  rw [Decimal.scientific]
  have digit (c : Char) (member : c ∈ Nat.toDigits 10 value.digits) : c.isDigit = true :=
    isDigit_of_mem_toDigits member
  cases written : Nat.toDigits 10 value.digits with
  | nil => exact absurd written Nat.toDigits_ne_nil
  | cons first others =>
      rw [written] at digit
      have opens := digit first (List.mem_cons_self ..)
      have read := readsAs_number opens
        (readNumber?_scientific opens
          (fun c member => digit c (List.mem_cons_of_mem _ member))
          (value.exponent + (others.length : Int)) stop)
      rw [← floatWord_of_isDigit opens] at read
      exact readsAs_signedWords floatWord (isAlphanum_of_isDigit opens) read negative

theorem readsAs_float {digits : String} (float : IsFloatText digits)
    {rest : Text} (stop : AtBreak rest) :
    Text.ReadsAs digits.toList ((floatWords digits).map .word) rest := by
  rcases float with ⟨format, value, rfl⟩
  rw [floatWords, String.toList_ofList, BinaryFloat.text]
  by_cases finite : value.IsFinite
  · rw [if_pos finite]
    exact readsAs_scientific value.negative stop
  rw [if_neg finite]
  by_cases noNumber : value.fraction ≠ 0
  · rw [if_pos noNumber]
    exact readsAs_bareName (by decide) stop.endsWord
  rw [if_neg noNumber]
  cases value.negative with
  | true => exact readsAs_infinity (Or.inl rfl) stop
  | false => exact readsAs_infinity (Or.inr rfl) stop

end SqlBuilder

import Mathlib.Data.Option.Basic
import SqlBuilder.Declaration.Arrange
import SqlBuilder.Proofs.Arrangement

/-!
# Steps of readers

A reader arranges what it takes if what it gives back is an arrangement of the
lexemes in front of those it leaves.  `Continues` says this of a reader that goes
on where others have stopped; there is one rule for each way in which readers are
put together.
-/

namespace SqlBuilder

namespace Reader

open Lexeme

variable {α β : Type}

/--
With `front` arranged so far, the reader takes lexemes from the input, and all of
them together may be arranged in each of the forms that belong to its value.
-/
def Continues (forms : α → List (List Lexeme)) (front : List Lexeme) (reader : Reader α)
    (input : List Lexeme) : Prop :=
  ∀ value rest, reader input = some (value, rest) →
    ∃ taken, input = taken ++ rest ∧
      ∀ arranged ∈ forms value, Arranges (front ++ taken) arranged

/-- What the reader takes may be arranged in each of the forms that belong to its value. -/
def Takes (forms : α → List (List Lexeme)) (reader : Reader α) : Prop :=
  ∀ input, Continues forms [] reader input

/-- The form of lexemes. -/
def itself (arranged : List Lexeme) : List (List Lexeme) := [arranged]

/-- The forms of lexemes that may also be left out. -/
def orNothing (arranged : List Lexeme) : List (List Lexeme) := [arranged, []]

/-- The form of a list between angle brackets. -/
def listed (members : AngleList) : List (List Lexeme) := [members.inOrder]

/-- No form: the lexemes are taken, and that is all. -/
def unarranged (_ : α) : List (List Lexeme) := []

/-- What the reader gives back is an arrangement of what it takes. -/
abbrev Arranging (reader : LexemeReader) : Prop :=
  Takes itself reader

/-- What the reader gives back, if it does, is an arrangement of what it takes. -/
abbrev ArrangingIfFound (reader : Reader (Option (List Lexeme))) : Prop :=
  Takes Option.toList reader

/-- What the reader gives back is an arrangement of what it takes, and so is nothing at all. -/
abbrev ArrangingOrNothing (reader : LexemeReader) : Prop :=
  Takes orNothing reader

theorem bind_apply (reader : Reader β) (next : β → Reader α) (input : List Lexeme) :
    (reader >>= next) input = (reader input).bind fun result => next result.1 result.2 := rfl

/-- A reader put together from two succeeds if the first one does, and the second one behind it. -/
theorem exists_of_bind {reader : Reader β} {next : β → Reader α} {input : List Lexeme}
    {result : α × List Lexeme} (read : (reader >>= next) input = some result) :
    ∃ found behind, reader input = some (found, behind) ∧ next found behind = some result := by
  rw [bind_apply] at read
  obtain ⟨⟨found, behind⟩, first, second⟩ := Option.bind_eq_some_iff.mp read
  exact ⟨found, behind, first, second⟩

theorem get_bind_apply (next : List Lexeme → Reader α) (input : List Lexeme) :
    (get >>= next) input = next input input := rfl

variable {forms : α → List (List Lexeme)} {forms' : β → List (List Lexeme)}
  {front front' input : List Lexeme}

namespace Continues

/-- What is arranged already may be arranged further. -/
theorem weaken {reader : Reader α} (arranges : Arranges front front')
    (continues : Continues forms front' reader input) :
    Continues forms front reader input := by
  intro value rest read
  obtain ⟨taken, whole, each⟩ := continues value rest read
  exact ⟨taken, whole, fun arranged form =>
    (arranges.append (.refl taken)).trans (each arranged form)⟩

/-- A step, and what follows it. -/
theorem bind {reader : Reader β} {next : β → Reader α}
    (step : Continues forms' [] reader input)
    (further : ∀ value taken rest, input = taken ++ rest →
      (∀ arranged ∈ forms' value, Arranges taken arranged) →
        Continues forms (front ++ taken) (next value) rest) :
    Continues forms front (reader >>= next) input := by
  intro value rest read
  obtain ⟨found, behind, first, second⟩ := exists_of_bind read
  obtain ⟨taken, whole, each⟩ := step found behind first
  obtain ⟨taken', whole', each'⟩ := further found taken behind whole each value rest second
  exact ⟨taken ++ taken', by rw [whole, whole', List.append_assoc], by simpa using each'⟩

theorem failure : Continues forms front failure input :=
  fun _ _ read => nomatch read

/-- A value is given back without a further step. -/
theorem pure {value : α} (each : ∀ arranged ∈ forms value, Arranges front arranged) :
    Continues forms front (pure value) input := by
  rintro _ _ ⟨⟩
  exact ⟨[], rfl, by simpa using each⟩

theorem arranged {value : List Lexeme} (arranges : Arranges front value) :
    Continues itself front (Pure.pure value) input :=
  .pure (by simpa [itself] using arranges)

/-- What is arranged so far is given back. -/
theorem done : Continues itself front (Pure.pure front) input :=
  .arranged (.refl front)

theorem eitherWay {value : List Lexeme} (arranges : Arranges front value)
    (nothing : Arranges front []) :
    Continues orNothing front (Pure.pure value) input :=
  .pure (by simpa [orNothing] using ⟨arranges, nothing⟩)

theorem members {members : AngleList} (arranges : Arranges front members.inOrder) :
    Continues listed front (Pure.pure members) input :=
  .pure (by simpa [listed] using arranges)

theorem found {value : List Lexeme} (arranges : Arranges front value) :
    Continues Option.toList front (Pure.pure (some value)) input :=
  .pure (by simpa using arranges)

theorem notFound : Continues Option.toList front (Pure.pure none) input :=
  .pure (by simp)

theorem foundIf {condition : Prop} [Decidable condition] {value : List Lexeme}
    (arranges : condition → Arranges front value) :
    Continues Option.toList front (Pure.pure (if condition then some value else none)) input := by
  split
  · exact .found (arranges ‹_›)
  · exact .notFound

theorem get {next : List Lexeme → Reader α} (further : Continues forms front (next input) input) :
    Continues forms front (MonadState.get >>= next) input :=
  further

theorem pureBind {value : β} {next : β → Reader α}
    (further : Continues forms front (next value) input) :
    Continues forms front (Pure.pure value >>= next) input :=
  further

theorem guarded {condition : Prop} [Decidable condition] {next : Unit → Reader α}
    (further : condition → Continues forms front (next ()) input) :
    Continues forms front (guard condition >>= next) input := by
  unfold guard
  split
  · exact further ‹_›
  · exact .failure

/-- A step that arranges lexemes, and what follows it. -/
theorem step {reader : LexemeReader} {next : List Lexeme → Reader α}
    (arranging : Arranging reader)
    (further : ∀ arranged rest, Continues forms (front ++ arranged) (next arranged) rest) :
    Continues forms front (reader >>= next) input :=
  .bind (arranging input) fun value _ rest _ each =>
    .weaken (.append (.refl front) (each value (by simp [itself]))) (further value rest)

/-- The last step of a reader whose lexemes stay as they are written. -/
theorem last {reader : Reader β} (takes : Takes forms' reader) :
    Continues unarranged front reader input := by
  intro value rest read
  obtain ⟨taken, whole, -⟩ := takes input value rest read
  exact ⟨taken, whole, by simp [unarranged]⟩

/-- A step that may find nothing to arrange, and what follows it. -/
theorem stepIfFound {reader : Reader (Option (List Lexeme))}
    {next : Option (List Lexeme) → Reader α} (arranging : ArrangingIfFound reader)
    (found : ∀ arranged rest, Continues forms (front ++ arranged) (next (some arranged)) rest)
    (written : ∀ taken rest, Continues forms (front ++ taken) (next none) rest) :
    Continues forms front (reader >>= next) input := by
  refine .bind (arranging input) fun value taken rest _ each => ?_
  cases value with
  | none => exact written taken rest
  | some arranged =>
      exact .weaken (.append (.refl front) (each arranged (by simp))) (found arranged rest)

/-- A step that arranges lexemes, and what follows it, given the lexemes as they are written. -/
theorem stepTaken {reader : LexemeReader} {next : List Lexeme → Reader α}
    (arranging : Arranging reader)
    (further : ∀ arranged taken rest, input = taken ++ rest → Arranges taken arranged →
      Continues forms (front ++ taken) (next arranged) rest) :
    Continues forms front (reader >>= next) input :=
  .bind (arranging input) fun arranged taken rest whole each =>
    further arranged taken rest whole (each arranged (by simp [itself]))

/-- A step whose lexemes may be left out, and what follows it. -/
theorem stepOrNothing {reader : LexemeReader} {next : List Lexeme → Reader α}
    (takes : ArrangingOrNothing reader)
    (further : ∀ arranged taken rest, Arranges taken arranged → Arranges taken [] →
      Continues forms (front ++ taken) (next arranged) rest) :
    Continues forms front (reader >>= next) input :=
  .bind (takes input) fun arranged taken rest _ each =>
    further arranged taken rest (each arranged (by simp [orNothing]))
      (each [] (by simp [orNothing]))

/-- A step that reads a list between angle brackets, and what follows it. -/
theorem stepList {reader : Reader AngleList} {next : AngleList → Reader α}
    (takes : Takes listed reader)
    (further : ∀ members rest, Continues forms (front ++ members.inOrder) (next members) rest) :
    Continues forms front (reader >>= next) input :=
  .bind (takes input) fun members _ rest _ each =>
    .weaken (.append (.refl front) (each members.inOrder (by simp [listed])))
      (further members rest)

end Continues

/-! ## Readers that copy -/

theorem take_apply (count : Nat) (input : List Lexeme) :
    take count input =
      if (input.take count).length = count then some (input.take count, input.drop count)
      else none := by
  change (guard ((input.take count).length = count) >>= fun _ => do
    set (input.drop count)
    return input.take count : LexemeReader) input = _
  unfold guard
  split
  · rfl
  · rfl

theorem eq_of_take {count : Nat} {value rest : List Lexeme}
    (read : take count input = some (value, rest)) :
    value = input.take count ∧ rest = input.drop count := by
  rw [take_apply] at read
  split at read
  · simpa [eq_comm] using read
  · cases read

/-- The reader gives back what it takes as it is written, and this satisfies a condition. -/
def Copies (condition : List Lexeme → Prop) (reader : LexemeReader) : Prop :=
  ∀ input value rest, reader input = some (value, rest) → input = value ++ rest ∧ condition value

section Copies

variable {condition : List Lexeme → Prop}

theorem Copies.arranging {reader : LexemeReader} (copies : Copies condition reader) :
    Arranging reader := by
  intro input value rest read
  exact ⟨value, (copies input value rest read).1, by simp [itself]⟩

/-- A step that copies lexemes, and what follows it. -/
theorem Continues.copy {reader : LexemeReader} {next : List Lexeme → Reader α}
    (copies : Copies condition reader)
    (further : ∀ value rest, condition value →
      Continues forms (front ++ value) (next value) rest) :
    Continues forms front (reader >>= next) input := by
  intro value rest read
  obtain ⟨found, behind, first, second⟩ := exists_of_bind read
  obtain ⟨whole, holds⟩ := copies input found behind first
  obtain ⟨taken, whole', each⟩ := further found behind holds value rest second
  exact ⟨found ++ taken, by rw [whole, whole', List.append_assoc], by simpa using each⟩

/-- The next lexemes are known from the input. -/
theorem Continues.take {count : Nat} {next : List Lexeme → Reader α}
    (further : Continues forms (front ++ input.take count) (next (input.take count))
      (input.drop count)) :
    Continues forms front (Reader.take count >>= next) input := by
  intro value rest read
  obtain ⟨found, behind, first, second⟩ := exists_of_bind read
  obtain ⟨rfl, rfl⟩ := eq_of_take first
  obtain ⟨taken, whole, each⟩ := further value rest second
  refine ⟨input.take count ++ taken, ?_, by simpa using each⟩
  rw [List.append_assoc, ← whole, List.take_append_drop]

theorem Continues.takeLast {count : Nat} {forms : List Lexeme → List (List Lexeme)}
    (each : ∀ arranged ∈ forms (input.take count), Arranges (front ++ input.take count) arranged) :
    Continues forms front (Reader.take count) input := by
  rw [← bind_pure (Reader.take count)]
  exact .take (.pure each)

theorem copies_take (count : Nat) : Copies (·.length = count) (take count) := by
  intro input value rest read
  rw [take_apply] at read
  split at read
  · rename_i enough
    cases read
    exact ⟨(List.take_append_drop ..).symm, enough⟩
  · cases read

theorem copies_takeWhile (condition : Lexeme → Bool) :
    Copies (fun value => ∀ lexeme ∈ value, condition lexeme = true) (takeWhile condition) := by
  rintro input _ _ ⟨⟩
  exact ⟨List.takeWhile_append_dropWhile.symm, fun _ => List.mem_takeWhile_imp⟩

/-- The next lexeme is the one that the input begins with. -/
theorem eq_of_take_one {lexeme : Lexeme} {behind value rest : List Lexeme}
    (read : take 1 (lexeme :: behind) = some (value, rest)) :
    lexeme :: behind = value ++ rest ∧ value = [lexeme] := by
  obtain ⟨rfl, rfl⟩ := eq_of_take read
  exact ⟨rfl, rfl⟩

theorem copies_symbol (expected : Char) :
    Copies (fun value => ∃ joined, value = [.mark expected joined]) (symbol expected) := by
  intro input value rest read
  rw [symbol, get_bind_apply] at read
  split at read
  · split at read
    · rename_i same
      subst same
      exact (eq_of_take_one read).imp_right fun one => ⟨_, one⟩
    · cases read
  · cases read

theorem copies_symbol? (expected : Char) : Copies (fun _ => True) (symbol? expected) := by
  intro input value rest read
  rw [symbol?, get_bind_apply] at read
  split at read
  · split at read
    · exact (eq_of_take_one read).imp_right fun _ => trivial
    · cases read
      exact ⟨rfl, trivial⟩
  · cases read
    exact ⟨rfl, trivial⟩

theorem copies_word? (expected : String) : Copies (fun _ => True) (word? expected) := by
  intro input value rest read
  rw [word?, get_bind_apply] at read
  split at read
  · split at read
    · exact (eq_of_take_one read).imp_right fun _ => trivial
    · cases read
      exact ⟨rfl, trivial⟩
  · cases read
    exact ⟨rfl, trivial⟩

theorem copies_opening : Copies (fun value => ∃ bracket, value = [.opening bracket]) opening := by
  intro input value rest read
  rw [opening, get_bind_apply] at read
  split at read
  · exact (eq_of_take_one read).imp_right fun one => ⟨_, one⟩
  · cases read

theorem copies_closing : Copies (fun value => ∃ bracket, value = [.closing bracket]) closing := by
  intro input value rest read
  rw [closing, get_bind_apply] at read
  split at read
  · exact (eq_of_take_one read).imp_right fun one => ⟨_, one⟩
  · cases read

theorem copies_content : Copies (fun _ => True) content := by
  rintro input _ _ ⟨⟩
  exact ⟨(untilClosing_append 0 input).symm, trivial⟩

theorem Continues.symbol {expected : Char} {next : List Lexeme → Reader α}
    (further : ∀ joined rest,
      Continues forms (front ++ [.mark expected joined]) (next [.mark expected joined]) rest) :
    Continues forms front (Reader.symbol expected >>= next) input := by
  refine .copy (copies_symbol expected) ?_
  rintro _ rest ⟨joined, rfl⟩
  exact further joined rest

theorem Continues.opening {next : List Lexeme → Reader α}
    (further : ∀ bracket rest,
      Continues forms (front ++ [.opening bracket]) (next [.opening bracket]) rest) :
    Continues forms front (Reader.opening >>= next) input := by
  refine .copy copies_opening ?_
  rintro _ rest ⟨bracket, rfl⟩
  exact further bracket rest

theorem Continues.closing {next : List Lexeme → Reader α}
    (further : ∀ bracket rest,
      Continues forms (front ++ [.closing bracket]) (next [.closing bracket]) rest) :
    Continues forms front (Reader.closing >>= next) input := by
  refine .copy copies_closing ?_
  rintro _ rest ⟨bracket, rfl⟩
  exact further bracket rest

theorem copies_group :
    Copies (fun value => ∃ bracket inner bracket',
      value = .opening bracket :: (inner ++ [.closing bracket'])) group := by
  intro input value rest read
  rw [group] at read
  obtain ⟨front, next, first, read⟩ := exists_of_bind read
  obtain ⟨inner, next', second, read⟩ := exists_of_bind read
  obtain ⟨back, next'', third, read⟩ := exists_of_bind read
  obtain ⟨whole, bracket, rfl⟩ := copies_opening input front next first
  obtain ⟨whole', -⟩ := copies_content next inner next' second
  obtain ⟨whole'', bracket', rfl⟩ := copies_closing next' back next'' third
  cases read
  exact ⟨by simp [whole, whole', whole''], bracket, inner, bracket', by simp⟩

end Copies

/-! ## What is given back as it is written -/

theorem take_length_sub {input taken rest : List Lexeme} (whole : input = taken ++ rest) :
    input.take (input.length - rest.length) = taken := by
  simp [whole]

theorem asWritten_eq_some {reader : Reader α} {value rest : List Lexeme}
    (read : asWritten reader input = some (value, rest)) :
    ∃ found, reader input = some (found, rest) ∧
      value = input.take (input.length - rest.length) := by
  rw [asWritten, get_bind_apply] at read
  obtain ⟨found, behind, first, second⟩ := exists_of_bind read
  cases second
  exact ⟨found, first, rfl⟩

theorem Takes.asWritten {reader : Reader α} (takes : Takes forms reader) :
    Arranging (asWritten reader) := by
  intro input value rest read
  obtain ⟨found, first, rfl⟩ := asWritten_eq_some read
  obtain ⟨taken, whole, -⟩ := takes input found rest first
  exact ⟨taken, whole, by simp [itself, take_length_sub whole]⟩

theorem ArrangingOrNothing.asWritten {reader : LexemeReader}
    (takes : ArrangingOrNothing reader) : ArrangingOrNothing (asWritten reader) := by
  intro input value rest read
  obtain ⟨found, first, rfl⟩ := asWritten_eq_some read
  obtain ⟨taken, whole, each⟩ := takes input found rest first
  have nothing : Arranges taken [] := each [] (by simp [orNothing])
  refine ⟨taken, whole, ?_⟩
  simpa [orNothing, take_length_sub whole] using nothing

theorem ArrangingOrNothing.arranging {reader : LexemeReader}
    (takes : ArrangingOrNothing reader) : Arranging reader := by
  intro input value rest read
  obtain ⟨taken, whole, each⟩ := takes input value rest read
  exact ⟨taken, whole, by simpa [itself] using each value (by simp [orNothing])⟩

theorem ArrangingIfFound.arrangedOrWritten {reader : Reader (Option (List Lexeme))}
    (arranging : ArrangingIfFound reader) : Arranging (arrangedOrWritten reader) := by
  intro input value rest read
  rw [Reader.arrangedOrWritten, get_bind_apply] at read
  obtain ⟨found, behind, first, second⟩ := exists_of_bind read
  obtain ⟨taken, whole, each⟩ := arranging input found behind first
  cases found with
  | none =>
      cases second
      exact ⟨taken, whole, by simp [itself, take_length_sub whole]⟩
  | some arranged =>
      cases second
      exact ⟨taken, whole, by simpa [itself] using each value (by simp)⟩

end Reader

end SqlBuilder

import SqlBuilder.Error

/-!
# Outcomes

Every conversion ends with a result or with an error.  A list of conversions
succeeds when all of them do; otherwise its error is that of the first one that
fails, with its position noted where the caller asks for it.
-/

namespace SqlBuilder

/-- A result, or the error that stood in its way. -/
abbrev Outcome (α : Type) := Except Error α

namespace Outcome

variable {ε α : Type}

/--
All results in order, or the first error.  The error is handed to `note` with
its position, counted from `start`.
-/
def collectFrom
    (note : Nat → ε → ε) (start : Nat) :
    List (Except ε α) → Except ε (List α)
  | [] => .ok []
  | .error cause :: _ => .error (note start cause)
  | .ok result :: rest =>
      (collectFrom note (start + 1) rest).map (result :: ·)

/-- All results in order, or the first error with its position noted. -/
def collectNoting
    (note : Nat → ε → ε) (outcomes : List (Except ε α)) :
    Except ε (List α) :=
  collectFrom note 0 outcomes

/-- All results in order, or the first error as it is. -/
def collect (outcomes : List (Except ε α)) : Except ε (List α) :=
  collectNoting (fun _ cause => cause) outcomes

@[simp]
theorem collectFrom_nil (note : Nat → ε → ε) (start : Nat) :
    collectFrom note start ([] : List (Except ε α)) = .ok [] := rfl

@[simp]
theorem collectFrom_error
    (note : Nat → ε → ε) (start : Nat)
    (cause : ε) (rest : List (Except ε α)) :
    collectFrom note start (.error cause :: rest) = .error (note start cause) := rfl

@[simp]
theorem collectFrom_ok
    (note : Nat → ε → ε) (start : Nat)
    (result : α) (rest : List (Except ε α)) :
    collectFrom note start (.ok result :: rest) =
      (collectFrom note (start + 1) rest).map (result :: ·) := rfl

/-- Collecting succeeds exactly when every outcome does, and loses nothing. -/
theorem collectFrom_eq_ok_iff
    (note : Nat → ε → ε) (start : Nat)
    (outcomes : List (Except ε α)) (results : List α) :
    collectFrom note start outcomes = .ok results ↔
      outcomes = results.map .ok := by
  induction outcomes generalizing start results with
  | nil => cases results <;> simp
  | cons outcome rest ih =>
      cases outcome with
      | error cause => cases results <;> simp
      | ok result =>
          cases results with
          | nil =>
              cases collected : collectFrom note (start + 1) rest <;>
                simp [collected, Except.map]
          | cons first others =>
              specialize ih (start + 1) others
              cases collected : collectFrom note (start + 1) rest <;>
                simp_all [Except.map]

/--
Collecting fails exactly when some outcome does; the error is that of the first
one, noted with the number of outcomes before it.
-/
theorem collectFrom_eq_error_iff
    (note : Nat → ε → ε) (start : Nat)
    (outcomes : List (Except ε α)) (error : ε) :
    collectFrom note start outcomes = .error error ↔
      ∃ (results : List α) (cause : ε) (rest : List (Except ε α)),
        outcomes = results.map .ok ++ .error cause :: rest ∧
          error = note (start + results.length) cause := by
  induction outcomes generalizing start with
  | nil => simp
  | cons outcome rest ih =>
      cases outcome with
      | error cause =>
          constructor
          · intro failed
            exact ⟨[], cause, rest, rfl, by simpa using failed.symm⟩
          · rintro ⟨results, firstCause, others, split, rfl⟩
            cases results with
            | nil => simp_all
            | cons first _ => simp at split
      | ok result =>
          constructor
          · intro failed
            have tailFailed : collectFrom note (start + 1) rest = .error error := by
              cases collected : collectFrom note (start + 1) rest <;>
                simp_all [Except.map]
            obtain ⟨results, cause, others, split, noted⟩ := (ih (start + 1)).mp tailFailed
            refine ⟨result :: results, cause, others, by simp [split], ?_⟩
            simpa [Nat.add_assoc, Nat.add_comm 1] using noted
          · rintro ⟨results, cause, others, split, noted⟩
            cases results with
            | nil => simp at split
            | cons first results =>
                simp only [List.map_cons, List.cons_append, List.cons.injEq,
                  Except.ok.injEq] at split
                obtain ⟨rfl, tailSplit⟩ := split
                have tailFailed : collectFrom note (start + 1) rest = .error error :=
                  (ih (start + 1)).mpr
                    ⟨results, cause, others, tailSplit, by
                      simpa [Nat.add_assoc, Nat.add_comm 1] using noted⟩
                simp [tailFailed, Except.map]

end Outcome

end SqlBuilder

import Mathlib.Data.List.Forall2
import SqlBuilder.Outcome

/-!
# The first failure of a list

A list of conversions ends with an error exactly where some item does not
convert.  The error is that of the first such item, and the position noted with
it is the number of items in front of it, which all convert.  Where no position
is noted, the parts of a list can be collected one after the other.  Where the items
have to be looked up first, one that is missing fails as well.
-/

namespace SqlBuilder

namespace Outcome

variable {ε α β : Type}

/-- The item at a position does not convert, and every item in front of it does. -/
structure FailsFirst
    (convert : α → Except ε β) (items : List α)
    (index : Nat) (cause : ε) : Prop where
  here : ∃ item, items[index]? = some item ∧ convert item = .error cause
  before : ∀ earlier < index, ∀ item, items[earlier]? = some item →
    ∃ result, convert item = .ok result

section Cons

variable {convert : α → Except ε β} {item : α} {rest : List α} {index : Nat} {cause : ε}

theorem failsFirst_cons_of_error {first : ε} (failed : convert item = .error first) :
    FailsFirst convert (item :: rest) index cause ↔ index = 0 ∧ cause = first := by
  constructor
  · rintro ⟨⟨other, found, otherFailed⟩, before⟩
    cases index with
    | zero =>
        cases found
        exact ⟨rfl, Except.error.inj (otherFailed.symm.trans failed)⟩
    | succ index =>
        obtain ⟨result, converted⟩ := before 0 (Nat.succ_pos index) item rfl
        rw [failed] at converted
        cases converted
  · rintro ⟨rfl, rfl⟩
    exact ⟨⟨item, rfl, failed⟩, fun _ below => absurd below (Nat.not_lt_zero _)⟩

theorem failsFirst_cons_of_ok {result : β} (converted : convert item = .ok result) :
    FailsFirst convert (item :: rest) index cause ↔
      ∃ later, index = later + 1 ∧ FailsFirst convert rest later cause := by
  constructor
  · rintro ⟨⟨other, found, failed⟩, before⟩
    cases index with
    | zero =>
        cases found
        rw [converted] at failed
        cases failed
    | succ later =>
        refine ⟨later, rfl, ⟨other, by simpa using found, failed⟩, ?_⟩
        intro earlier below next present
        exact before (earlier + 1) (Nat.succ_lt_succ below) next (by simpa using present)
  · rintro ⟨later, rfl, ⟨other, found, failed⟩, before⟩
    refine ⟨⟨other, by simpa using found, failed⟩, ?_⟩
    intro earlier below next present
    cases earlier with
    | zero =>
        cases present
        exact ⟨result, converted⟩
    | succ earlier =>
        exact before earlier (Nat.lt_of_succ_lt_succ below) next (by simpa using present)

end Cons

theorem collectFrom_map_eq_error_iff
    (note : Nat → ε → ε) (start : Nat)
    (convert : α → Except ε β) (items : List α) (error : ε) :
    collectFrom note start (items.map convert) = .error error ↔
      ∃ index cause, FailsFirst convert items index cause ∧
        error = note (start + index) cause := by
  induction items generalizing start with
  | nil =>
      simp only [List.map_nil, collectFrom_nil, reduceCtorEq, false_iff]
      rintro ⟨index, cause, ⟨⟨item, found, _⟩, _⟩, _⟩
      cases found
  | cons item rest ih =>
      rw [List.map_cons]
      cases outcome : convert item with
      | error first =>
          simp only [collectFrom_error, failsFirst_cons_of_error outcome, Except.error.injEq]
          constructor
          · rintro rfl
            exact ⟨0, first, ⟨rfl, rfl⟩, rfl⟩
          · rintro ⟨index, cause, ⟨rfl, rfl⟩, rfl⟩
            rfl
      | ok result =>
          have tail : (collectFrom note (start + 1) (rest.map convert)).map (result :: ·) =
                .error error ↔
              collectFrom note (start + 1) (rest.map convert) = .error error := by
            cases collectFrom note (start + 1) (rest.map convert) <;> simp [Except.map]
          rw [collectFrom_ok, tail, ih]
          simp only [failsFirst_cons_of_ok outcome]
          constructor
          · rintro ⟨later, cause, first, rfl⟩
            exact ⟨later + 1, cause, ⟨later, rfl, first⟩, by rw [Nat.add_right_comm, Nat.add_assoc]⟩
          · rintro ⟨index, cause, ⟨later, rfl, first⟩, rfl⟩
            exact ⟨later, cause, first, by rw [Nat.add_right_comm, Nat.add_assoc]⟩

/-- Collecting fails exactly at the first item that does not convert, with its position noted. -/
theorem collectNoting_map_eq_error_iff
    (note : Nat → ε → ε) (convert : α → Except ε β) (items : List α) (error : ε) :
    collectNoting note (items.map convert) = .error error ↔
      ∃ index cause, FailsFirst convert items index cause ∧ error = note index cause := by
  simpa [collectNoting] using collectFrom_map_eq_error_iff note 0 convert items error

/-- Collecting succeeds exactly where every item converts, with one result for each in order. -/
theorem collectNoting_map_eq_ok_iff
    (note : Nat → ε → ε) (convert : α → Except ε β) (items : List α) (results : List β) :
    collectNoting note (items.map convert) = .ok results ↔
      List.Forall₂ (fun item result => convert item = .ok result) items results := by
  rw [collectNoting, collectFrom_eq_ok_iff]
  induction items generalizing results with
  | nil => cases results <;> simp
  | cons item rest ih =>
      cases results with
      | nil => simp
      | cons result others => simp [ih]

/-- Collecting has results exactly where every item converts. -/
theorem exists_collectNoting_map_eq_ok_iff
    (note : Nat → ε → ε) (convert : α → Except ε β) (items : List α) :
    (∃ results, collectNoting note (items.map convert) = .ok results) ↔
      ∀ item ∈ items, ∃ result, convert item = .ok result := by
  simp only [collectNoting_map_eq_ok_iff]
  induction items with
  | nil => simp
  | cons item rest ih => simp [List.forall₂_cons_left_iff, ← ih]

/-- Collecting what has already succeeded notes nothing. -/
theorem collectNoting_map_ok (note : Nat → ε → ε) (results : List β) :
    collectNoting note (results.map .ok) = .ok results :=
  (collectFrom_eq_ok_iff note 0 _ results).mpr rfl

/-- Without positions noted, collecting fails with the error of the leftmost item that does not convert. -/
theorem collect_map_eq_error_iff
    (convert : α → Except ε β) (items : List α) (error : ε) :
    collect (items.map convert) = .error error ↔
      ∃ front item back, items = front ++ item :: back ∧
        (∀ earlier ∈ front, ∃ result, convert earlier = .ok result) ∧
        convert item = .error error := by
  rw [collect, collectNoting, collectFrom_eq_error_iff]
  constructor
  · rintro ⟨results, cause, rest, split, rfl⟩
    obtain ⟨front, others, rfl, converted, remaining⟩ := List.map_eq_append_iff.mp split
    obtain ⟨item, back, rfl, failed, -⟩ := List.map_eq_cons_iff.mp remaining
    refine ⟨front, item, back, rfl, fun earlier member => ?_, failed⟩
    have inResults : convert earlier ∈ results.map .ok := converted ▸ List.mem_map_of_mem member
    obtain ⟨result, -, same⟩ := List.mem_map.mp inResults
    exact ⟨result, same.symm⟩
  · rintro ⟨front, item, back, rfl, converted, failed⟩
    obtain ⟨results, collected⟩ :=
      (exists_collectNoting_map_eq_ok_iff (fun _ cause => cause) convert front).mpr converted
    have inFront := (collectFrom_eq_ok_iff _ 0 _ results).mp collected
    exact ⟨results, error, back.map convert, by rw [List.map_append, inFront, List.map_cons, failed],
      rfl⟩

/-! ## Collecting part by part -/

section Parts

variable (outcomes front back : List (Except ε α))

/-- Where causes are left as they are, it makes no difference from where positions are counted. -/
theorem collectFrom_same (start : Nat) :
    collectFrom (fun _ cause => cause) start outcomes = collect outcomes := by
  rw [collect, collectNoting]
  generalize 0 = other
  induction outcomes generalizing start other with
  | nil => rfl
  | cons outcome rest ih =>
      cases outcome with
      | error cause => rfl
      | ok result => rw [collectFrom_ok, collectFrom_ok, ih (start + 1) (other + 1)]

theorem collect_cons (outcome : Except ε α) (rest : List (Except ε α)) :
    collect (outcome :: rest) =
      outcome.bind fun result => (collect rest).map (result :: ·) := by
  cases outcome with
  | error cause => rfl
  | ok result =>
      rw [collect, collectNoting, collectFrom_ok, collectFrom_same]
      rfl

theorem collect_append :
    collect (front ++ back) =
      (collect front).bind fun results => (collect back).map (results ++ ·) := by
  induction front with
  | nil =>
      show collect back = (collect back).map ([] ++ ·)
      cases collect back <;> rfl
  | cons outcome rest ih =>
      rw [List.cons_append, collect_cons, collect_cons, ih]
      cases outcome with
      | error cause => rfl
      | ok result => cases collect rest <;> cases collect back <;> rfl

theorem collectFrom_map_map (note : Nat → ε → ε) (start : Nat) (convert : α → β) :
    collectFrom note start (outcomes.map (Except.map convert)) =
      (collectFrom note start outcomes).map (List.map convert) := by
  induction outcomes generalizing start with
  | nil => rfl
  | cons outcome rest ih =>
      cases outcome with
      | error cause => rfl
      | ok result =>
          rw [List.map_cons, Except.map, collectFrom_ok, collectFrom_ok, ih]
          cases collectFrom note (start + 1) rest <;> rfl

/-- Results can be converted one by one, or all at once when they have been collected. -/
theorem collectNoting_map_map (note : Nat → ε → ε) (convert : α → β) :
    collectNoting note (outcomes.map (Except.map convert)) =
      (collectNoting note outcomes).map (List.map convert) :=
  collectFrom_map_map outcomes note 0 convert

theorem collect_map_map (convert : α → β) :
    collect (outcomes.map (Except.map convert)) = (collect outcomes).map (List.map convert) :=
  collectNoting_map_map outcomes _ convert

theorem collect_mapError (convert : ε → ε) :
    collect (outcomes.map (Except.mapError convert)) = (collect outcomes).mapError convert := by
  induction outcomes with
  | nil => rfl
  | cons outcome rest ih =>
      rw [List.map_cons, collect_cons, collect_cons, ih]
      cases outcome with
      | error cause => rfl
      | ok result => cases collect rest <;> rfl

variable {outcomes}

/-- There are as many results as there were conversions. -/
theorem collect_ne_nil {results : List α}
    (collected : collect outcomes = .ok results) (present : outcomes ≠ []) : results ≠ [] := by
  rintro rfl
  exact present ((collectFrom_eq_ok_iff _ 0 outcomes []).mp collected)

end Parts

/-! ## Something to convert that may be missing -/

section Missing

variable {found : Option α} {convert : α → Except ε β} {missing cause : ε} {result : β}

theorem elim_eq_ok_iff :
    found.elim (.error missing) convert = .ok result ↔
      ∃ item, found = some item ∧ convert item = .ok result := by
  cases found <;> simp

theorem elim_eq_error_iff :
    found.elim (.error missing) convert = .error cause ↔
      found = none ∧ cause = missing ∨ ∃ item, found = some item ∧ convert item = .error cause := by
  cases found <;> simp [eq_comm]

end Missing

end Outcome

end SqlBuilder

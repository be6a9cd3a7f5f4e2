import Mathlib.Data.List.Induction
import Mathlib.Data.List.Nodup
import Mathlib.Data.List.Pairwise
import SqlBuilder.Json

/-!
# Members in order

The members of an object are kept in ascending order of their keys.  Putting a
value under a key keeps the order, replaces the value that was there, and leaves
the other keys alone.

So the members of the object of a list of entries are known from the last value
that each key is given there, and from nothing else about the entries.
-/

namespace SqlBuilder

namespace Members

variable {α : Type} {key : String} {value : α} {members : Members α}

/-- The keys ascend, so no key is there twice. -/
def IsSorted (members : Members α) : Prop :=
  members.Pairwise fun first second => first.1 < second.1

/-! ## One insertion -/

/-- The members after an insertion: the new one, and those under other keys. -/
theorem mem_insert_iff (sorted : members.IsSorted) {entry : String × α} :
    entry ∈ members.insert key value ↔
      entry = (key, value) ∨ entry.1 ≠ key ∧ entry ∈ members := by
  induction members with
  | nil => simp [insert]
  | cons first rest ih =>
      obtain ⟨least, others⟩ := List.pairwise_cons.mp sorted
      rw [insert]
      split
      · rename_i before
        rw [List.mem_cons]
        refine or_congr_right (and_iff_right_of_imp fun member => ?_).symm
        rintro rfl
        rcases List.mem_cons.mp member with rfl | inside
        · exact String.lt_irrefl _ before
        · exact String.lt_asymm before (least entry inside)
      split
      · rename_i same
        rw [List.mem_cons]
        refine or_congr_right ⟨fun inside => ⟨?_, List.mem_cons_of_mem _ inside⟩, ?_⟩
        · rintro rfl
          exact String.lt_irrefl _ (same ▸ least entry inside)
        · rintro ⟨different, member⟩
          rcases List.mem_cons.mp member with rfl | inside
          · exact absurd same.symm different
          · exact inside
      · rename_i different
        rw [List.mem_cons, ih others, List.mem_cons, and_or_left, or_left_comm]
        refine or_congr_right (or_congr_left (and_iff_right_of_imp ?_).symm)
        rintro rfl
        exact Ne.symm different

theorem IsSorted.insert (sorted : members.IsSorted) (key : String) (value : α) :
    (members.insert key value).IsSorted := by
  induction members with
  | nil => exact List.pairwise_singleton _ _
  | cons first rest ih =>
      obtain ⟨least, others⟩ := List.pairwise_cons.mp sorted
      rw [Members.insert]
      split
      · rename_i before
        refine List.pairwise_cons.mpr ⟨fun entry member => ?_, sorted⟩
        rcases List.mem_cons.mp member with rfl | inside
        · exact before
        · exact String.lt_trans before (least entry inside)
      split
      · rename_i same
        exact List.pairwise_cons.mpr ⟨fun entry inside => same ▸ least entry inside, others⟩
      · rename_i notBefore different
        refine List.pairwise_cons.mpr ⟨fun entry member => ?_, ih others⟩
        rcases (mem_insert_iff others).mp member with rfl | ⟨-, inside⟩
        · -- Neither key is the other one, and the new one does not come first.
          refine Decidable.byContradiction fun notAfter => different ?_
          exact String.le_antisymm (String.not_lt.mp notAfter) (String.not_lt.mp notBefore)
        · exact least entry inside

theorem IsSorted.nodup (sorted : members.IsSorted) : members.Nodup := by
  refine List.Pairwise.imp ?_ sorted
  rintro entry _ before rfl
  exact String.lt_irrefl _ before

/-- Ascending members are known from what is among them. -/
theorem IsSorted.eq_of_mem_iff {first second : Members α} (sorted : first.IsSorted)
    (ascending : second.IsSorted) (same : ∀ entry, entry ∈ first ↔ entry ∈ second) :
    first = second := by
  have permuted := (List.perm_ext_iff_of_nodup sorted.nodup ascending.nodup).mpr same
  refine permuted.eq_of_pairwise ?_ sorted ascending
  exact fun _ _ _ _ before after => absurd after (String.lt_asymm before)

/-! ## A list of entries -/

/-- The last value that a key is given by a list of entries. -/
def lastValue? (entries : List (String × α)) (key : String) : Option α :=
  ((entries.filter fun entry => decide (entry.1 = key)).map Prod.snd).getLast?

theorem lastValue?_concat (entries : List (String × α)) (entry : String × α) (key : String) :
    lastValue? (entries ++ [entry]) key =
      if entry.1 = key then some entry.2 else lastValue? entries key := by
  by_cases here : entry.1 = key <;> simp [lastValue?, List.filter_append, here]

theorem exists_lastValue?_iff {entries : List (String × α)} :
    (∃ value, lastValue? entries key = some value) ↔ key ∈ entries.map Prod.fst := by
  induction entries using List.reverseRecOn with
  | nil => simp [lastValue?]
  | append_singleton entries entry ih =>
      rw [lastValue?_concat, List.map_append, List.mem_append, ← ih]
      by_cases here : entry.1 = key
      · simp [here]
      · simp [here, Ne.symm here]

/-- Where no key is given twice, every value given is the last one of its key. -/
theorem lastValue?_eq_some_iff_mem {entries : List (String × α)}
    (distinct : (entries.map Prod.fst).Nodup) :
    lastValue? entries key = some value ↔ (key, value) ∈ entries := by
  induction entries using List.reverseRecOn with
  | nil => simp [lastValue?]
  | append_singleton entries entry ih =>
      obtain ⟨last, given⟩ := entry
      rw [List.map_append, List.nodup_append'] at distinct
      obtain ⟨inFront, -, fresh⟩ := distinct
      rw [lastValue?_concat]
      by_cases here : last = key
      · subst here
        have absent : (last, value) ∉ entries := fun inside =>
          fresh (List.mem_map_of_mem inside) (by simp)
        simp [absent, eq_comm]
      · simp [here, Ne.symm here, ih inFront]

/-- A value that is given last replaces what its key was given before. -/
theorem ofEntries_concat (entries : List (String × α)) (entry : String × α) :
    ofEntries (entries ++ [entry]) = (ofEntries entries).insert entry.1 entry.2 := by
  rw [ofEntries, List.foldl_append]
  rfl

theorem isSorted_ofEntries (entries : List (String × α)) : (ofEntries entries).IsSorted := by
  induction entries using List.reverseRecOn with
  | nil => exact .nil
  | append_singleton entries entry ih =>
      rw [ofEntries_concat]
      exact ih.insert entry.1 entry.2

/-- The object of a list of entries holds the last value of every key. -/
theorem mem_ofEntries_iff {entries : List (String × α)} :
    (key, value) ∈ ofEntries entries ↔ lastValue? entries key = some value := by
  induction entries using List.reverseRecOn with
  | nil => simp [ofEntries, lastValue?]
  | append_singleton entries entry ih =>
      obtain ⟨last, given⟩ := entry
      rw [ofEntries_concat, mem_insert_iff (isSorted_ofEntries entries), lastValue?_concat, ih]
      by_cases here : last = key
      · simp [here, eq_comm]
      · simp [here, Ne.symm here]

/-- The members of the object of entries with distinct keys are the entries, in ascending order. -/
theorem ofEntries_spec {entries : List (String × α)}
    (distinct : (entries.map Prod.fst).Nodup) :
    (ofEntries entries).Perm entries ∧ (ofEntries entries).IsSorted := by
  have sorted := isSorted_ofEntries entries
  refine ⟨(List.perm_ext_iff_of_nodup sorted.nodup (distinct.of_map _)).mpr ?_, sorted⟩
  rintro ⟨key, value⟩
  rw [mem_ofEntries_iff, lastValue?_eq_some_iff_mem distinct]

/-- Entries that give every key the same last value make the same object. -/
theorem ofEntries_congr {entries others : List (String × α)}
    (same : ∀ key, lastValue? entries key = lastValue? others key) :
    ofEntries entries = ofEntries others := by
  refine (isSorted_ofEntries entries).eq_of_mem_iff (isSorted_ofEntries others) ?_
  rintro ⟨key, value⟩
  rw [mem_ofEntries_iff, mem_ofEntries_iff, same]

/-- The order in which distinct keys are given does not matter. -/
theorem lastValue?_perm {entries others : List (String × α)}
    (distinct : (entries.map Prod.fst).Nodup) (permuted : entries.Perm others) (key : String) :
    lastValue? entries key = lastValue? others key := by
  refine Option.ext fun value => ?_
  have apart := (permuted.map Prod.fst).nodup_iff.mp distinct
  rw [lastValue?_eq_some_iff_mem distinct, lastValue?_eq_some_iff_mem apart, permuted.mem_iff]

/-- A value does not matter whose key is given another one later. -/
theorem lastValue?_overwritten {front back : List (String × α)} {entry : String × α}
    (again : entry.1 ∈ back.map Prod.fst) (key : String) :
    lastValue? (front ++ entry :: back) key = lastValue? (front ++ back) key := by
  by_cases here : entry.1 = key
  · subst here
    obtain ⟨value, last⟩ := exists_lastValue?_iff.mpr again
    have present : (back.filter fun other => decide (other.1 = entry.1)).map Prod.snd ≠ [] := by
      intro none
      rw [lastValue?, none] at last
      cases last
    simp only [lastValue?, List.filter_append, List.filter_cons, decide_true, if_true,
      List.map_append, List.map_cons]
    rw [List.getLast?_append_of_ne_nil _ present,
      List.getLast?_append_of_ne_nil _ (List.cons_ne_nil _ _),
      ← List.singleton_append, List.getLast?_append_of_ne_nil _ present]
  · simp [lastValue?, List.filter_append, here]

end Members

end SqlBuilder

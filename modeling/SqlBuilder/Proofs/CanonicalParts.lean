import Mathlib.Data.List.Flatten
import Mathlib.Data.List.TakeWhile
import SqlBuilder.Declaration.AngleList
import SqlBuilder.Declaration.Member
import SqlBuilder.Proofs.NumberText

/-!
# Parts in canonical form

The parts of a type that have a canonical form of their own: the name of a tuple's
member, and a list between angle brackets.  To bring such a part into canonical
form once more changes nothing.
-/

namespace SqlBuilder

/-! ## Positions -/

namespace Member

theorem digit?_of_isDigit {c : Char} (digit : c.isDigit = true) :
    digit? 10 c = some (c.toNat - '0'.toNat) := by
  have bounds : 48 ≤ c.toNat ∧ c.toNat ≤ 57 := Char.isDigit_iff_toNat.mp digit
  have small : c.toNat - '0'.toNat < 10 := by
    change c.toNat - 48 < 10
    omega
  simp only [digit?, digit, ↓reduceIte, small]

/-- Digits stand for the number that they are the digits of. -/
theorem foldlM_digit? {digits : Text} (each : ∀ c ∈ digits, c.isDigit = true) (value : Nat) :
    digits.foldlM (fun value c => (digit? 10 c).map (value * 10 + ·)) value =
      some (Nat.ofDigitChars 10 digits value) := by
  induction digits generalizing value with
  | nil => rfl
  | cons c rest ih =>
      obtain ⟨digit, others⟩ := List.forall_mem_cons.mp each
      simp [digit?_of_isDigit digit, ih others, Nat.ofDigitChars_cons, Nat.mul_comm]

theorem number?_toDigits (value : Nat) : number? 10 (Nat.toDigits 10 value) = some value := by
  have digits (c : Char) (member : c ∈ Nat.toDigits 10 value) : c.isDigit = true :=
    isDigit_of_mem_toDigits member
  have kept : (Nat.toDigits 10 value).filter (· ≠ '_') = Nat.toDigits 10 value := by
    refine List.filter_eq_self.mpr fun c member => ?_
    have other : c ≠ '_' := by
      rintro rfl
      exact absurd (digits _ member) (by decide)
    simpa using other
  rw [number?, kept]
  split
  · rename_i none
    exact absurd none Nat.toDigits_ne_nil
  · rw [foldlM_digit? digits, Nat.ofDigitChars_ten_toDigits]

theorem integer?_toDigits (value : Nat) : integer? (Nat.toDigits 10 value) = some value := by
  have digits (c : Char) (member : c ∈ Nat.toDigits 10 value) : c.isDigit = true :=
    isDigit_of_mem_toDigits member
  have read := number?_toDigits value
  unfold integer?
  split
  · rename_i written
    exact absurd (digits 'x' (by simp [written])) (by decide)
  · rename_i written
    exact absurd (digits 'o' (by simp [written])) (by decide)
  · rename_i written
    exact absurd (digits 'b' (by simp [written])) (by decide)
  · exact read

/-- A position in canonical form is left as it is. -/
@[simp]
theorem position_position (source : Text) : position (position source) = position source := by
  cases read : integer? source with
  | none => simp [position, read]
  | some value => simp [position, read, integer?_toDigits]

theorem ne_point_of_mem_position {source : Text} (plain : ∀ c ∈ source, c ≠ '.') {c : Char}
    (member : c ∈ position source) : c ≠ '.' := by
  unfold position at member
  split at member
  · rintro rfl
    exact absurd (isDigit_of_mem_toDigits member) (by decide)
  · exact plain c member

/-- Text without a point is one position. -/
theorem positions_of_plain {source : Text} (plain : ∀ c ∈ source, c ≠ '.') :
    positions source = position source := by
  have taken : source.takeWhile (· ≠ '.') = source :=
    List.takeWhile_eq_self_iff.mpr fun c member => by simpa using plain c member
  have dropped : source.dropWhile (· ≠ '.') = [] :=
    List.dropWhile_eq_nil_iff.mpr fun c member => by simpa using plain c member
  rw [positions, taken, dropped]

/-- The first point keeps two positions apart. -/
theorem positions_point {first : Text} (plain : ∀ c ∈ first, c ≠ '.') (second : Text) :
    positions (first ++ '.' :: second) = position first ++ '.' :: position second := by
  have before : ∀ c ∈ first, decide (c ≠ '.') = true := by simpa using plain
  have taken : (first ++ '.' :: second).takeWhile (· ≠ '.') = first := by
    rw [List.takeWhile_append_of_pos before]
    simp
  have dropped : (first ++ '.' :: second).dropWhile (· ≠ '.') = '.' :: second := by
    rw [List.dropWhile_append_of_pos before]
    simp
  rw [positions, taken, dropped]
  rfl

/-- Positions in canonical form are left as they are. -/
@[simp]
theorem positions_positions (source : Text) :
    positions (positions source) = positions source := by
  have plain : ∀ c ∈ source.takeWhile (· ≠ '.'), c ≠ '.' := fun c member => by
    simpa using List.mem_takeWhile_imp member
  have whole : source.takeWhile (· ≠ '.') ++ source.dropWhile (· ≠ '.') = source :=
    List.takeWhile_append_dropWhile
  rw [← whole]
  cases behind : source.dropWhile (· ≠ '.') with
  | nil =>
      rw [List.append_nil, positions_of_plain plain,
        positions_of_plain fun c => ne_point_of_mem_position plain, position_position]
  | cons c second =>
      have stop := List.head?_dropWhile_not (· ≠ '.') source
      rw [behind] at stop
      obtain rfl : c = '.' := by simpa using stop
      rw [positions_point plain, positions_point fun c => ne_point_of_mem_position plain,
        position_position, position_position]

/-- The canonical form of a literal that names a member is left as it is. -/
@[simp]
theorem lexeme_lexeme (found : Lexeme) : lexeme (lexeme found) = lexeme found := by
  cases found <;> simp [lexeme]

end Member

/-! ## Lists between angle brackets -/

namespace AngleList

variable {members : AngleList}

@[simp]
theorem inOrder_append (front back : AngleList) :
    inOrder (front ++ back) = front.inOrder ++ back.inOrder := by
  simp [inOrder]

/-- Nothing but a comma is added to a list in canonical order, and nothing is lost. -/
theorem lifetimesFirst_perm (members : AngleList) :
    members.lifetimesFirst.Perm (members.inOrder ++ members.joint) := by
  have sorted : (members.lifetimes ++ members.others).inOrder.Perm members.inOrder :=
    (List.filter_append_perm AngleMember.isLifetime members).flatMap_right _
  have moved : members.lifetimesFirst.Perm
      (members.lifetimes.inOrder ++ members.others.inOrder ++ members.joint) := by
    simpa [lifetimesFirst] using List.perm_append_comm.append_left members.lifetimes.inOrder
  rw [← inOrder_append] at moved
  exact moved.trans (sorted.append_right _)

/-- A list with the lifetimes in front stays as it is if no comma is missing behind them. -/
theorem lifetimesFirst_of_sorted (sorted : members.lifetimes ++ members.others = members)
    (separate : members.joint = []) :
    members.lifetimesFirst = members.inOrder := by
  rw [lifetimesFirst, separate, List.append_nil, ← inOrder_append, sorted]

/-- The members with a comma behind the last one. -/
def withComma (members : AngleList) : AngleList :=
  members.dropLast ++ members.getLast?.toList.map fun last => { last with hasComma := true }

theorem inOrder_withComma (members : AngleList) :
    members.withComma.inOrder =
      members.inOrder ++
        if members.getLast?.all AngleMember.hasComma then [] else [Lexeme.comma] := by
  rcases List.eq_nil_or_concat members with rfl | ⟨front, last, rfl⟩
  · rfl
  · cases comma : last.hasComma <;> simp [withComma, inOrder, AngleMember.written, comma]

/-- What is true of members whether or not a comma is behind them is true of the members with one. -/
theorem forall_mem_withComma {condition : AngleMember → Prop}
    (indifferent : ∀ member, condition member → condition { member with hasComma := true })
    (each : ∀ member ∈ members, condition member) :
    ∀ member ∈ members.withComma, condition member := by
  rcases List.eq_nil_or_concat members with rfl | ⟨front, last, rfl⟩
  · simp [withComma]
  · simp only [List.concat_eq_append, List.mem_append, List.mem_singleton, or_imp, forall_and,
      forall_eq] at each
    simpa [withComma, or_imp, forall_and] using ⟨each.1, indifferent last each.2⟩

theorem all_hasComma_getLast?_withComma (members : AngleList) :
    members.withComma.getLast?.all AngleMember.hasComma = true := by
  rcases List.eq_nil_or_concat members with rfl | ⟨front, last, rfl⟩
  · rfl
  · simp [withComma]

/-- The lifetimes as they stand in front, the last one with a comma if others follow. -/
def leading (members : AngleList) : AngleList :=
  if members.others.isEmpty then members.lifetimes else members.lifetimes.withComma

/-- The members in canonical order. -/
def arranged (members : AngleList) : AngleList :=
  members.leading ++ members.others

theorem inOrder_arranged (members : AngleList) :
    members.arranged.inOrder = members.lifetimesFirst := by
  by_cases none : members.others.isEmpty
  · simp [arranged, leading, lifetimesFirst, joint, none]
  · simp [arranged, leading, lifetimesFirst, joint, none, inOrder_withComma]

theorem isLifetime_of_mem_leading {member : AngleMember} (found : member ∈ members.leading) :
    member.isLifetime = true := by
  have each : ∀ member ∈ members.lifetimes, member.isLifetime = true :=
    fun member found => (List.mem_filter.mp found).2
  unfold leading at found
  split at found
  · exact each _ found
  · exact forall_mem_withComma (fun _ => id) each _ found

theorem isLifetime_of_mem_others {member : AngleMember} (found : member ∈ members.others) :
    member.isLifetime = false := by
  simpa using (List.mem_filter.mp found).2

/-- What is true of members whether or not a comma is behind them stays true in canonical order. -/
theorem forall_mem_arranged {condition : AngleMember → Prop}
    (indifferent : ∀ member, condition member → condition { member with hasComma := true })
    (each : ∀ member ∈ members, condition member) :
    ∀ member ∈ members.arranged, condition member := by
  have eachLifetime : ∀ member ∈ members.lifetimes, condition member :=
    fun member found => each member (List.mem_filter.mp found).1
  intro member found
  rcases List.mem_append.mp found with first | other
  · unfold leading at first
    split at first
    · exact eachLifetime member first
    · exact forall_mem_withComma indifferent eachLifetime member first
  · exact each member (List.mem_filter.mp other).1

/-- A comma stands behind every member that has another one behind it. -/
def IsSeparated (members : AngleList) : Prop :=
  members.Pairwise fun member _ => member.hasComma = true

theorem IsSeparated.hasComma_of_mem_withComma (separated : members.IsSeparated)
    {member : AngleMember} (found : member ∈ members.withComma) : member.hasComma = true := by
  rcases List.eq_nil_or_concat members with rfl | ⟨front, last, rfl⟩
  · simp [withComma] at found
  · rw [List.concat_eq_append, IsSeparated, List.pairwise_append] at separated
    have before : ∀ member ∈ front, member.hasComma = true := by simpa using separated.2.2
    rw [List.concat_eq_append, withComma] at found
    simp only [List.dropLast_concat, List.getLast?_concat, Option.toList_some, List.map_cons,
      List.map_nil, List.mem_append, List.mem_singleton] at found
    rcases found with inFront | rfl
    · exact before member inFront
    · rfl

/-- Canonical order keeps a list's members separate. -/
theorem IsSeparated.arranged (separated : members.IsSeparated) : members.arranged.IsSeparated := by
  have lifetimes : members.lifetimes.IsSeparated := separated.filter _
  have others : members.others.IsSeparated := separated.filter _
  unfold AngleList.arranged leading
  split
  · rename_i none
    rwa [List.isEmpty_iff.mp none, List.append_nil]
  · have commas : ∀ member ∈ members.lifetimes.withComma, member.hasComma = true :=
      fun _ => lifetimes.hasComma_of_mem_withComma
    refine List.pairwise_append.mpr ⟨?_, others, fun member found _ _ => commas member found⟩
    exact List.pairwise_of_forall_mem_list fun member found _ _ => commas member found

@[simp]
theorem lifetimes_arranged (members : AngleList) :
    members.arranged.lifetimes = members.leading := by
  have front : members.leading.filter AngleMember.isLifetime = members.leading :=
    List.filter_eq_self.mpr fun _ => isLifetime_of_mem_leading
  have back : members.others.filter AngleMember.isLifetime = [] :=
    List.filter_eq_nil_iff.mpr fun _ found => by simp [isLifetime_of_mem_others found]
  rw [arranged, lifetimes, List.filter_append, front, back, List.append_nil]

@[simp]
theorem others_arranged (members : AngleList) : members.arranged.others = members.others := by
  have front : members.leading.filter (fun member => !member.isLifetime) = [] :=
    List.filter_eq_nil_iff.mpr fun _ found => by simp [isLifetime_of_mem_leading found]
  have back : members.others.filter (fun member => !member.isLifetime) = members.others :=
    List.filter_eq_self.mpr fun _ found => by simp [isLifetime_of_mem_others found]
  rw [arranged, others, List.filter_append, front, List.nil_append]
  exact back

theorem joint_arranged (members : AngleList) : members.arranged.joint = [] := by
  rw [joint, others_arranged, lifetimes_arranged, leading]
  by_cases none : members.others.isEmpty
  · simp [none]
  · simp [none, all_hasComma_getLast?_withComma]

/-- A list in canonical order is left as it is. -/
theorem lifetimesFirst_arranged (members : AngleList) :
    members.arranged.lifetimesFirst = members.arranged.inOrder := by
  refine lifetimesFirst_of_sorted ?_ (joint_arranged members)
  rw [lifetimes_arranged, others_arranged, arranged]

end AngleList

end SqlBuilder

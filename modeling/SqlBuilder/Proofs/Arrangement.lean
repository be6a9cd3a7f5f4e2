import Mathlib.Data.List.Perm.Subperm
import SqlBuilder.Proofs.CanonicalParts

/-!
# Lexemes in another arrangement

Canonical form changes the lexemes of a type in a few ways only.  `Arranges` lists
them: each is a step that any part of the lexemes may take, and steps follow each
other.

Whatever the steps, no name, lifetime, literal or bracket comes to stand there
more often than it is written (`Arranges.kept_subperm`).  Where there are neither
attributes nor words on visibility, none of them gets lost either: they are those
that are written, perhaps in another order (`Arranges.kept_perm`).
-/

namespace SqlBuilder

namespace Lexeme

/-- Lexemes of a type, and how canonical form may arrange them. -/
inductive Arranges : List Lexeme → List Lexeme → Prop where
  | refl (lexemes : List Lexeme) : Arranges lexemes lexemes
  | trans {first second third : List Lexeme} :
      Arranges first second → Arranges second third → Arranges first third
  | append {front front' back back' : List Lexeme} :
      Arranges front front' → Arranges back back' → Arranges (front ++ back) (front' ++ back')
  /-- A gap behind a mark does not matter. -/
  | gap (symbol : Char) (joined joined' : Bool) :
      Arranges [.mark symbol joined] [.mark symbol joined']
  /-- A colon without bounds is left out, and so are colons in front of a function's types. -/
  | colon (joined : Bool) : Arranges [.mark ':' joined] []
  /-- Empty angle brackets are left out. -/
  | angles (joined joined' : Bool) : Arranges [.mark '<' joined, .mark '>' joined'] []
  /-- The word in front of conditions is left out if there are none. -/
  | condition : Arranges [.word "where"] []
  /-- A variant has no visibility. -/
  | visibility : Arranges [.word "pub"] []
  | restriction (bracket : Bracket) (inner : List Lexeme) (bracket' : Bracket) :
      Arranges (.word "pub" :: .opening bracket :: (inner ++ [.closing bracket'])) []
  /-- A statement loses the attributes in front of an expression that stays as it is written. -/
  | attribution (joined : Bool) (inner : List Lexeme) (bracket : Bracket) :
      Arranges (.mark '#' joined :: (inner ++ [.closing bracket])) []
  /-- Lifetimes stand first between angle brackets. -/
  | lifetimes (joined joined' : Bool) (members : AngleList) :
      Arranges (.mark '<' joined :: (members.inOrder ++ [.mark '>' joined']))
        (.mark '<' joined :: (members.lifetimesFirst ++ [.mark '>' joined']))
  /-- The mark that relaxes a bound stands in front of the lifetimes it is stated for. -/
  | relaxation (stated : List Lexeme) (joined : Bool) :
      Arranges (stated ++ [.mark '?' joined]) (.mark '?' joined :: stated)
  /-- Three points are two and an equals sign. -/
  | range (joined : Bool) :
      Arranges [.mark '.' true, .mark '.' true, .mark '.' joined]
        [.mark '.' true, .mark '.' true, .mark '=' false]
  /-- The position of a tuple's member is a plain decimal number. -/
  | position (source : String) :
      Arranges [.literal source] [Member.lexeme (.literal source)]
  /-- A binding that has a type only gets the name that stands for none. -/
  | unnamed : Arranges [] [.word "_", .mark ':' false]

attribute [simp] Arranges.refl

/-- Lexemes that stay what they are: all but marks and the words that come and go. -/
def IsKept : Lexeme → Prop
  | .word name => name ∉ ["_", "pub", "where"]
  | .mark _ _ => False
  | _ => True

instance IsKept.decidable : DecidablePred IsKept
  | .word name => inferInstanceAs (Decidable (name ∉ ["_", "pub", "where"]))
  | .mark _ _ => inferInstanceAs (Decidable False)
  | .lifetime _ => inferInstanceAs (Decidable True)
  | .literal _ => inferInstanceAs (Decidable True)
  | .opening _ => inferInstanceAs (Decidable True)
  | .closing _ => inferInstanceAs (Decidable True)

/-- The lexemes that stay what they are, positions in canonical form. -/
def kept (lexemes : List Lexeme) : List Lexeme :=
  (lexemes.map Member.lexeme).filter fun lexeme => IsKept lexeme

/-- A lexeme that opens a part which may be left out: an attribute, or a visibility. -/
def OpensOmitted : Lexeme → Prop
  | .word name => name = "pub"
  | .mark symbol _ => symbol = '#'
  | _ => False

variable {lexeme : Lexeme} {lexemes arranged front back : List Lexeme}

@[simp]
theorem kept_nil : kept [] = [] := rfl

@[simp]
theorem kept_append (front back : List Lexeme) :
    kept (front ++ back) = kept front ++ kept back := by
  simp [kept]

@[simp]
theorem kept_mark (symbol : Char) (joined : Bool) (rest : List Lexeme) :
    kept (.mark symbol joined :: rest) = kept rest := by
  have not : ¬ IsKept (.mark symbol joined) := id
  simp [kept, Member.lexeme, not]

theorem kept_perm (same : lexemes.Perm arranged) : (kept lexemes).Perm (kept arranged) :=
  (same.map _).filter _

end Lexeme

namespace AngleList

open Lexeme

/-- Canonical order keeps what stays what it is. -/
theorem kept_lifetimesFirst (members : AngleList) :
    (kept members.lifetimesFirst).Perm (kept members.inOrder) := by
  have joint : kept members.joint = [] := by
    unfold joint
    split <;> rfl
  simpa [joint] using kept_perm (lifetimesFirst_perm members)

/-- Canonical order adds nothing but a comma. -/
theorem mem_lifetimesFirst {members : AngleList} {lexeme : Lexeme}
    (found : lexeme ∈ members.lifetimesFirst) :
    lexeme ∈ members.inOrder ∨ lexeme = comma := by
  rcases List.mem_append.mp ((lifetimesFirst_perm members).mem_iff.mp found) with member | added
  · exact .inl member
  · unfold joint at added
    split at added
    · simp at added
    · exact .inr (List.mem_singleton.mp added)

end AngleList

namespace Lexeme

namespace Arranges

variable {lexemes arranged : List Lexeme}

/-- Nothing comes to stand there more often than it is written. -/
theorem kept_subperm (arranges : Arranges lexemes arranged) :
    (kept arranged).Subperm (kept lexemes) := by
  induction arranges with
  | refl => exact .refl _
  | trans _ _ first second => exact second.trans first
  | append _ _ front back => simpa using front.append back
  | gap => simp
  | colon => exact List.nil_subperm
  | angles => exact List.nil_subperm
  | condition => exact List.nil_subperm
  | visibility => exact List.nil_subperm
  | restriction => exact List.nil_subperm
  | attribution => exact List.nil_subperm
  | lifetimes _ _ members => simpa using (members.kept_lifetimesFirst).subperm
  | relaxation => simpa using List.Subperm.refl _
  | range => simp
  | position => simpa [kept] using List.Subperm.refl _
  | unnamed => exact .refl _

/-- No attribute and no visibility comes from elsewhere. -/
theorem not_opensOmitted (arranges : Arranges lexemes arranged)
    (none : ∀ lexeme ∈ lexemes, ¬ OpensOmitted lexeme) :
    ∀ lexeme ∈ arranged, ¬ OpensOmitted lexeme := by
  induction arranges with
  | refl => exact none
  | trans _ _ first second => exact second (first none)
  | append _ _ front back =>
      simp only [List.mem_append, or_imp, forall_and] at none ⊢
      exact ⟨front none.1, back none.2⟩
  | gap => simpa [OpensOmitted] using none
  | colon => simp
  | angles => simp
  | condition => simp
  | visibility => simp
  | restriction => simp
  | attribution => simp
  | lifetimes _ _ members =>
      simp only [List.mem_cons, List.mem_append, or_imp, forall_and] at none ⊢
      refine ⟨none.1, fun lexeme found => ?_, none.2.2⟩
      rcases AngleList.mem_lifetimesFirst found with member | rfl
      · exact none.2.1 lexeme member
      · simp [OpensOmitted, comma]
  | relaxation => simpa [OpensOmitted, or_imp, forall_and] using none
  | range => simp [OpensOmitted]
  | position => simp [OpensOmitted, Member.lexeme]
  | unnamed => simp [OpensOmitted]

/-- Without attributes and visibilities everything that stays what it is stays there. -/
theorem kept_perm (arranges : Arranges lexemes arranged)
    (none : ∀ lexeme ∈ lexemes, ¬ OpensOmitted lexeme) :
    (kept arranged).Perm (kept lexemes) := by
  induction arranges with
  | refl => exact .refl _
  | trans first _ one two => exact (two (first.not_opensOmitted none)).trans (one none)
  | append _ _ front back =>
      simp only [List.mem_append, or_imp, forall_and] at none
      simpa using (front none.1).append (back none.2)
  | gap => simp
  | colon => exact .refl _
  | angles => exact .refl _
  | condition => exact .refl _
  | visibility => simp [OpensOmitted] at none
  | restriction => simp [OpensOmitted] at none
  | attribution => simp [OpensOmitted] at none
  | lifetimes _ _ members => simpa using members.kept_lifetimesFirst
  | relaxation => simp
  | range => exact .refl _
  | position => simp [kept]
  | unnamed => exact .refl _

end Arranges

end Lexeme

end SqlBuilder

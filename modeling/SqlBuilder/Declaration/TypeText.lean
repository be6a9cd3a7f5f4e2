import SqlBuilder.Declaration.Arrange
import SqlBuilder.Declaration.Lexer

/-!
# The text of a type

The type of a declared field is known by its text.  The canonical text is that
of its lexemes in canonical form, without gaps between them and without white
space within them.  Text that has no lexemes only loses its blanks.
-/

namespace SqlBuilder

/-- The canonical text of a type. -/
def canonicalType (source : Text) : Text :=
  match Lexeme.ofText? source with
  | some lexemes =>
      (Lexeme.spelled (Arrange.typeLexemes lexemes)).filter fun c => ¬IsSpace c
  | none => source.filter fun c => ¬IsBlank c

/-- No white space is left in the canonical text of a type. -/
theorem not_isSpace_of_mem_canonicalType {source : Text} {c : Char}
    (member : c ∈ canonicalType source) : ¬IsSpace c := by
  unfold canonicalType at member
  split at member
  · simpa using (List.mem_filter.mp member).2
  · have notBlank : ¬IsBlank c := by simpa using (List.mem_filter.mp member).2
    exact fun space => notBlank (Or.inl space)

end SqlBuilder

/-!
# Keywords of declarations

The words that the language of declarations keeps for itself, so that they
cannot stand as names.
-/

namespace SqlBuilder

/-- The words that the language of declarations keeps for itself. -/
def declarationKeywords : List String :=
  ["_", "abstract", "as", "async", "await", "become", "box", "break", "const",
    "continue", "crate", "do", "dyn", "else", "enum", "extern", "false", "final",
    "fn", "for", "if", "impl", "in", "let", "loop", "macro", "match", "mod",
    "move", "mut", "override", "priv", "pub", "ref", "return", "Self", "self",
    "static", "struct", "super", "trait", "true", "try", "type", "typeof",
    "unsafe", "unsized", "use", "virtual", "where", "while", "yield"]

/-- The keywords that may open a path. -/
def pathKeywords : List String :=
  ["Self", "crate", "self", "super", "try"]

/-- The keywords that end a value. -/
def valueKeywords : List String :=
  ["Self", "_", "await", "continue", "crate", "false", "self", "super", "true"]

/-- The keywords of a statement that is no more than a block behind one of them. -/
def blockKeywords : List String :=
  ["const", "loop", "try", "unsafe"]

/-- A word that may stand as a name. -/
def IsName (word : String) : Prop := word ∉ declarationKeywords

instance IsName.decidable (word : String) : Decidable (IsName word) :=
  inferInstanceAs (Decidable (word ∉ declarationKeywords))

/-- A word that may open a path. -/
def OpensPath (word : String) : Prop := IsName word ∨ word ∈ pathKeywords

instance OpensPath.decidable (word : String) : Decidable (OpensPath word) :=
  inferInstanceAs (Decidable (IsName word ∨ word ∈ pathKeywords))

/-- A word that ends a value, so that an operator may follow. -/
def EndsValue (word : String) : Prop := IsName word ∨ word ∈ valueKeywords

instance EndsValue.decidable (word : String) : Decidable (EndsValue word) :=
  inferInstanceAs (Decidable (IsName word ∨ word ∈ valueKeywords))

end SqlBuilder

import SqlBuilder.Text

/-!
# Reserved words

A reserved word of the dialect cannot stand as a bare identifier, in whatever
letter case it is written.
-/

namespace SqlBuilder

/-- The reserved words, in alphabetical order and upper case. -/
def reservedWords : List String :=
  ["ALL", "AND", "ANY", "ARRAY", "AS", "ASC", "ASSERT_ROWS_MODIFIED", "AT",
    "BETWEEN", "BY",
    "CASE", "CAST", "COLLATE", "CONTAINS", "CREATE", "CROSS", "CUBE", "CURRENT",
    "DEFAULT", "DEFINE", "DESC", "DISTINCT",
    "ELSE", "END", "ENUM", "ESCAPE", "EXCEPT", "EXCLUDE", "EXISTS", "EXTRACT",
    "FALSE", "FETCH", "FOLLOWING", "FOR", "FROM", "FULL",
    "GROUP", "GROUPING", "GROUPS",
    "HASH", "HAVING",
    "IF", "IGNORE", "IN", "INNER", "INTERSECT", "INTERVAL", "INTO", "IS",
    "JOIN",
    "LATERAL", "LEFT", "LIKE", "LIMIT", "LOOKUP",
    "MERGE",
    "NATURAL", "NEW", "NO", "NOT", "NULL", "NULLS",
    "OF", "ON", "OR", "ORDER", "OUTER", "OVER",
    "PARTITION", "PRECEDING", "PROTO",
    "RANGE", "RECURSIVE", "RESPECT", "RIGHT", "ROLLUP", "ROWS",
    "SELECT", "SET", "SOME", "STRUCT",
    "TABLESAMPLE", "THEN", "TO", "TREAT", "TRUE",
    "UNBOUNDED", "UNION", "UNNEST", "USING",
    "WHEN", "WHERE", "WINDOW", "WITH", "WITHIN"]

/-- A name is reserved when some reserved word agrees with it up to ASCII letter case. -/
def IsReserved (name : String) : Prop :=
  ∃ word ∈ reservedWords, SameName word name

instance IsReserved.decidable (name : String) : Decidable (IsReserved name) :=
  inferInstanceAs (Decidable (∃ word ∈ reservedWords, SameName word name))

end SqlBuilder

import SqlBuilder.Program

/-!
# Log events

Turning a draft into SQL leaves one debug event.  It holds the kind of statement
and either the SQL, cut to a limit of bytes, or the error.
-/

namespace SqlBuilder

/--
The last boundary between two characters that stands at most `bytes` bytes into a
text.  It is looked for from there backwards, one byte at a time; in front of the
first character there always is one.
-/
def boundaryWithin (text : String) : Nat → text.Pos
  | 0 => text.startPos
  | bytes + 1 =>
      if boundary : String.Pos.Raw.IsValid text ⟨bytes + 1⟩ then
        text.pos ⟨bytes + 1⟩ boundary
      else
        boundaryWithin text bytes

/--
A text of at most `limit` bytes as it is.  A longer one is cut between two
characters, at the limit or just before it, and ends with three dots.
-/
def truncateBytes (limit : Nat) (text : String) : String :=
  if text.utf8ByteSize ≤ limit then
    text
  else
    (text.sliceTo (boundaryWithin text limit)).copy ++ "..."

/-- What came of turning a draft into SQL, as it is logged. -/
inductive LogEntry where
  | rendered (sql : String)
  | rejected (error : String)
deriving DecidableEq

/-- A debug event: a kind of statement and what came of it. -/
structure LogEvent where
  statement : StatementKind
  entry : LogEntry
deriving DecidableEq

namespace LogEvent

/-- The most bytes of SQL that an event holds. -/
def sqlLimit : Nat := 200

/-- The message of an event about an error. -/
def rejection : String := "statement rejected"

/-- The event for an outcome. -/
def ofOutcome (kind : StatementKind) : Outcome String → LogEvent
  | .ok sql => ⟨kind, .rendered (truncateBytes sqlLimit sql)⟩
  | .error error => ⟨kind, .rejected error.message⟩

end LogEvent

/-- The event that turning a draft into SQL leaves. -/
def Draft.logEvent (draft : Draft) : LogEvent :=
  .ofOutcome draft.kind draft.toSql

end SqlBuilder

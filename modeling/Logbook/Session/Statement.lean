/-
Log statements.  A statement in a program stands behind a guard, names a logger or uses the
shared one, and makes its message only when the logger takes its level.  The shared logger is
asked for only behind the guard, so a statement that is held back creates no fallback.
-/
import Logbook.Session.Drafting

namespace Logbook

structure Statement where
  guard : Guard
  /-- The logger, unless it is the shared one. -/
  logger : Option LoggerId
  level : Level
  message : String
  location : Location

namespace Session

def loggerOf (statement : Statement) : Effect Session LoggerId :=
  match statement.logger with
  | some id => pure id
  | none => modifyGet shared

/-- Logs a message with a logger and tells whether the message had to be made. -/
def logMade (id : LoggerId) (statement : Statement) : Effect Session Bool := do
  match (← get).loggers[id]? with
  | none => return false
  | some logger =>
      let draft := Draft.start logger statement.level (some statement.location)
      finish ⟨id, draft.push statement.message⟩
      return draft.active

/-- Runs a statement and tells whether its message had to be made. -/
def runStatement (statement : Statement) : Effect Session Bool := do
  let opens ← modifyGet fun session =>
    let (opens, gates) := session.gates.visit statement.guard
    (opens, { session with gates })
  if opens then logMade (← loggerOf statement) statement else return false

/-- Runs a statement again and again and counts how often its message had to be made. -/
def runStatements (statement : Statement) : Nat → Effect Session Nat
  | 0 => return 0
  | n + 1 => do
      let made ← runStatement statement
      return made.toNat + (← runStatements statement n)

end Session

end Logbook

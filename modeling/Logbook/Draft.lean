/-
Drafts.  A draft gathers the text of one call piece by piece and makes the call when it ends.
Whether it gathers at all is decided when it is begun, from the threshold at that moment; the
threshold is asked again when the call is made.
-/
import Logbook.Logger

namespace Logbook

/-- A message in the making. -/
structure Draft where
  level : Level
  location : Option Location
  active : Bool
  text : String := ""
  deriving DecidableEq, Repr

namespace Draft

variable {C T : Type}

def start (logger : Logger C T) (level : Level) (location : Option Location) : Draft where
  level := level
  location := location
  active := logger.enabled level

/-- Adds a text, unless the draft is not active. -/
def push (draft : Draft) (text : String) : Draft :=
  if draft.active then { draft with text := draft.text ++ text } else draft

/-- The call that the end of a draft makes, if it makes any. -/
def call? (draft : Draft) : Option Call :=
  if draft.active && !draft.text.isEmpty then some ⟨draft.level, draft.text, draft.location⟩
  else none

def description (draft : Draft) : String :=
  "LogStream \x7b level: " ++ draft.level.variantName ++ ", active: " ++
    toString draft.active ++ ", buf: " ++ Text.quoted draft.text ++ " \x7d"

end Draft

/-- A value that can be added to a draft. -/
inductive Fragment where
  | text (s : String)
  | boolean (b : Bool)
  | integer (i : Int)
  | double (x : Binary)
  | single (x : Binary)
  | char (c : Char)
  | level (l : Level)

def Fragment.render : Fragment → String
  | .text s => s
  | .boolean b => toString b
  | .integer i => toString i
  | .double x => x.text .double .bare
  | .single x => x.text .single .bare
  | .char c => c.toString
  | .level l => l.name

end Logbook

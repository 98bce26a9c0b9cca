/-
Drafts of a session.  A draft has a name and keeps the logger it is for; when it ends, it makes
its call to that logger, whatever became of the handles.
-/
import Logbook.Session

namespace Logbook.Session

/-- Makes the call at the end of a draft. -/
def finish (draft : OpenDraft) : Effect Session Unit :=
  match draft.draft.call? with
  | some call => log draft.logger call
  | none => pure ()

/-- Keeps a draft under a name.  A draft that had the name ends. -/
def keepDraft (name : String) (draft : OpenDraft) : Effect Session Unit := do
  let old := (← get).drafts.get? name
  modify fun session => { session with drafts := session.drafts.put name draft }
  match old with
  | some old => finish old
  | none => pure ()

def begin (name : String) (id : LoggerId) (level : Level) (location : Option Location) :
    Effect Session Unit := do
  match (← get).loggers[id]? with
  | some logger => keepDraft name ⟨id, .start logger level location⟩
  | none => pure ()

def extend (name : String) (texts : List String) (session : Session) : Session :=
  match session.drafts.get? name with
  | some draft =>
      let extended := { draft with draft := texts.foldl Draft.push draft.draft }
      { session with drafts := session.drafts.put name extended }
  | none => session

/-- Takes a draft away from its name. -/
def takeDraft (name : String) : Effect Session (Option OpenDraft) := do
  let session ← get
  set { session with drafts := session.drafts.filter (·.1 != name) }
  return session.drafts.get? name

def rename (name other : String) : Effect Session Unit := do
  match ← takeDraft name with
  | some draft => keepDraft other draft
  | none => pure ()

def endDraft (name : String) : Effect Session Unit := do
  match ← takeDraft name with
  | some draft => finish draft
  | none => pure ()

/-- Ends drafts in order.  A fault in one does not keep the others open. -/
def endDrafts (names : List String) : Effect Session Unit :=
  Effect.forAll names endDraft

end Logbook.Session

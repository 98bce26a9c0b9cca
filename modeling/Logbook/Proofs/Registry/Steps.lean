/-
What a turn of a thread that shares the registry can do.  `Acts` lists the steps of all requests:
which mark is noted at a stage, the stage behind it, and what becomes of the session.  A stage
tells whether its thread has the lock, so of the threads that are in the middle of a change no two
are there at once.  Main statement: `turned_turn`, a turn that is not wasted is one such step of
one thread.
-/
import Logbook.Proofs.Registry.Threads

namespace Logbook

variable {Name : Type}

namespace Registry

namespace Mark

def ticket : Registry.Mark Name → Name × Nat
  | .began ticket _ => ticket
  | .locked ticket => ticket
  | .placed ticket _ => ticket
  | .flagged ticket _ => ticket
  | .found ticket _ => ticket
  | .missed ticket => ticket
  | .made ticket _ => ticket
  | .loaded ticket _ => ticket
  | .unlocked ticket => ticket
  | .ended ticket _ => ticket

/-- What a mark is to the call that it belongs to.  A change takes effect when the flag is set: the
slot was filled before, but nobody could look. -/
def moment? : Registry.Mark Name → Option (Moment (Name × Nat) Request Answer)
  | .began ticket request => some (.began ticket request)
  | .flagged ticket plan => some (.took ticket (.change plan) .done)
  | .found ticket id => some (.took ticket .shared (.handle id))
  | .made ticket id => some (.took ticket .shared (.handle id))
  | .loaded ticket initialized => some (.took ticket .initialized (.flag initialized))
  | .ended ticket answer => some (.ended ticket answer)
  | _ => none

/-- The request that was begun. -/
def begun? : Registry.Mark Name → Option Request
  | .began _ request => some request
  | _ => none

end Mark

namespace Stage

/-- How far the call of a thread has come. -/
def standing : Stage → Standing Request Answer
  | .idle => .idle
  | .begun request => .pending request
  | .placing plan => .pending (.change plan)
  | .flagging plan => .pending (.change plan)
  | .looking => .pending .shared
  | .leaving (some id) => .answered (.handle id)
  | .leaving none => .pending .shared
  | .missing => .pending .shared
  | .filling => .pending .shared
  | .unlocking answer => .answered answer
  | .returning answer => .answered answer

/-- A thread at this stage has the lock for writing. -/
def writes : Stage → Bool
  | .placing _ => true
  | .flagging _ => true
  | .filling => true
  | .unlocking _ => true
  | _ => false

/-- A thread at this stage has the lock for reading. -/
def reads : Stage → Bool
  | .looking => true
  | .leaving _ => true
  | _ => false

end Stage

/-- What a thread may do with a session: the stage it is at, the mark of its turn, the stage behind
the turn, and the session after it. -/
inductive Acts (session : Session) (ticket : Name × Nat) :
    Stage → Registry.Mark Name → Stage → Session → Prop where
  | began (request : Request) :
      Acts session ticket .idle (.began ticket request) (.begun request) session
  | lockedToPlace (plan : Option SessionPlan) :
      Acts session ticket (.begun (.change plan)) (.locked ticket) (.placing plan) session
  | lockedToLook : Acts session ticket (.begun .shared) (.locked ticket) .looking session
  | loaded :
      Acts session ticket (.begun .initialized) (.loaded ticket session.registry.initialized)
        (.returning (.flag session.registry.initialized)) session
  | placed (plan : Option SessionPlan) :
      Acts session ticket (.placing plan)
        (.placed ticket (place session plan).registry.current) (.flagging plan)
        (place session plan)
  | flagged (plan : Option SessionPlan) :
      Acts session ticket (.flagging plan) (.flagged ticket plan) (.unlocking .done)
        (setInitialized session plan.isSome)
  | found (id : LoggerId) (h : session.registry.current = some id) :
      Acts session ticket .looking (.found ticket id) (.leaving (some id)) session
  | missed (h : session.registry.current = none) :
      Acts session ticket .looking (.missed ticket) (.leaving none) session
  | leftWith (id : LoggerId) :
      Acts session ticket (.leaving (some id)) (.unlocked ticket) (.returning (.handle id)) session
  | leftWithout : Acts session ticket (.leaving none) (.unlocked ticket) .missing session
  | lockedToFill : Acts session ticket .missing (.locked ticket) .filling session
  | foundAgain (id : LoggerId) (h : session.registry.current = some id) :
      Acts session ticket .filling (.found ticket id) (.unlocking (.handle id)) session
  | made (h : session.registry.current = none) :
      Acts session ticket .filling (.made ticket session.shared.1)
        (.unlocking (.handle session.shared.1)) session.shared.2
  | unlocked (answer : Answer) :
      Acts session ticket (.unlocking answer) (.unlocked ticket) (.returning answer) session
  | ended (answer : Answer) :
      Acts session ticket (.returning answer) (.ended ticket answer) .idle session

namespace Acts

variable {session session' : Session} {ticket : Name × Nat} {before after : Stage}
  {mark : Registry.Mark Name}

theorem ticket_eq (h : Acts session ticket before mark after session') : mark.ticket = ticket := by
  cases h <;> rfl

/-- A call begins, takes effect once and ends, one after the other. -/
theorem moves (h : Acts session ticket before mark after session') :
    Standing.Moves ticket before.standing mark.moment? after.standing := by
  cases h with
  | began request => exact .began request
  | loaded => exact .took _ _
  | flagged plan => exact .took _ _
  | found id hcurrent => exact .took _ _
  | foundAgain id hcurrent => exact .took _ _
  | made hcurrent => exact .took _ _
  | ended answer => exact .ended answer
  | _ => exact .quiet _

end Acts

end Registry

namespace SharedRegistry

open Registry

/-- The threads that act as if they had the lock have it, and nobody reads while one writes. -/
structure Locked (s : SharedRegistry Name) : Prop where
  writes : ∀ name, (s.callers name).stage.writes = true ↔ s.writer = some name
  reads : ∀ name, (s.callers name).stage.reads = true → name ∈ s.readers
  apart : ∀ name, s.writer = some name → s.readers = []

theorem locked_begin (programs : Name → List Request) (session : Session) :
    (begin programs session).Locked where
  writes name := by simp [begin, Stage.writes]
  reads name h := by simp [begin, Stage.reads] at h
  apart name h := rfl

variable [DecidableEq Name]

/-- A thread moves on, and takes or gives back the lock as its stage says. -/
theorem Locked.put {s : SharedRegistry Name} (hs : s.Locked) {session : Session}
    {writer : Option Name} {readers : List Name} {name : Name} {caller : Caller}
    {mark : Registry.Mark Name}
    (hwriter : ∀ other, other ≠ name → (writer = some other ↔ s.writer = some other))
    (hreaders : ∀ other, other ≠ name → other ∈ s.readers → other ∈ readers)
    (hwrites : caller.stage.writes = true ↔ writer = some name)
    (hreads : caller.stage.reads = true → name ∈ readers)
    (hapart : ∀ other, writer = some other → readers = []) :
    ({ s with session, writer, readers }.put name caller mark).Locked where
  writes other := by
    by_cases hother : other = name
    · subst hother
      simpa [SharedRegistry.put] using hwrites
    · simp only [SharedRegistry.put, Function.update_of_ne hother]
      exact (hs.writes other).trans (hwriter other hother).symm
  reads other h := by
    by_cases hother : other = name
    · subst hother
      exact hreads (by simpa [SharedRegistry.put] using h)
    · simp only [SharedRegistry.put, Function.update_of_ne hother] at h
      exact hreaders other hother (hs.reads other h)
  apart := hapart

/-- A thread that neither takes the lock nor gives it back. -/
theorem Locked.keep {s : SharedRegistry Name} (hs : s.Locked) {session : Session} {name : Name}
    {caller : Caller} {mark : Registry.Mark Name}
    (hwrites : caller.stage.writes = (s.callers name).stage.writes)
    (hreads : caller.stage.reads = (s.callers name).stage.reads) :
    ({ s with session }.put name caller mark).Locked := by
  refine hs.put (fun _ _ => Iff.rfl) (fun _ _ h => h) ?_ ?_ hs.apart
  · rw [hwrites]
    exact hs.writes name
  · rw [hreads]
    exact hs.reads name

/-- A turn that was not wasted: what the thread did, and what it left alone. -/
structure Turned (s : SharedRegistry Name) (name : Name) (mark : Registry.Mark Name)
    (s' : SharedRegistry Name) : Prop where
  acts : Acts s.session (s.ticket name) (s.callers name).stage mark (s'.callers name).stage
    s'.session
  history : s'.history = s.history ++ [mark]
  others : ∀ other, other ≠ name → s'.callers other = s.callers other
  ended : (s'.callers name).ended =
    (s.callers name).ended + (mark.moment?.any Moment.isEnd).toNat
  todo : mark.begun?.toList ++ (s'.callers name).todo = (s.callers name).todo
  locked : s'.Locked

theorem turned_of_put {s : SharedRegistry Name} {name : Name} {caller : Caller}
    {mark : Registry.Mark Name} {session : Session} {writer : Option Name} {readers : List Name}
    (hacts : Acts s.session (s.ticket name) (s.callers name).stage mark caller.stage session)
    (hended : caller.ended = (s.callers name).ended + (mark.moment?.any Moment.isEnd).toNat)
    (htodo : mark.begun?.toList ++ caller.todo = (s.callers name).todo)
    (hlocked : ({ s with session, writer, readers }.put name caller mark).Locked) :
    Turned s name mark ({ s with session, writer, readers }.put name caller mark) where
  acts := by simpa [put] using hacts
  history := rfl
  others other hother := by simp [put, Function.update_of_ne hother]
  ended := by simpa [put] using hended
  todo := by simpa [put] using htodo
  locked := hlocked

/-- A thread that keeps its hands off the lock. -/
theorem turned_of_go {s : SharedRegistry Name} (hs : s.Locked) {name : Name} {stage : Stage}
    {mark : Registry.Mark Name} {session : Session}
    (hacts : Acts s.session (s.ticket name) (s.callers name).stage mark stage session)
    (hmark : mark.moment?.any Moment.isEnd = false ∧ mark.begun? = none)
    (hstage : stage.writes = (s.callers name).stage.writes ∧
      stage.reads = (s.callers name).stage.reads) :
    Turned s name mark ({ s with session }.go name stage mark) := by
  refine turned_of_put hacts ?_ ?_ (hs.keep hstage.1 hstage.2)
  · simp [hmark.1]
  · simp [hmark.2]

theorem turned_of_lockToWrite {s : SharedRegistry Name} (hs : s.Locked) {name : Name}
    {stage : Stage}
    (hacts : Acts s.session (s.ticket name) (s.callers name).stage (.locked (s.ticket name)) stage
      s.session)
    (hwrites : stage.writes = true) (hreads : stage.reads = false) :
    s.lockToWrite name stage = s ∨
      Turned s name (.locked (s.ticket name)) (s.lockToWrite name stage) := by
  unfold lockToWrite
  split
  case h_1 hwriter hreaders =>
    refine Or.inr (turned_of_put hacts rfl rfl (hs.put ?_ ?_ ?_ ?_ ?_))
    · intro other hother
      simp [hwriter, Ne.symm hother]
    · intro other hother h
      exact h
    · simp [hwrites]
    · simp [hreads]
    · intro other hother
      exact hreaders
  case h_2 => exact Or.inl rfl

theorem turned_of_lockToRead {s : SharedRegistry Name} (hs : s.Locked) {name : Name}
    {stage : Stage}
    (hacts : Acts s.session (s.ticket name) (s.callers name).stage (.locked (s.ticket name)) stage
      s.session)
    (hwrites : stage.writes = false) :
    s.lockToRead name stage = s ∨
      Turned s name (.locked (s.ticket name)) (s.lockToRead name stage) := by
  unfold lockToRead
  split
  case h_1 hwriter =>
    refine Or.inr (turned_of_put hacts rfl rfl (hs.put ?_ ?_ ?_ ?_ ?_))
    · intro other hother
      exact Iff.rfl
    · intro other hother h
      exact List.mem_cons_of_mem _ h
    · simp [hwrites, hwriter]
    · intro hreads
      exact List.mem_cons_self
    · intro other hother
      simp [hwriter] at hother
  case h_2 => exact Or.inl rfl

/-- A thread that had the lock for reading and gives it back. -/
theorem turned_of_leaving {s : SharedRegistry Name} (hs : s.Locked) {name : Name} {stage : Stage}
    (hacts : Acts s.session (s.ticket name) (s.callers name).stage (.unlocked (s.ticket name))
      stage s.session)
    (hreading : (s.callers name).stage.reads = true)
    (hstage : stage.writes = false ∧ stage.reads = false) :
    Turned s name (.unlocked (s.ticket name))
      ({ s with readers := s.readers.erase name }.go name stage (.unlocked (s.ticket name))) := by
  have hwriter : ∀ other, s.writer ≠ some other := by
    intro other hother
    have hmem := hs.reads name hreading
    simp [hs.apart other hother] at hmem
  refine turned_of_put hacts rfl rfl (hs.put ?_ ?_ ?_ ?_ ?_)
  · intro other hother
    exact Iff.rfl
  · intro other hother h
    exact (List.mem_erase_of_ne hother).mpr h
  · simp [hstage.1, hwriter name]
  · simp [hstage.2]
  · intro other hother
    exact absurd hother (hwriter other)

/-- A thread that had the lock for writing and gives it back. -/
theorem turned_of_unlocking {s : SharedRegistry Name} (hs : s.Locked) {name : Name}
    {answer : Answer} (hstage : (s.callers name).stage = .unlocking answer) :
    Turned s name (.unlocked (s.ticket name))
      ({ s with writer := none }.go name (.returning answer) (.unlocked (s.ticket name))) := by
  have hwriter : s.writer = some name := (hs.writes name).mp (by rw [hstage]; rfl)
  refine turned_of_put (hstage ▸ .unlocked answer) rfl rfl (hs.put ?_ ?_ ?_ ?_ ?_)
  · intro other hother
    simp [hwriter, Ne.symm hother]
  · intro other hother h
    exact h
  · simp [Stage.writes]
  · simp [Stage.reads]
  · intro other hother
    cases hother

/-- A turn is wasted, or it is one step of the thread whose turn it is. -/
theorem turned_turn {s : SharedRegistry Name} (hs : s.Locked) (name : Name) :
    s.turn name = s ∨ ∃ mark, Turned s name mark (s.turn name) := by
  have hlocked : ∀ {s' : SharedRegistry Name}, s' = s ∨ Turned s name (.locked (s.ticket name)) s' →
      s' = s ∨ ∃ mark, Turned s name mark s' := fun h => h.imp_right fun h => ⟨_, h⟩
  -- One case for each stage, in the order of `turn`.
  unfold turn
  split
  case h_1 => exact Or.inl rfl
  case h_2 request rest hstage htodo =>
    refine Or.inr ⟨_, turned_of_put (hstage ▸ .began request) rfl htodo.symm (hs.keep ?_ ?_)⟩
    · rw [hstage]
      rfl
    · rw [hstage]
      rfl
  case h_3 plan hstage =>
    exact hlocked (turned_of_lockToWrite hs (hstage ▸ .lockedToPlace (some plan)) rfl rfl)
  case h_4 hstage => exact hlocked (turned_of_lockToWrite hs (hstage ▸ .lockedToPlace none) rfl rfl)
  case h_5 hstage => exact hlocked (turned_of_lockToRead hs (hstage ▸ .lockedToLook) rfl)
  case h_6 hstage =>
    exact Or.inr ⟨_, turned_of_go hs (hstage ▸ .loaded) ⟨rfl, rfl⟩ (hstage ▸ ⟨rfl, rfl⟩)⟩
  case h_7 plan hstage =>
    exact Or.inr ⟨_, turned_of_go hs (hstage ▸ .placed plan) ⟨rfl, rfl⟩ (hstage ▸ ⟨rfl, rfl⟩)⟩
  case h_8 plan hstage =>
    exact Or.inr ⟨_, turned_of_go hs (hstage ▸ .flagged plan) ⟨rfl, rfl⟩ (hstage ▸ ⟨rfl, rfl⟩)⟩
  case h_9 hstage =>
    right
    split
    case h_1 id hcurrent =>
      exact ⟨_, turned_of_go hs (hstage ▸ .found id hcurrent) ⟨rfl, rfl⟩ (hstage ▸ ⟨rfl, rfl⟩)⟩
    case h_2 hcurrent =>
      exact ⟨_, turned_of_go hs (hstage ▸ .missed hcurrent) ⟨rfl, rfl⟩ (hstage ▸ ⟨rfl, rfl⟩)⟩
  case h_10 id hstage =>
    exact Or.inr ⟨_, turned_of_leaving hs (hstage ▸ .leftWith id) (hstage ▸ rfl) ⟨rfl, rfl⟩⟩
  case h_11 hstage =>
    exact Or.inr ⟨_, turned_of_leaving hs (hstage ▸ .leftWithout) (hstage ▸ rfl) ⟨rfl, rfl⟩⟩
  case h_12 hstage => exact hlocked (turned_of_lockToWrite hs (hstage ▸ .lockedToFill) rfl rfl)
  case h_13 hstage =>
    right
    split
    case h_1 id hcurrent =>
      exact ⟨_, turned_of_go hs (hstage ▸ .foundAgain id hcurrent) ⟨rfl, rfl⟩
        (hstage ▸ ⟨rfl, rfl⟩)⟩
    case h_2 hcurrent =>
      exact ⟨_, turned_of_go hs (hstage ▸ .made hcurrent) ⟨rfl, rfl⟩ (hstage ▸ ⟨rfl, rfl⟩)⟩
  case h_14 answer hstage => exact Or.inr ⟨_, turned_of_unlocking hs hstage⟩
  case h_15 answer hstage =>
    refine Or.inr ⟨_, turned_of_put (hstage ▸ .ended answer) rfl rfl (hs.keep ?_ ?_)⟩
    · rw [hstage]
      rfl
    · rw [hstage]
      rfl

end SharedRegistry

end Logbook

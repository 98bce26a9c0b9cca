/-
What a history of threads that share a logger can look like.  `Happens` lists the steps of a
critical section: which mark may follow while a thread has come so far, and how far it has come
after it.  Main statement: `turned_turn`, a turn that is not wasted is one such step,
and it moves one thread through its program.
-/
import Logbook.Proofs.Chronicle
import Logbook.Proofs.Threads

namespace Logbook

variable {Name C T World : Type}

/-- A record and whose call it is. -/
structure Numbered (Name : Type) where
  thread : Name
  call : Call
  record : Record

namespace Mark

/-- What a mark says has become of the logger. -/
def replay (logger : Logger C T) : Mark Name T → Logger C T
  | .numbered _ _ _ => { logger with nextSeq := logger.nextSeq + 1 }
  | .changed _ setting => setting.apply logger
  | _ => logger

def acquisition? : Mark Name T → Option (Name × Call)
  | .locked thread (.log call) => some (thread, call)
  | _ => none

def numbered? : Mark Name T → Option (Numbered Name)
  | .numbered thread call record => some ⟨thread, call, record⟩
  | _ => none

/-- The transport that was called, and with which record. -/
def invocation? : Mark Name T → Option (T × Record)
  | .entered _ transport record => some (transport, record)
  | _ => none

/-- The mark of a transport that came to its end. -/
def isLeft : Mark Name T → Bool
  | .left _ _ => true
  | _ => false

/-- The mark of a line that was cut off. -/
def isTorn : Mark Name T → Bool
  | .printed _ _ whole => !whole
  | _ => false

variable [DecidableEq Name]

/-- The task that a thread has taken up. -/
def taken? (name : Name) : Mark Name T → Option (Task T)
  | .checked thread call _ => if thread = name then some (.log call) else none
  | .locked thread (.set setting) => if thread = name then some (.set setting) else none
  | _ => none

/-- The call of a thread that was accepted. -/
def accepted? (name : Name) : Mark Name T → Option Call
  | .checked thread call true => if thread = name then some call else none
  | _ => none

/-- The call for which a thread took the lock. -/
def locked? (name : Name) : Mark Name T → Option Call
  | .locked thread (.log call) => if thread = name then some call else none
  | _ => none

end Mark

/-- What a history has made of a logger. -/
def replay (logger : Logger C T) (history : List (Mark Name T)) : Logger C T :=
  history.foldl Mark.replay logger

/-- The calls that took the lock, in order. -/
def acquisitions (history : List (Mark Name T)) : List (Name × Call) :=
  history.filterMap Mark.acquisition?

/-- The calls that became records, in order. -/
def numberings (history : List (Mark Name T)) : List (Numbered Name) :=
  history.filterMap Mark.numbered?

/-- The calls to transports, in order. -/
def invocations (history : List (Mark Name T)) : List (T × Record) :=
  history.filterMap Mark.invocation?

/-- The calls to transports that the records of a history ask for: each record goes to the
transport that is switched on when it takes its number. -/
def routed (logger : Logger C T) : List (Mark Name T) → List (T × Record)
  | [] => []
  | mark :: rest =>
      (mark.numbered?.bind fun entry => logger.route.map (·, entry.record)).toList ++
        routed (mark.replay logger) rest

@[simp] theorem replay_append (logger : Logger C T) (before after : List (Mark Name T)) :
    replay logger (before ++ after) = replay (replay logger before) after :=
  List.foldl_append

@[simp] theorem replay_singleton (logger : Logger C T) (mark : Mark Name T) :
    replay logger [mark] = mark.replay logger := rfl

@[simp] theorem acquisitions_grown (history : List (Mark Name T)) (mark : Mark Name T) :
    acquisitions (history ++ [mark]) = acquisitions history ++ mark.acquisition?.toList :=
  filterMap_grown _ _ _

@[simp] theorem numberings_grown (history : List (Mark Name T)) (mark : Mark Name T) :
    numberings (history ++ [mark]) = numberings history ++ mark.numbered?.toList :=
  filterMap_grown _ _ _

@[simp] theorem invocations_grown (history : List (Mark Name T)) (mark : Mark Name T) :
    invocations (history ++ [mark]) = invocations history ++ mark.invocation?.toList :=
  filterMap_grown _ _ _

theorem routed_append (logger : Logger C T) (before after : List (Mark Name T)) :
    routed logger (before ++ after) =
      routed logger before ++ routed (replay logger before) after := by
  induction before generalizing logger with
  | nil => rfl
  | cons mark rest ih =>
      simp only [List.cons_append, routed, ih, List.append_assoc]
      rfl

theorem routed_grown (logger : Logger C T) (history : List (Mark Name T)) (mark : Mark Name T) :
    routed logger (history ++ [mark]) = routed logger history ++
      (mark.numbered?.bind fun entry =>
        (replay logger history).route.map (·, entry.record)).toList := by
  simp [routed_append, routed]

/-- What may happen while a thread is inside the critical section, in a certain phase, or while
nobody is: the mark, and who is inside after it. -/
inductive Happens (logger : Logger C T) :
    Option (Name × Phase T) → Mark Name T → Option (Name × Phase T) → Prop where
  | checked (inside : Option (Name × Phase T)) (name : Name) (call : Call) :
      Happens logger inside (.checked name call (logger.enabled call.level)) inside
  | lockedCall (name : Name) (call : Call) :
      Happens logger none (.locked name (.log call)) (some (name, .numbering call))
  | lockedSetting (name : Name) (setting : Setting T) :
      Happens logger none (.locked name (.set setting)) (some (name, .changing setting))
  | numbered (name : Name) (call : Call) (stamp : Stamp) :
      Happens logger (some (name, .numbering call))
        (.numbered name call (logger.number stamp call).1)
        (some (name, .printing (logger.number stamp call).1))
  | printed (name : Name) (record : Record) :
      Happens logger (some (name, .printing record)) (.printed name record true)
        (some (name, .sending record))
  | torn (name : Name) (record : Record) :
      Happens logger (some (name, .printing record)) (.printed name record false)
        (some (name, .releasing))
  | unprinted (name : Name) (record : Record) :
      Happens logger (some (name, .printing record)) (.unprinted name record)
        (some (name, .sending record))
  | entered (name : Name) (record : Record) (transport : T) (h : logger.route = some transport) :
      Happens logger (some (name, .sending record)) (.entered name transport record)
        (some (name, .delivering transport record))
  | unsent (name : Name) (record : Record) (h : logger.route = none) :
      Happens logger (some (name, .sending record)) (.unsent name record)
        (some (name, .releasing))
  | left (name : Name) (transport : T) (record : Record) (returned : Bool) :
      Happens logger (some (name, .delivering transport record)) (.left name returned)
        (some (name, .releasing))
  | changed (name : Name) (setting : Setting T) :
      Happens logger (some (name, .changing setting)) (.changed name setting)
        (some (name, .releasing))
  | released (name : Name) : Happens logger (some (name, .releasing)) (.released name) none

/-- While a thread is inside a transport no transport is called. -/
theorem Happens.invocation?_of_delivering {logger : Logger C T} {mark : Mark Name T} {name : Name}
    {transport : T} {record : Record}
    (h : Happens logger (some (name, .delivering transport record)) mark
      (some (name, .delivering transport record))) : mark.invocation? = none := by
  cases h
  rfl

/-- The call with which a thread waits for the lock. -/
def Phase.waits : Phase T → List Call
  | .waiting call => [call]
  | _ => []

theorem Phase.waits_of_holds {phase : Phase T} (h : phase.holds = true) : phase.waits = [] := by
  cases phase <;> simp_all [Phase.holds, Phase.waits]

namespace Shared

/-- The thread inside the critical section, and how far it has come. -/
def inside (s : Shared Name C T World) : Option (Name × Phase T) :=
  s.owner.map fun name => (name, (s.threads name).phase)

/-- The threads that act as if they had the lock are those that have it. -/
def Exclusive (s : Shared Name C T World) : Prop :=
  ∀ name, (s.threads name).phase.holds = true ↔ s.owner = some name

theorem inside_of_owner {s : Shared Name C T World} {name : Name} (h : s.owner = some name) :
    s.inside = some (name, (s.threads name).phase) := by
  simp [inside, h]

theorem inside_of_free {s : Shared Name C T World} (h : s.owner = none) : s.inside = none := by
  simp [inside, h]

/-- A thread inside a transport is the one that has the lock. -/
theorem inside_eq_delivering_iff {s : Shared Name C T World} (hs : s.Exclusive) {name : Name}
    {transport : T} {record : Record} :
    s.inside = some (name, .delivering transport record) ↔
      (s.threads name).phase = .delivering transport record := by
  constructor
  · intro h
    obtain ⟨owner, -, howner⟩ := Option.map_eq_some_iff.mp h
    obtain ⟨rfl, hphase⟩ := Prod.mk.inj howner
    exact hphase
  · intro h
    have howner := (hs name).mp (by rw [h]; rfl)
    rw [inside_of_owner howner, h]

variable [DecidableEq Name]

/-- A turn that was not wasted: what it noted, and what it changed. -/
structure Turned (s : Shared Name C T World) (mark : Mark Name T) (s' : Shared Name C T World) :
    Prop where
  history : s'.history = s.history ++ [mark]
  logger : s'.logger = mark.replay s.logger
  happens : Happens s.logger s.inside mark s'.inside
  todo : ∀ name, (mark.taken? name).toList ++ (s'.threads name).todo = (s.threads name).todo
  waits : ∀ name, (s.threads name).phase.waits ++ (mark.accepted? name).toList =
    (mark.locked? name).toList ++ (s'.threads name).phase.waits
  exclusive : s'.Exclusive

/-- A thread that has the lock and keeps it. -/
theorem turned_of_owner {s : Shared Name C T World} (hs : s.Exclusive) {name : Name}
    (howner : s.owner = some name) (mark : Mark Name T) {logger : Logger C T} {world : World}
    {phase : Phase T} (hlogger : logger = mark.replay s.logger)
    (hquiet : ∀ other, mark.taken? other = none ∧ mark.accepted? other = none ∧
      mark.locked? other = none)
    (happens : Happens s.logger (some (name, (s.threads name).phase)) mark (some (name, phase)))
    (hholds : phase.holds = true) :
    Turned s mark ({ s with logger, world }.put name ⟨phase, (s.threads name).todo⟩ mark) where
  history := rfl
  logger := hlogger
  happens := by
    have hinside : inside ({ s with logger, world }.put name ⟨phase, (s.threads name).todo⟩ mark) =
        some (name, phase) := by
      simp [inside, put, howner]
    rw [hinside, inside_of_owner howner]
    exact happens
  todo other := by
    by_cases h : other = name
    · subst h
      simp [put, (hquiet other).1]
    · simp [put, (hquiet other).1, Function.update_of_ne h]
  waits other := by
    obtain ⟨-, haccepted, hlocked⟩ := hquiet other
    by_cases h : other = name
    · subst h
      simp [put, haccepted, hlocked, Phase.waits_of_holds hholds,
        Phase.waits_of_holds ((hs other).mpr howner)]
    · simp [put, haccepted, hlocked, Function.update_of_ne h]
  exclusive other := by
    by_cases h : other = name
    · subst h
      simp [put, hholds, howner]
    · simpa [put, Function.update_of_ne h] using hs other

/-- A thread that gives the lock back. -/
theorem turned_of_release {s : Shared Name C T World} (hs : s.Exclusive) {name : Name}
    (hphase : (s.threads name).phase = .releasing) :
    Turned s (.released name) ({ s with owner := none }.put name
      ⟨.idle, (s.threads name).todo⟩ (.released name)) where
  history := rfl
  logger := rfl
  happens := by
    have howner : s.owner = some name := (hs name).mp (by simp [hphase, Phase.holds])
    rw [inside_of_owner howner, hphase]
    exact .released name
  todo other := by
    by_cases h : other = name
    · subst h
      simp [put, Mark.taken?]
    · simp [put, Mark.taken?, Function.update_of_ne h]
  waits other := by
    by_cases h : other = name
    · subst h
      simp [put, Mark.accepted?, Mark.locked?, hphase, Phase.waits]
    · simp [put, Mark.accepted?, Mark.locked?, Function.update_of_ne h]
  exclusive other := by
    have howner : s.owner = some name := (hs name).mp (by simp [hphase, Phase.holds])
    by_cases h : other = name
    · subst h
      simp [put, Phase.holds]
    · have hother := hs other
      rw [howner] at hother
      simp only [put, Function.update_of_ne h, hother]
      simp [Ne.symm h]

/-- A thread that takes the free lock for a task. -/
theorem turned_of_lock {s : Shared Name C T World} (hs : s.Exclusive) (hfree : s.owner = none)
    {name : Name} {task : Task T} {thread : Thread T}
    (happens : Happens s.logger none (.locked name task) (some (name, thread.phase)))
    (hholds : thread.phase.holds = true)
    (htodo : ((Mark.locked name task).taken? name).toList ++ thread.todo = (s.threads name).todo)
    (hwaits : (s.threads name).phase.waits = ((Mark.locked name task).locked? name).toList) :
    Turned s (.locked name task)
      ({ s with owner := some name }.put name thread (.locked name task)) where
  history := rfl
  logger := rfl
  happens := by
    have hinside : inside ({ s with owner := some name }.put name thread (.locked name task)) =
        some (name, thread.phase) := by
      simp [inside, put]
    rw [hinside, inside_of_free hfree]
    exact happens
  todo other := by
    by_cases h : other = name
    · subst h
      simpa [put] using htodo
    · cases task <;> simp [put, Mark.taken?, Function.update_of_ne h, Ne.symm h]
  waits other := by
    by_cases h : other = name
    · subst h
      cases task <;> simp [put, hwaits, Mark.accepted?, Phase.waits_of_holds hholds]
    · cases task <;>
        simp [put, Mark.accepted?, Mark.locked?, Function.update_of_ne h, Ne.symm h]
  exclusive other := by
    by_cases h : other = name
    · subst h
      simp [put, hholds]
    · have hother := hs other
      rw [hfree] at hother
      simp only [put, Function.update_of_ne h, hother]
      simp [Ne.symm h]

/-- A thread that holds its next call against the threshold. -/
theorem turned_of_check {s : Shared Name C T World} (hs : s.Exclusive) {name : Name} {call : Call}
    {rest : List (Task T)} (hphase : (s.threads name).phase = .idle)
    (htodo : (s.threads name).todo = .log call :: rest) {accepted : Bool}
    (haccepted : s.logger.enabled call.level = accepted) :
    Turned s (.checked name call accepted) (s.put name
      ⟨if accepted then .waiting call else .idle, rest⟩ (.checked name call accepted)) where
  history := rfl
  logger := rfl
  happens := by
    have howner : ∀ other, s.owner = some other → other ≠ name := by
      rintro other h rfl
      have hholds := (hs other).mpr h
      simp [hphase, Phase.holds] at hholds
    have hinside : inside (s.put name ⟨if accepted then .waiting call else .idle, rest⟩
        (.checked name call accepted)) = s.inside := by
      cases h : s.owner with
      | none => simp [inside, put, h]
      | some other => simp [inside, put, h, Function.update_of_ne (howner other h)]
    rw [hinside, ← haccepted]
    exact .checked s.inside name call
  todo other := by
    by_cases h : other = name
    · subst h
      simp [put, Mark.taken?, htodo]
    · simp [put, Mark.taken?, Function.update_of_ne h, Ne.symm h]
  waits other := by
    by_cases h : other = name
    · subst h
      cases accepted <;> simp [put, Mark.accepted?, Mark.locked?, hphase, Phase.waits]
    · cases accepted <;>
        simp [put, Mark.accepted?, Mark.locked?, Function.update_of_ne h, Ne.symm h]
  exclusive other := by
    by_cases h : other = name
    · subst h
      have hother := hs other
      rw [hphase] at hother
      cases accepted <;> simpa [put, Phase.holds] using hother
    · simpa [put, Function.update_of_ne h] using hs other

/-- A turn is wasted, or it is one step of the thread whose turn it is. -/
theorem turned_turn (outlets : Outlets C T World) {s : Shared Name C T World} (hs : s.Exclusive)
    (name : Name) (stamp : Stamp) :
    s.turn outlets name stamp = s ∨ ∃ mark, Turned s mark (s.turn outlets name stamp) := by
  have howner : ∀ phase, (s.threads name).phase = phase → phase.holds = true →
      s.owner = some name := fun phase h hholds => (hs name).mp (h ▸ hholds)
  -- One case for each phase, in the order of `turn`; only a check and a lock can be wasted.
  unfold turn
  split
  case h_1 => exact Or.inl rfl
  case h_2 call rest hphase htodo =>
    right
    split
    · rename_i haccepted
      exact ⟨_, turned_of_check hs hphase htodo haccepted⟩
    · rename_i hrejected
      exact ⟨_, turned_of_check hs hphase htodo (Bool.eq_false_iff.mpr hrejected)⟩
  case h_3 setting rest hphase htodo =>
    split
    · exact Or.inl rfl
    · rename_i hfree
      refine Or.inr ⟨_, turned_of_lock hs hfree (.lockedSetting name setting) rfl ?_ ?_⟩
      · simp [Mark.taken?, htodo]
      · simp [Mark.locked?, hphase, Phase.waits]
  case h_4 call hphase =>
    split
    · exact Or.inl rfl
    · rename_i hfree
      refine Or.inr ⟨_, turned_of_lock hs hfree (.lockedCall name call) rfl rfl ?_⟩
      simp [Mark.locked?, hphase, Phase.waits]
  case h_5 call hphase =>
    have hmoved := turned_of_owner hs (howner _ hphase rfl)
    refine Or.inr ⟨_, hmoved (.numbered name call _) rfl (fun _ => ⟨rfl, rfl, rfl⟩) ?_ rfl⟩
    rw [hphase]
    exact .numbered name call stamp
  case h_6 record hphase =>
    have hmoved := turned_of_owner hs (howner _ hphase rfl)
    right
    split
    · split
      · refine ⟨_, hmoved (.printed name record true) rfl (fun _ => ⟨rfl, rfl, rfl⟩) ?_ rfl⟩
        rw [hphase]
        exact .printed name record
      · refine ⟨_, hmoved (.printed name record false) rfl (fun _ => ⟨rfl, rfl, rfl⟩) ?_ rfl⟩
        rw [hphase]
        exact .torn name record
    · refine ⟨_, hmoved (.unprinted name record) rfl (fun _ => ⟨rfl, rfl, rfl⟩) ?_ rfl⟩
      rw [hphase]
      exact .unprinted name record
  case h_7 record hphase =>
    have hmoved := turned_of_owner hs (howner _ hphase rfl)
    right
    split
    · rename_i transport hroute
      refine ⟨_, hmoved (.entered name transport record) rfl (fun _ => ⟨rfl, rfl, rfl⟩) ?_ rfl⟩
      rw [hphase]
      exact .entered name record transport hroute
    · rename_i hroute
      refine ⟨_, hmoved (.unsent name record) rfl (fun _ => ⟨rfl, rfl, rfl⟩) ?_ rfl⟩
      rw [hphase]
      exact .unsent name record hroute
  case h_8 transport record hphase =>
    have hmoved := turned_of_owner hs (howner _ hphase rfl)
    right
    split
    · refine ⟨_, hmoved (.left name true) rfl (fun _ => ⟨rfl, rfl, rfl⟩) ?_ rfl⟩
      rw [hphase]
      exact .left name transport record true
    · refine ⟨_, hmoved (.left name false) rfl (fun _ => ⟨rfl, rfl, rfl⟩) ?_ rfl⟩
      rw [hphase]
      exact .left name transport record false
  case h_9 setting hphase =>
    have hmoved := turned_of_owner hs (howner _ hphase rfl)
    refine Or.inr ⟨_, hmoved (.changed name setting) rfl (fun _ => ⟨rfl, rfl, rfl⟩) ?_ rfl⟩
    rw [hphase]
    exact .changed name setting
  case h_10 hphase => exact Or.inr ⟨_, turned_of_release hs hphase⟩

theorem threads_put_of_ne (s : Shared Name C T World) {name other : Name} (h : other ≠ name)
    (thread : Thread T) (mark : Mark Name T) :
    (s.put name thread mark).threads other = s.threads other :=
  Function.update_of_ne h _ _

/-- A turn moves no thread but its own. -/
theorem threads_turn_of_ne (outlets : Outlets C T World) (s : Shared Name C T World)
    {name other : Name} (h : other ≠ name) (stamp : Stamp) :
    (s.turn outlets name stamp).threads other = s.threads other := by
  unfold turn
  repeat' split
  all_goals simp only [threads_put_of_ne _ h]

/-- A thread comes back from its transport. -/
theorem turn_of_delivering (outlets : Outlets C T World) {s : Shared Name C T World}
    (hs : s.Exclusive) {name : Name} {transport : T} {record : Record}
    (h : (s.threads name).phase = .delivering transport record) (stamp : Stamp) :
    (s.turn outlets name stamp).inside = some (name, .releasing) ∧
      invocations (s.turn outlets name stamp).history = invocations s.history := by
  have howner : s.owner = some name := (hs name).mp (by rw [h]; rfl)
  unfold turn
  simp only [h]
  split <;> exact ⟨by simp [inside, put, howner], by simp [put, Mark.invocation?]⟩

end Shared

end Logbook

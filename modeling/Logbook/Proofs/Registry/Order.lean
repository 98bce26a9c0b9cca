/-
The order of calls to a registry that threads share.  A change of the registry takes effect when
its flag is set, a question for the shared logger when the slot is found filled or is filled with a
fallback, and a question for the flag when the flag is read.  While a thread is between the slot and
the flag, the registry is that of the calls so far with the slot already filled; at every other
moment it is exactly that of the calls so far.  Every step keeps this, so it holds behind every
schedule.  Main statement: `linearized_run`.
-/
import Logbook.Proofs.Registry.Slot

namespace Logbook

variable {Name : Type}

namespace Registry

/-- The moments of calls in a history. -/
def moments (history : List (Registry.Mark Name)) :
    List (Moment (Name × Nat) Request Answer) :=
  history.filterMap Mark.moment?

theorem moments_grown (history : List (Registry.Mark Name)) (mark : Registry.Mark Name) :
    moments (history ++ [mark]) = moments history ++ mark.moment?.toList :=
  filterMap_grown _ _ _

/-- The registry of a session after the calls of a history, made one after the other. -/
def served (start : Session) (history : List (Registry.Mark Name)) : Session :=
  stateAfter serve start (moments history)

theorem served_grown (start : Session) (history : List (Registry.Mark Name))
    (mark : Registry.Mark Name) :
    served start (history ++ [mark]) =
      match mark.moment? with
      | some (.took _ request _) => (serve (served start history) request).2
      | _ => served start history := by
  rw [served, moments_grown]
  cases hmoment : mark.moment? with
  | none => simp [served]
  | some moment =>
      rw [Option.toList_some, stateAfter_grown]
      cases moment <;> rfl

/-- The logger that is made where none was installed. -/
def fallback : SessionLogger :=
  LoggerPlan.build { nodeName := fallbackName } .standardError

example : fallback.nodeName = "default" := rfl

/-- The change whose flag is due. -/
def Stage.unsettled : Stage → Option (Option SessionPlan)
  | .flagging plan => some plan
  | _ => none

theorem Stage.unsettled_of_not_writes {stage : Stage} (h : stage.writes = false) :
    stage.unsettled = none := by
  cases stage with
  | flagging plan => cases h
  | _ => rfl

/-- The session while a change is in the slot, but not yet in the flag. -/
def slotted (session : Session) : Option (Option SessionPlan) → Session
  | some plan => place session plan
  | none => session

@[simp] theorem slotted_initialized (session : Session)
    (unsettled : Option (Option SessionPlan)) :
    (slotted session unsettled).registry.initialized = session.registry.initialized := by
  cases unsettled <;> simp [slotted]

/-- The flag as it will be once a change is settled. -/
def flagSoon (session : Session) : Option (Option SessionPlan) → Bool
  | some plan => plan.isSome
  | none => session.registry.initialized

/-- What a session has to do with the history of its registry. -/
structure Kept (start : Session) (history : List (Registry.Mark Name))
    (unsettled : Option (Option SessionPlan)) (session : Session) : Prop where
  served : session = slotted (served start history) unsettled
  slot : session.registry.current = slotAfter history
  flag : flagSoon session unsettled = true ↔
    ∃ id ∈ installed history, session.registry.current = some id
  installed : ∀ id ∈ installed history, id < session.loggers.length
  fallbacks : ∀ id ∈ fallbacks history,
    session.loggers[id]? = some fallback ∧ id ∉ Registry.installed history

namespace Kept

variable {start session session' : Session} {history : List (Registry.Mark Name)}
  {unsettled : Option (Option SessionPlan)} {ticket : Name × Nat} {before after : Stage}
  {mark : Registry.Mark Name}

theorem initialized_eq (h : Kept start history unsettled session) :
    session.registry.initialized = (Registry.served start history).registry.initialized := by
  rw [h.served, slotted_initialized]

/-- The number of the next logger is not that of one that was installed. -/
theorem next_not_mem (h : Kept start history unsettled session) :
    session.loggers.length ∉ Registry.installed history := by
  intro hmem
  exact Nat.lt_irrefl _ (h.installed _ hmem)

/-- A fallback stays what it is while loggers are added. -/
theorem fallback_append (h : Kept start history unsettled session) {id : LoggerId}
    (hid : id ∈ Registry.fallbacks history) (more : List SessionLogger) :
    (session.loggers ++ more)[id]? = some fallback := by
  have hlogger := (h.fallbacks id hid).1
  rw [List.getElem?_append_left (List.getElem?_eq_some_iff.mp hlogger).1, hlogger]

/-- A mark that says nothing of the slot and of the flag. -/
theorem quiet (h : Kept start history unsettled session)
    (hserved : Registry.served start (history ++ [mark]) = Registry.served start history)
    (hslot : mark.replay (slotAfter history) = slotAfter history)
    (hinstalled : mark.installed? = none) (hmade : mark.made? = none) :
    Kept start (history ++ [mark]) unsettled session where
  served := by rw [hserved, ← h.served]
  slot := by rw [slotAfter_grown, hslot, h.slot]
  flag := by simpa [hinstalled] using h.flag
  installed := by simpa [hinstalled] using h.installed
  fallbacks := by simpa [hinstalled, hmade] using h.fallbacks

/-- A thread without the lock changes nothing. -/
theorem outside (h : Kept start history unsettled session)
    (hacts : Acts session ticket before mark after session')
    (hwrites : before.writes = false) (hreads : before.reads = false) :
    Kept start (history ++ [mark]) unsettled session' := by
  cases hacts with
  | began request => exact h.quiet (served_grown start history _) rfl rfl rfl
  | lockedToPlace plan => exact h.quiet (served_grown start history _) rfl rfl rfl
  | lockedToLook => exact h.quiet (served_grown start history _) rfl rfl rfl
  | loaded => exact h.quiet (served_grown start history _) rfl rfl rfl
  | lockedToFill => exact h.quiet (served_grown start history _) rfl rfl rfl
  | ended answer => exact h.quiet (served_grown start history _) rfl rfl rfl
  | placed plan => cases hwrites
  | flagged plan => cases hwrites
  | foundAgain id hcurrent => cases hwrites
  | made hcurrent => cases hwrites
  | unlocked answer => cases hwrites
  | found id hcurrent => cases hreads
  | missed hcurrent => cases hreads
  | leftWith id => cases hreads
  | leftWithout => cases hreads

/-- A logger that was found leaves everything as it is. -/
theorem found (h : Kept start history none session) {id : LoggerId}
    (hcurrent : session.registry.current = some id) :
    Kept start (history ++ [.found ticket id]) none session := by
  have hserved : session = Registry.served start history := h.served
  refine h.quiet ?_ rfl rfl rfl
  rw [served_grown]
  exact congrArg Prod.snd (serve_shared_of_some (hserved ▸ hcurrent))

theorem placed (h : Kept start history none session) (plan : Option SessionPlan) :
    Kept start (history ++ [.placed ticket (place session plan).registry.current]) (some plan)
      (place session plan) where
  served := by
    have hserved : session = Registry.served start history := h.served
    rw [served_grown, hserved]
    rfl
  slot := by
    rw [slotAfter_grown]
    rfl
  flag := by
    cases plan with
    | none => simp [flagSoon, place]
    | some plan => simp [flagSoon, place, Session.addLogger, Mark.installed?]
  installed id hid := by
    cases plan with
    | none =>
        have hold : id ∈ Registry.installed history := by
          simpa [place, Mark.installed?] using hid
        exact h.installed id hold
    | some plan =>
        have hold : id ∈ Registry.installed history ∨ id = session.loggers.length := by
          simpa [place, Session.addLogger, Mark.installed?] using hid
        have hlength : (place session (some plan)).loggers.length = session.loggers.length + 1 := by
          simp [place, Session.addLogger]
        rw [hlength]
        rcases hold with hold | rfl
        · exact Nat.lt_succ_of_lt (h.installed id hold)
        · exact Nat.lt_succ_self _
  fallbacks id hid := by
    have hold : id ∈ Registry.fallbacks history := by simpa [Mark.made?] using hid
    obtain ⟨hlogger, hother⟩ := h.fallbacks id hold
    cases plan with
    | none => simpa [place, Mark.installed?] using And.intro hlogger hother
    | some plan =>
        constructor
        · exact h.fallback_append hold _
        · have hne : id ≠ session.loggers.length :=
            Nat.ne_of_lt (List.getElem?_eq_some_iff.mp hlogger).1
          simpa [place, Session.addLogger, Mark.installed?] using And.intro hother hne

theorem flagged {plan : Option SessionPlan} (h : Kept start history (some plan) session) :
    Kept start (history ++ [.flagged ticket plan]) none
      (setInitialized session plan.isSome) where
  served := by
    have hserved : session = place (Registry.served start history) plan := h.served
    have hchange : Registry.served start (history ++ [.flagged ticket plan]) =
        (serve (Registry.served start history) (.change plan)).2 := served_grown start history _
    rw [hchange, serve_change, hserved]
    rfl
  slot := by
    rw [slotAfter_grown]
    exact h.slot
  flag := by simpa [flagSoon, setInitialized, Mark.installed?] using h.flag
  installed := by simpa [setInitialized, Mark.installed?] using h.installed
  fallbacks := by simpa [setInitialized, Mark.installed?, Mark.made?] using h.fallbacks

theorem made (h : Kept start history none session)
    (hcurrent : session.registry.current = none) :
    Kept start (history ++ [.made ticket session.shared.1]) none session.shared.2 := by
  have hshared : session.shared = (session.loggers.length,
      { session with
        loggers := session.loggers ++ [fallback]
        registry := session.registry.fallBack session.loggers.length }) := by
    simp [Session.shared, hcurrent, Session.addLogger, fallback]
  have hinstalled : Registry.installed (history ++ [.made ticket session.shared.1]) =
      Registry.installed history := by
    simp [Mark.installed?]
  constructor
  case served =>
    have hserved : session = Registry.served start history := h.served
    rw [served_grown, ← hserved]
    rfl
  case slot =>
    rw [slotAfter_grown, hshared]
    rfl
  case flag =>
    -- The flag stays down, and the new logger is not one of those that were installed.
    have hdown : session.registry.initialized = false := by
      have hflag : session.registry.initialized = true ↔ _ := h.flag
      simpa [hcurrent] using hflag
    simp [hshared, flagSoon, Registry.fallBack, Mark.installed?, hdown, h.next_not_mem]
  case installed =>
    intro id hid
    rw [hinstalled] at hid
    rw [hshared]
    simpa using Nat.lt_succ_of_lt (h.installed id hid)
  case fallbacks =>
    intro id hid
    rw [hinstalled]
    have hold : id ∈ Registry.fallbacks history ∨ id = session.loggers.length := by
      simpa [Mark.made?, hshared] using hid
    rw [hshared]
    rcases hold with hold | rfl
    · exact ⟨h.fallback_append hold _, (h.fallbacks id hold).2⟩
    · exact ⟨by simp, h.next_not_mem⟩

/-- What a thread does keeps the session in step with the history. -/
theorem step (h : Kept start history before.unsettled session)
    (hacts : Acts session ticket before mark after session') :
    Kept start (history ++ [mark]) after.unsettled session' := by
  cases hacts with
  | placed plan => exact h.placed plan
  | flagged plan => exact h.flagged
  | found id hcurrent => exact h.found hcurrent
  | foundAgain id hcurrent => exact h.found hcurrent
  | made hcurrent => exact h.made hcurrent
  | _ => exact h.quiet (served_grown start history _) rfl rfl rfl

/-- Whoever gets an answer gets that of the calls so far: a thread with the lock sees their
registry, and one without it sees their flag. -/
theorem answer (h : Kept start history unsettled session)
    (hacts : Acts session ticket before mark after session')
    (hbefore : before.writes = true ∨ before.reads = true → unsettled = before.unsettled)
    {request : Request} {answer : Answer}
    (htook : mark.moment? = some (.took ticket request answer)) :
    answer = (serve (Registry.served start history) request).1 := by
  have hserved : before.writes = true ∨ before.reads = true → before.unsettled = none →
      session = Registry.served start history := by
    intro hlock hnone
    have hslotted := h.served
    rw [hbefore hlock, hnone] at hslotted
    exact hslotted
  cases hacts with
  | flagged plan =>
      cases htook
      rw [serve_change]
  | found id hcurrent =>
      cases htook
      rw [← hserved (Or.inr rfl) rfl, serve_shared_of_some hcurrent]
  | foundAgain id hcurrent =>
      cases htook
      rw [← hserved (Or.inl rfl) rfl, serve_shared_of_some hcurrent]
  | made hcurrent =>
      cases htook
      rw [← hserved (Or.inl rfl) rfl]
      rfl
  | loaded =>
      cases htook
      rw [h.initialized_eq]
      rfl
  | _ => cases htook

end Kept

end Registry

namespace SharedRegistry

open Registry

/-- The change that a thread has put in the slot, but not yet in the flag. -/
def unsettled (s : SharedRegistry Name) : Option (Option SessionPlan) :=
  s.writer.bind fun name => (s.callers name).stage.unsettled

/-- While no other thread writes, a change that is not settled is one of this thread. -/
theorem unsettled_eq {s : SharedRegistry Name} (hs : s.Locked) {name : Name}
    (h : ∀ other, s.writer = some other → other = name) :
    s.unsettled = (s.callers name).stage.unsettled := by
  cases hwriter : s.writer with
  | some other =>
      obtain rfl := h other hwriter
      simp [unsettled, hwriter]
  | none =>
      have hnot : (s.callers name).stage.writes = false := by
        rw [← Bool.not_eq_true, hs.writes name, hwriter]
        simp
      simp [unsettled, hwriter, Stage.unsettled_of_not_writes hnot]

/-- While a thread has the lock, no other thread writes. -/
theorem Locked.eq_of_writer {s : SharedRegistry Name} (hs : s.Locked) {name other : Name}
    (h : (s.callers name).stage.writes = true ∨ (s.callers name).stage.reads = true)
    (hother : s.writer = some other) : other = name := by
  rcases h with h | h
  · rw [(hs.writes name).mp h] at hother
    exact (Option.some.inj hother).symm
  · have hmem := hs.reads name h
    simp [hs.apart other hother] at hmem

theorem Turned.writer_iff {s s' : SharedRegistry Name} {name : Name} {mark : Registry.Mark Name}
    (h : Turned s name mark s') (hs : s.Locked) {other : Name} (hother : other ≠ name) :
    s'.writer = some other ↔ s.writer = some other := by
  rw [← h.locked.writes other, ← hs.writes other, h.others other hother]

/-- What every turn keeps. -/
structure Invariant [DecidableEq Name] (programs : Name → List Request) (start : Session)
    (s : SharedRegistry Name) : Prop where
  locked : s.Locked
  todo : ∀ name, (s.history.filter (·.ticket.1 = name)).filterMap Registry.Mark.begun? ++
    (s.callers name).todo = programs name
  calls : Calls serve start (moments s.history) (fun name => (s.callers name).ended)
    fun name => (s.callers name).stage.standing
  kept : Kept start s.history s.unsettled s.session
  chronicle : Chronicle Registry.Mark.Fits s.history

variable [DecidableEq Name]

theorem invariant_begin (programs : Name → List Request) (session : Session) :
    (begin programs session).Invariant programs { session with registry := {} } where
  locked := locked_begin programs session
  todo name := rfl
  calls := ⟨.empty, by simp [begin, moments], fun name moment hmoment => by cases hmoment⟩
  kept := ⟨rfl, rfl, by simp [begin, unsettled, flagSoon], by simp [begin, installed],
    by simp [begin, fallbacks]⟩
  chronicle := .empty

/-- A turn keeps the session in step with the history. -/
theorem Turned.kept {start : Session} {s s' : SharedRegistry Name} {name : Name}
    {mark : Registry.Mark Name} (h : Turned s name mark s') (hs : s.Locked)
    (hkept : Kept start s.history s.unsettled s.session) :
    Kept start s'.history s'.unsettled s'.session := by
  rw [h.history]
  by_cases hwriter : ∃ other, s.writer = some other ∧ other ≠ name
  · -- Another thread writes, so this one has not got the lock.
    obtain ⟨other, hother, hne⟩ := hwriter
    have hunsettled : s'.unsettled = s.unsettled := by
      simp [unsettled, hother, (h.writer_iff hs hne).mpr hother, h.others other hne]
    rw [hunsettled]
    refine hkept.outside h.acts ?_ ?_
    · rw [← Bool.not_eq_true]
      intro hwrites
      exact hne (hs.eq_of_writer (Or.inl hwrites) hother)
    · rw [← Bool.not_eq_true]
      intro hreads
      exact hne (hs.eq_of_writer (Or.inr hreads) hother)
  · have honly : ∀ other, s.writer = some other → other = name := by
      intro other hother
      by_contra hne
      exact hwriter ⟨other, hother, hne⟩
    have honly' : ∀ other, s'.writer = some other → other = name := by
      intro other hother
      by_contra hne
      exact hne (honly other ((h.writer_iff hs hne).mp hother))
    rw [unsettled_eq hs honly] at hkept
    rw [unsettled_eq h.locked honly']
    exact hkept.step h.acts

theorem Turned.invariant {programs : Name → List Request} {start : Session}
    {s s' : SharedRegistry Name} {name : Name} {mark : Registry.Mark Name}
    (h : Turned s name mark s') (hs : s.Invariant programs start) :
    s'.Invariant programs start where
  locked := h.locked
  todo other := by
    have hthread : mark.ticket.1 = name := congrArg Prod.fst h.acts.ticket_eq
    rw [h.history, List.filter_append, List.filterMap_append, ← hs.todo other]
    by_cases hother : other = name
    · subst hother
      rw [← h.todo]
      cases hbegun : mark.begun? <;> simp [hthread, hbegun]
    · have hne : ¬ name = other := Ne.symm hother
      simp [hthread, hne, h.others other hother]
  calls := by
    rw [h.history, moments_grown]
    refine hs.calls.step h.acts.moves ?_ h.ended ?_
    · intro request answer htook
      refine hs.kept.answer h.acts ?_ htook
      intro hlock
      exact unsettled_eq hs.locked fun other hother => hs.locked.eq_of_writer hlock hother
    · intro other hother
      rw [h.others other hother]
      exact ⟨rfl, rfl⟩
  kept := h.kept hs.locked hs.kept
  chronicle := by
    rw [h.history]
    exact hs.chronicle.grown (h.acts.fits hs.kept.slot)

theorem invariant_turn {programs : Name → List Request} {start : Session}
    {s : SharedRegistry Name} (hs : s.Invariant programs start) (name : Name) :
    (s.turn name).Invariant programs start := by
  rcases turned_turn hs.locked name with hwasted | ⟨mark, hturned⟩
  · rw [hwasted]
    exact hs
  · exact hturned.invariant hs

theorem invariant_run {programs : Name → List Request} {start : Session}
    {s : SharedRegistry Name} (hs : s.Invariant programs start) (schedule : List Name) :
    (s.run schedule).Invariant programs start := by
  induction schedule generalizing s with
  | nil => exact hs
  | cons name rest ih => exact ih (invariant_turn hs name)

/-- What holds of a registry at every moment of every interleaving. -/
structure Linearized (programs : Name → List Request) (start : Session)
    (s : SharedRegistry Name) : Prop where
  /-- Every thread makes the requests of its program in their order. -/
  todo : ∀ name, (s.history.filter (·.ticket.1 = name)).filterMap Registry.Mark.begun? ++
    (s.callers name).todo = programs name
  /-- The calls that took effect, in the order in which they did, are those of a registry that
  serves one call after the other. -/
  order : Linearization serve start (moments s.history) (effects (moments s.history))
  /-- While nobody writes, the session is the one that these calls leave. -/
  settled : s.writer = none → s.session =
    (serveAll serve start ((effects (moments s.history)).map Served.request)).2
  /-- While nobody writes, the flag tells whether the slot holds a logger that was installed. -/
  flag : s.writer = none → (s.session.registry.initialized = true ↔
    ∃ id ∈ installed s.history, s.session.registry.current = some id)
  /-- The slot holds what was put there last. -/
  slot : s.session.registry.current = slotAfter s.history
  /-- A fallback is made only while the slot is empty, so it takes nobody's place. -/
  vacant : ∀ before ticket id after, s.history = before ++ .made ticket id :: after →
    slotAfter before = none
  /-- A fallback is called by the fallback's name, and was never installed. -/
  fallbacks : ∀ id ∈ fallbacks s.history,
    s.session.loggers[id]? = some fallback ∧ id ∉ installed s.history
  /-- Between two changes of the registry all threads get the same logger. -/
  agreed : ∀ before between after, s.history = before ++ between ++ after →
    (∀ mark ∈ between, mark.isChange = false) →
      ∀ id ∈ handed between, ∀ other ∈ handed between, id = other
  /-- Between two fallbacks the registry was reset. -/
  renewed : ∀ before ticket id between ticket' id' after,
    s.history = before ++ .made ticket id :: between ++ .made ticket' id' :: after →
      ∃ mark ∈ between, mark.isReset = true
  /-- While the lock is free, a thread alone gets the answer that the registry gives. -/
  solo : ∀ name request ended todo, s.writer = none → s.readers = [] →
    s.callers name = ⟨.idle, ended, request :: todo⟩ →
      Leads name s (Answered s.callers name ended todo (serve s.session request).2
        (serve s.session request).1)

theorem Invariant.linearized {programs : Name → List Request} {start : Session}
    {s : SharedRegistry Name} (hs : s.Invariant programs start) : s.Linearized programs start where
  todo := hs.todo
  order := hs.calls.chronicle.linearization
  settled hfree := by
    have hserved := hs.kept.served
    rwa [unsettled, hfree] at hserved
  flag hfree := by
    have hflag := hs.kept.flag
    rwa [unsettled, hfree] at hflag
  slot := hs.kept.slot
  vacant before ticket id after hsplit := (hs.chronicle.split hsplit).2
  fallbacks := hs.kept.fallbacks
  agreed before between after hsplit hbetween id hid other hother :=
    hs.chronicle.handed_eq hsplit hbetween hid hother
  renewed before ticket id between ticket' id' after hsplit := hs.chronicle.exists_reset hsplit
  solo name request ended todo hwriter hreaders hcaller := by
    refine leads_of_request hwriter hreaders ?_
    rw [← hcaller, Function.update_eq_self]

/-- Any number of threads with any programs may share a registry: however their turns are
interleaved, they get the answers that they could have got one after the other. -/
theorem linearized_run (programs : Name → List Request) (session : Session)
    (schedule : List Name) :
    ((begin programs session).run schedule).Linearized programs { session with registry := {} } :=
  (invariant_run (invariant_begin programs session) schedule).linearized

end SharedRegistry

namespace RegistryWitness

open Registry

/-- Two threads that find the slot empty, one after the other, before either fills it. -/
def schedule : List Bool :=
  [false, true, false, true, false, true, false, true] ++ List.replicate 4 true ++
    List.replicate 4 false

/-- They get the same logger, which the second of them made. -/
example : ((SharedRegistry.begin (fun _ => [.shared]) {}).run schedule).history.filterMap
    (fun mark => mark.handed?.map (mark.ticket.1, ·)) = [(true, 0), (false, 0)] := by
  decide +kernel

end RegistryWitness

end Logbook

/-
The order of the records of a shared logger.  Whatever the interleaving, the calls that are
accepted take consecutive numbers in the order in which they take the lock, and the transport
sees their records one at a time in this order, each as often as its logger asks for.  Each fact
is kept by every step of a critical section, so it holds behind every schedule.  Main statements:
`orderly_run`, and `leads_of_owner`, the lock is always given back.
-/
import Logbook.Proofs.Threads.History

namespace Logbook

variable {Name C T World : Type}

/-- The call of the thread inside that has no number yet. -/
def unnumbered : Option (Name × Phase T) → List (Name × Call)
  | some (name, .numbering call) => [(name, call)]
  | _ => []

/-- The call to a transport that the thread inside has still to make. -/
def outstanding (logger : Logger C T) : Option (Name × Phase T) → List (T × Record)
  | some (_, .printing record) => (logger.route.map (·, record)).toList
  | some (_, .sending record) => (logger.route.map (·, record)).toList
  | _ => []

/-- The number of threads inside a transport. -/
def underway : Option (Name × Phase T) → Nat
  | some (_, .delivering _ _) => 1
  | _ => 0

/-- The record of a call that takes a given number. -/
def IsRecordOf (logger : Logger C T) (seq : UInt32) (call : Call) (record : Record) : Prop :=
  ∃ stamp, record = .new stamp seq call.level logger.nodeName
    (markedMessage call.location call.message)

namespace Happens

variable {logger : Logger C T} {mark : Mark Name T} {inside inside' : Option (Name × Phase T)}

/-- Calls are numbered in the order in which they took the lock. -/
theorem numberings_step (h : Happens logger inside mark inside') {history : List (Mark Name T)}
    (ih : acquisitions history =
      (numberings history).map (fun entry => (entry.thread, entry.call)) ++ unnumbered inside) :
    acquisitions (history ++ [mark]) =
      (numberings (history ++ [mark])).map (fun entry => (entry.thread, entry.call)) ++
        unnumbered inside' := by
  cases h <;> simpa [Mark.acquisition?, Mark.numbered?, unnumbered] using ih

/-- The counter is ahead of its start by the number of records. -/
theorem nextSeq_step (h : Happens logger inside mark inside') {history : List (Mark Name T)}
    {start : UInt32} (ih : logger.nextSeq = start + UInt32.ofNat (numberings history).length) :
    (mark.replay logger).nextSeq =
      start + UInt32.ofNat (numberings (history ++ [mark])).length := by
  cases h with
  | numbered name call stamp =>
      simp [Mark.numbered?, Mark.replay, ih, UInt32.ofNat_add, UInt32.add_assoc]
  | _ => simpa [Mark.numbered?, Mark.replay] using ih

theorem nodeName_step (h : Happens logger inside mark inside') :
    (mark.replay logger).nodeName = logger.nodeName := by
  cases h with
  | changed name setting => exact setting.apply_nodeName logger
  | _ => rfl

/-- The record at each place carries the number of this place. -/
theorem record_step (h : Happens logger inside mark inside') {history : List (Mark Name T)}
    {start : Logger C T} (hnode : logger.nodeName = start.nodeName)
    (hseq : logger.nextSeq = start.nextSeq + UInt32.ofNat (numberings history).length)
    (ih : ∀ k entry, (numberings history)[k]? = some entry →
      IsRecordOf start (start.nextSeq + UInt32.ofNat k) entry.call entry.record) :
    ∀ k entry, (numberings (history ++ [mark]))[k]? = some entry →
      IsRecordOf start (start.nextSeq + UInt32.ofNat k) entry.call entry.record := by
  intro k entry hentry
  rw [numberings_grown] at hentry
  cases h with
  | numbered name call stamp =>
      rcases Nat.lt_trichotomy k (numberings history).length with hk | rfl | hk
      · exact ih k entry (by simpa [List.getElem?_append_left hk] using hentry)
      · obtain rfl : entry = ⟨name, call, (logger.number stamp call).1⟩ := by
          simpa [Mark.numbered?] using hentry.symm
        exact ⟨stamp, by simp [Logger.number, hseq, hnode]⟩
      · have := (List.getElem?_eq_some_iff.mp hentry).1
        simp only [Mark.numbered?, Option.toList_some, List.length_append, List.length_singleton]
          at this
        omega
  | _ => exact ih k entry (by simpa [Mark.numbered?] using hentry)

/-- What a history asks for is what it has sent and what the thread inside has still to send,
unless a line was cut off. -/
theorem routed_step (h : Happens logger inside mark inside') {history : List (Mark Name T)}
    {start : Logger C T} (hlogger : logger = replay start history) (hmark : mark.isTorn = false)
    (ih : routed start history = invocations history ++ outstanding logger inside) :
    routed start (history ++ [mark]) =
      invocations (history ++ [mark]) ++ outstanding (mark.replay logger) inside' := by
  rw [routed_grown, invocations_grown, ← hlogger, ih]
  cases h with
  | numbered name call stamp =>
      -- The record is due at once: taking a number does not change where records go.
      simp only [Mark.numbered?, Mark.invocation?, Mark.replay, outstanding]
      simp [Logger.route]
  | entered name record transport hroute =>
      simp [Mark.numbered?, Mark.invocation?, outstanding, hroute]
  | unsent name record hroute =>
      simp [Mark.numbered?, Mark.invocation?, outstanding, hroute]
  | torn name record => simp [Mark.isTorn] at hmark
  | _ => simp [Mark.numbered?, Mark.invocation?, Mark.replay, outstanding]

/-- No call to a transport is made that a history does not ask for. -/
theorem sublist_step (h : Happens logger inside mark inside') {history : List (Mark Name T)}
    {start : Logger C T} (hlogger : logger = replay start history)
    (ih : (invocations history ++ outstanding logger inside).Sublist (routed start history)) :
    (invocations (history ++ [mark]) ++ outstanding (mark.replay logger) inside').Sublist
      (routed start (history ++ [mark])) := by
  rw [routed_grown, invocations_grown, ← hlogger]
  cases h with
  | numbered name call stamp =>
      have hsent : (invocations history).Sublist (routed start history) := by
        simpa [outstanding] using ih
      simp only [Mark.numbered?, Mark.invocation?, Mark.replay, outstanding, Option.toList_none,
        List.append_nil, Option.bind_some]
      exact hsent.append_right _
  | torn name record =>
      -- The record is given up, so less is due than before.
      have hsent := (List.sublist_append_left _ _).trans ih
      simpa [Mark.numbered?, Mark.invocation?, outstanding] using hsent
  | entered name record transport hroute =>
      simpa [Mark.numbered?, Mark.invocation?, outstanding, hroute] using ih
  | unsent name record hroute =>
      simpa [Mark.numbered?, Mark.invocation?, outstanding, hroute] using ih
  | _ => simpa [Mark.numbered?, Mark.invocation?, Mark.replay, outstanding] using ih

/-- As many calls to transports have come to their end as were made, but for one that is
underway. -/
theorem underway_step (h : Happens logger inside mark inside') {history : List (Mark Name T)}
    (ih : (invocations history).length = history.countP Mark.isLeft + underway inside) :
    (invocations (history ++ [mark])).length =
      (history ++ [mark]).countP Mark.isLeft + underway inside' := by
  rw [invocations_grown, List.countP_append]
  cases h <;> simpa [Mark.invocation?, Mark.isLeft, underway] using ih

/-- A transport is called while no call to one is underway. -/
theorem alone_step (h : Happens logger inside mark inside') {history : List (Mark Name T)}
    (hunderway : (invocations history).length = history.countP Mark.isLeft + underway inside)
    (ih : ∀ before name transport record after,
      history = before ++ .entered name transport record :: after →
        (invocations before).length = before.countP Mark.isLeft) :
    ∀ before name transport record after,
      history ++ [mark] = before ++ .entered name transport record :: after →
        (invocations before).length = before.countP Mark.isLeft := by
  intro before name transport record after hsplit
  rcases split_grown hsplit with ⟨rfl, rfl⟩ | ⟨rest, hrest⟩
  · cases h
    simpa [underway] using hunderway
  · exact ih before name transport record rest hrest

/-- Every call is held against the threshold of its moment. -/
theorem checked_step (h : Happens logger inside mark inside') {history : List (Mark Name T)}
    {start : Logger C T} (hlogger : logger = replay start history)
    (ih : ∀ before name call accepted after,
      history = before ++ .checked name call accepted :: after →
        accepted = (replay start before).enabled call.level) :
    ∀ before name call accepted after,
      history ++ [mark] = before ++ .checked name call accepted :: after →
        accepted = (replay start before).enabled call.level := by
  intro before name call accepted after hsplit
  rcases split_grown hsplit with ⟨rfl, rfl⟩ | ⟨rest, hrest⟩
  · cases h
    rw [hlogger]
  · exact ih before name call accepted rest hrest

end Happens

/-- The records that a history asks transports to be called with are records of the history, in
their order. -/
theorem routed_sublist_numberings (logger : Logger C T) (history : List (Mark Name T)) :
    ((routed logger history).map Prod.snd).Sublist ((numberings history).map Numbered.record) := by
  induction history generalizing logger with
  | nil => exact List.Sublist.slnil
  | cons mark rest ih =>
      have hrest := ih (mark.replay logger)
      cases hmark : mark.numbered? with
      | none => simpa [routed, numberings, hmark] using hrest
      | some entry =>
          cases hroute : logger.route with
          | none => simpa [routed, numberings, hmark, hroute] using hrest.cons entry.record
          | some transport => simpa [routed, numberings, hmark, hroute] using hrest

/-- Numbers that are less than 2³² apart are different words. -/
theorem ofNat_add_ne {start : UInt32} {i j : Nat} (hij : i < j) (hj : j < i + UInt32.size) :
    start + UInt32.ofNat i ≠ start + UInt32.ofNat j := by
  intro h
  have h' := congrArg UInt32.toNat ((UInt32.add_right_inj start).mp h)
  simp only [UInt32.toNat_ofNat'] at h'
  rw [UInt32.size] at hj
  omega

namespace Shared

variable [DecidableEq Name]

/-- What every move keeps. -/
structure Invariant (programs : Name → List (Task T)) (start : Logger C T)
    (s : Shared Name C T World) : Prop where
  exclusive : s.Exclusive
  todo : ∀ name, s.history.filterMap (Mark.taken? name) ++ (s.threads name).todo = programs name
  waits : ∀ name, s.history.filterMap (Mark.accepted? name) =
    s.history.filterMap (Mark.locked? name) ++ (s.threads name).phase.waits
  logger : s.logger = replay start s.history
  nodeName : s.logger.nodeName = start.nodeName
  checked : ∀ before name call accepted after,
    s.history = before ++ .checked name call accepted :: after →
      accepted = (replay start before).enabled call.level
  numberings : acquisitions s.history =
    (numberings s.history).map (fun entry => (entry.thread, entry.call)) ++ unnumbered s.inside
  nextSeq : s.logger.nextSeq = start.nextSeq + UInt32.ofNat (Logbook.numberings s.history).length
  record : ∀ k entry, (Logbook.numberings s.history)[k]? = some entry →
    IsRecordOf start (start.nextSeq + UInt32.ofNat k) entry.call entry.record
  routed : (∀ mark ∈ s.history, mark.isTorn = false) →
    routed start s.history = invocations s.history ++ outstanding s.logger s.inside
  sublist : (invocations s.history ++ outstanding s.logger s.inside).Sublist
    (Logbook.routed start s.history)
  underway : (invocations s.history).length =
    s.history.countP Mark.isLeft + underway s.inside
  alone : ∀ before name transport record after,
    s.history = before ++ .entered name transport record :: after →
      (invocations before).length = before.countP Mark.isLeft

theorem invariant_begin (programs : Name → List (Task T)) (start : Logger C T) (world : World) :
    (begin programs start world).Invariant programs start where
  exclusive name := by simp [begin, Phase.holds]
  todo name := rfl
  waits name := rfl
  logger := rfl
  nodeName := rfl
  checked := by simp [begin]
  numberings := rfl
  nextSeq := by simp [begin, Logbook.numberings]
  record := by simp [begin, Logbook.numberings]
  routed _ := rfl
  sublist := List.Sublist.slnil
  underway := rfl
  alone := by simp [begin]

theorem Turned.invariant {programs : Name → List (Task T)} {start : Logger C T}
    {s s' : Shared Name C T World} {mark : Mark Name T} (h : Turned s mark s')
    (hs : s.Invariant programs start) : s'.Invariant programs start where
  exclusive := h.exclusive
  todo name := by
    rw [h.history, filterMap_grown, List.append_assoc, h.todo name, hs.todo name]
  waits name := by
    rw [h.history, filterMap_grown, filterMap_grown, hs.waits name, List.append_assoc,
      List.append_assoc, h.waits name]
  logger := by rw [h.logger, h.history, replay_append, ← hs.logger, replay_singleton]
  nodeName := by rw [h.logger, h.happens.nodeName_step, hs.nodeName]
  checked := by
    rw [h.history]
    exact h.happens.checked_step hs.logger hs.checked
  numberings := by
    rw [h.history]
    exact h.happens.numberings_step hs.numberings
  nextSeq := by
    rw [h.history, h.logger]
    exact h.happens.nextSeq_step hs.nextSeq
  record := by
    rw [h.history]
    exact h.happens.record_step hs.nodeName hs.nextSeq hs.record
  routed huntorn := by
    rw [h.history] at huntorn ⊢
    rw [h.logger]
    refine h.happens.routed_step hs.logger (huntorn mark (by simp)) (hs.routed ?_)
    exact fun earlier hearlier => huntorn earlier (List.mem_append_left _ hearlier)
  sublist := by
    rw [h.history, h.logger]
    exact h.happens.sublist_step hs.logger hs.sublist
  underway := by
    rw [h.history]
    exact h.happens.underway_step hs.underway
  alone := by
    rw [h.history]
    exact h.happens.alone_step hs.underway hs.alone

theorem invariant_move (outlets : Outlets C T World) {programs : Name → List (Task T)}
    {start : Logger C T} {s : Shared Name C T World} (hs : s.Invariant programs start)
    (next : Move Name World) : (s.move outlets next).Invariant programs start := by
  cases next with
  | turn name stamp =>
      rcases turned_turn outlets hs.exclusive name stamp with hwasted | ⟨mark, hturned⟩
      · rw [move, hwasted]
        exact hs
      · exact hturned.invariant hs
  | outside change => exact { hs with }

theorem invariant_run (outlets : Outlets C T World) {programs : Name → List (Task T)}
    {start : Logger C T} {s : Shared Name C T World} (hs : s.Invariant programs start)
    (schedule : List (Move Name World)) : (s.run outlets schedule).Invariant programs start := by
  induction schedule generalizing s with
  | nil => exact hs
  | cons next rest ih => exact ih (invariant_move outlets hs next)

/-- The thread inside gives the lock back by turns of its own, whatever the console and the
transport do. -/
theorem leads_of_owner (outlets : Outlets C T World) {s : Shared Name C T World}
    (hs : s.Exclusive) {name : Name} (howner : s.owner = some name) (stamp : Stamp) :
    s.Leads outlets name stamp (·.owner = none) := by
  have hthread : s.threads =
      Function.update s.threads name ⟨(s.threads name).phase, (s.threads name).todo⟩ :=
    (Function.update_eq_self name s.threads).symm
  have hholds := (hs name).mpr howner
  have hfinished : ∀ {logger : Logger C T} {world : World},
      s.Leads outlets name stamp
        (Finished s.threads name (s.threads name).todo logger world) →
      s.Leads outlets name stamp (·.owner = none) := by
    rintro logger world ⟨n, hn⟩
    exact ⟨n, hn.owner⟩
  cases hphase : (s.threads name).phase with
  | idle => simp [hphase, Phase.holds] at hholds
  | waiting call => simp [hphase, Phase.holds] at hholds
  | numbering call => exact hfinished (leads_of_numbering (hphase ▸ hthread))
  | printing record => exact hfinished (leads_of_printing (hphase ▸ hthread))
  | sending record => exact hfinished (leads_of_sending (hphase ▸ hthread))
  | delivering transport record => exact hfinished (leads_of_delivering (hphase ▸ hthread))
  | changing setting => exact hfinished (leads_of_changing (hphase ▸ hthread))
  | releasing => exact hfinished (leads_of_releasing (hphase ▸ hthread))

/-- What holds at every moment of every interleaving. -/
structure Orderly (outlets : Outlets C T World) (programs : Name → List (Task T))
    (start : Logger C T) (s : Shared Name C T World) : Prop where
  /-- Every thread takes up the tasks of its program in their order. -/
  todo : ∀ name, s.history.filterMap (Mark.taken? name) ++ (s.threads name).todo = programs name
  /-- The logger is what the changes and the accepted calls have made of it. -/
  logger : s.logger = replay start s.history
  /-- A call is accepted when it is not below the threshold of the moment of its own check. -/
  checked : ∀ before name call accepted after,
    s.history = before ++ .checked name call accepted :: after →
      (accepted = true ↔ (replay start before).minLevel ≤ call.level)
  /-- The calls of a thread that are accepted are those that take the lock, but for one that
  waits. -/
  waits : ∀ name, s.history.filterMap (Mark.accepted? name) =
    s.history.filterMap (Mark.locked? name) ++ (s.threads name).phase.waits
  /-- The check of a call that is rejected moves its thread on to the next task, and does nothing
  else. -/
  rejected : ∀ name stamp call rest, s.threads name = ⟨.idle, .log call :: rest⟩ →
    ¬ s.logger.minLevel ≤ call.level →
      s.turn outlets name stamp = { s with
        threads := Function.update s.threads name ⟨.idle, rest⟩
        history := s.history ++ [.checked name call false] }
  /-- Calls are numbered in the order in which they took the lock. -/
  numberings : acquisitions s.history =
    (numberings s.history).map (fun entry => (entry.thread, entry.call)) ++ unnumbered s.inside
  /-- The record at each place carries the number of this place, counted from the start. -/
  record : ∀ k entry, (Logbook.numberings s.history)[k]? = some entry →
    IsRecordOf start (start.nextSeq + UInt32.ofNat k) entry.call entry.record
  /-- Of 2³² consecutive records no two carry the same number. -/
  distinct : ∀ i j first second, (Logbook.numberings s.history)[i]? = some first →
    (Logbook.numberings s.history)[j]? = some second → i < j → j < i + UInt32.size →
      first.record.seq ≠ second.record.seq
  /-- While the lock is free, every call that took it has its number, and the counter is ahead of
  its start by all of them. -/
  nextSeq : s.owner = none →
    (acquisitions s.history).length = (Logbook.numberings s.history).length ∧
      s.logger.nextSeq = start.nextSeq + UInt32.ofNat (Logbook.numberings s.history).length
  /-- No two threads are inside a transport. -/
  apart : ∀ name other transport transport' record record',
    (s.threads name).phase = .delivering transport record →
      (s.threads other).phase = .delivering transport' record' → name = other
  /-- A transport is called when all calls to transports before have come to their end. -/
  alone : ∀ before name transport record after,
    s.history = before ++ .entered name transport record :: after →
      (invocations before).length = before.countP Mark.isLeft
  /-- Transports are called in the order of the numbers. -/
  ordered : ((invocations s.history).map Prod.snd).Sublist
    ((Logbook.numberings s.history).map Numbered.record)
  /-- Transports are called with no record more often than it asks for. -/
  sublist : (invocations s.history).Sublist (routed start s.history)
  /-- Unless a line was cut off, each record was handed once to the transport that was switched
  on when it took its number, but for the record of the thread inside. -/
  routed : (∀ mark ∈ s.history, mark.isTorn = false) →
    routed start s.history = invocations s.history ++ outstanding s.logger s.inside
  /-- Once the lock is free, no such record is left. -/
  outstanding : s.owner = none → outstanding s.logger s.inside = []
  /-- While the lock is free, a thread alone does with its next call what the logger does with
  it. -/
  solo : s.owner = none → ∀ name stamp call rest, s.threads name = ⟨.idle, .log call :: rest⟩ →
    s.Leads outlets name stamp (Finished s.threads name rest
      (((s.logger.accept? stamp call).map Prod.snd).getD s.logger)
      ((s.logger.log outlets (fun _ world => world) stamp call).outcome s.world).2)
  /-- And with its next change. -/
  soloChange : s.owner = none → ∀ name stamp setting rest,
    s.threads name = ⟨.idle, .set setting :: rest⟩ →
      s.Leads outlets name stamp
        (Finished s.threads name rest (setting.apply s.logger) s.world)

theorem orderly_of_invariant (outlets : Outlets C T World) {programs : Name → List (Task T)}
    {start : Logger C T} {s : Shared Name C T World} (hs : s.Invariant programs start) :
    s.Orderly outlets programs start where
  todo := hs.todo
  logger := hs.logger
  checked before name call accepted after h := by
    rw [hs.checked before name call accepted after h, Logger.enabled, decide_eq_true_iff]
  waits := hs.waits
  rejected name stamp call rest hthread hbelow := by
    have henabled : s.logger.enabled call.level = false := by
      simpa [Logger.enabled] using hbelow
    simp [turn, hthread, henabled, put]
  numberings := hs.numberings
  record := hs.record
  distinct i j first second hfirst hsecond hij hj := by
    obtain ⟨stamp, hfirst'⟩ := hs.record i first hfirst
    obtain ⟨stamp', hsecond'⟩ := hs.record j second hsecond
    rw [hfirst', hsecond']
    exact ofNat_add_ne hij hj
  nextSeq hfree := by
    refine ⟨?_, hs.nextSeq⟩
    rw [hs.numberings, inside_of_free hfree]
    simp [unnumbered]
  apart name other transport transport' record record' h h' := by
    have howner := (hs.exclusive name).mp (by simp [h, Phase.holds])
    have howner' := (hs.exclusive other).mp (by simp [h', Phase.holds])
    exact Option.some.inj (howner.symm.trans howner')
  alone := hs.alone
  ordered := by
    have hsent := (List.sublist_append_left _ _).trans hs.sublist
    exact (hsent.map Prod.snd).trans (routed_sublist_numberings start s.history)
  sublist := (List.sublist_append_left _ _).trans hs.sublist
  routed := hs.routed
  outstanding hfree := by
    rw [inside_of_free hfree]
    rfl
  solo hfree name stamp call rest hthread := by
    refine leads_of_call hfree ?_
    rw [← hthread, Function.update_eq_self]
  soloChange hfree name stamp setting rest hthread := by
    refine leads_of_set hfree ?_
    rw [← hthread, Function.update_eq_self]

/-- Any number of threads with any programs share a logger in an orderly way, however their turns
are interleaved. -/
theorem orderly_run (outlets : Outlets C T World) (programs : Name → List (Task T))
    (start : Logger C T) (world : World) (schedule : List (Move Name World)) :
    ((begin programs start world).run outlets schedule).Orderly outlets programs start :=
  orderly_of_invariant outlets
    (invariant_run outlets (invariant_begin programs start world) schedule)

end Shared

namespace OrderWitness

/-- Outlets whose transport always raises a fault. -/
def faulty : Outlets Unit Unit Unit where
  print _ _ := pure ()
  deliver _ _ := throw (.raised "gone")

/-- A logger with one number left before the first. -/
def start : Logger Unit Unit :=
  LoggerPlan.build { nodeName := "arm", transport := some (), sequenceStart := 4294967295 } ()

/-- Two threads, of which the second takes the lock first. -/
def schedule : List (Move Bool Unit) :=
  [.turn true ⟨0, 0⟩] ++ List.replicate 7 (.turn false ⟨0, 0⟩) ++
    List.replicate 6 (.turn true ⟨0, 0⟩)

example : (numberings ((Shared.begin (fun _ => [.log ⟨.info, "x", none⟩]) start ()).run faulty
    schedule).history).map (fun entry => (entry.thread, entry.record.seq)) =
      [(false, 4294967295), (true, 0)] := by
  decide +kernel

end OrderWitness

end Logbook

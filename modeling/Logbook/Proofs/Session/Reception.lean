/-
Threads that call one logger whose transport sends through a channel, and a consumer who receives
from it and may be gone at any moment.  A record is sent while the lock is held, behind its number,
so the channel carries the records in the order of their numbers: between the call to the channel
and its end the record is with the thread inside, and at every other moment it waits or was
received.  Only a record whose line was cut off by a fault of the console is left out.  Main
statements: `Shared.Receiving.move`, what a move keeps, and `Shared.streamed_run`.
-/
import Logbook.Proofs.Session.Channels
import Logbook.Proofs.Threads.Blank
import Logbook.Proofs.Threads.Lines

namespace Logbook

variable {Name C P : Type}

/-- A session with a channel, and what was received from the channel so far. -/
structure Reception where
  session : Session
  received : List Record := []

namespace Reception

def onSession (change : Session → Session) (reception : Reception) : Reception :=
  { reception with session := change reception.session }

/-- Receives some of the records that wait. -/
def receive (name : String) (most : Option Nat) (reception : Reception) : Reception where
  session := (reception.session.receive name most).2
  received := reception.received ++ (reception.session.receive name most).1.1

end Reception

/-- What a schedule is made of: a turn of a thread, with a clock reading, or something that the
consumer or the owners of the logger do. -/
inductive ReceptionMove (Name : Type) where
  | turn (thread : Name) (stamp : Stamp)
  /-- The consumer receives the waiting records, at most as many as it asks for. -/
  | receive (most : Option Nat)
  | dropReceiver
  /-- A handle to a logger is given up. -/
  | release (handle : String)

/-- The move of a schedule, with a receiver of a name. -/
def ReceptionMove.toMove (name : String) : ReceptionMove Name → Move Name (P × Reception)
  | .turn thread stamp => .turn thread stamp
  | .receive most => .outside fun world => (world.1, world.2.receive name most)
  | .dropReceiver => .outside fun world => (world.1, world.2.onSession (Session.dropReceiver name))
  | .release handle => .outside fun world => (world.1, world.2.onSession (Session.release handle))

theorem ReceptionMove.spares_toMove (name : String) (next : ReceptionMove Name) :
    (next.toMove name : Move Name (P × Reception)).Spares := by
  cases next with
  | turn thread stamp => trivial
  | _ => exact fun _ => rfl

/-- A turn of a schedule, for threads in another world. -/
def ReceptionMove.turn? {World : Type} : ReceptionMove Name → Option (Move Name World)
  | .turn thread stamp => some (.turn thread stamp)
  | _ => none

theorem ReceptionMove.turns_toMove {World : Type} (name : String)
    (schedule : List (ReceptionMove Name)) :
    ((schedule.map (ReceptionMove.toMove name) : List (Move Name (P × Reception))).filterMap
      Move.turn? : List (Move Name World)) = schedule.filterMap ReceptionMove.turn? := by
  rw [List.filterMap_map]
  refine congrArg (List.filterMap · schedule) (funext fun next => ?_)
  cases next <;> rfl

/-- A channel of a session, given a way to log with other loggers. -/
def Reception.deliver (logWith : LoggerId → Call → Effect Session Unit)
    (transport : Transport Outlet) (record : Record) : Effect Reception Unit :=
  (Transport.deliver (Session.send logWith) transport record).within Reception.session
    fun session reception => { reception with session }

theorem Reception.deliver_channel (logWith : LoggerId → Call → Effect Session Unit) (id : Nat)
    (record : Record) (reception : Reception) :
    Reception.deliver logWith (.outlet (.channel id)) record reception =
      .ok () (reception.onSession (Session.sent · id record)) := rfl

namespace Shared

variable [DecidableEq Name]

/-- What every move keeps. -/
structure Receiving (calls : Name → List Call) (start : Logger C (Transport Outlet))
    (key : LoggerId) (id : Nat) (name : String)
    (s : Shared Name C (Transport Outlet) (P × Reception)) : Prop where
  invariant : s.Invariant (fun thread => (calls thread).map .log) start
  calling : s.Calling start (.outlet (.channel id))
  wired : s.world.2.session.Wired key id name
  received : s.world.2.received <+: (invocations s.history).map Prod.snd
  conserved : s.world.2.session.receiving name = true →
    s.world.2.received ++ s.world.2.session.queueOf id ++ carried s.inside =
      (invocations s.history).map Prod.snd
  returned : ∀ thread, .left thread false ∉ s.history

variable {calls : Name → List Call} {start : Logger C (Transport Outlet)} {key : LoggerId}
  {id : Nat} {name : String} {s : Shared Name C (Transport Outlet) (P × Reception)}
  (print : C → List (List UInt8) → Effect P Unit)
  (logWith : LoggerId → Call → Effect Session Unit)

theorem Receiving.calling_turn (h : s.Receiving calls start key id name)
    (hroute : start.route = some (.outlet (.channel id)))
    (outlets : Outlets C (Transport Outlet) (P × Reception)) (thread : Name) (stamp : Stamp) :
    (s.turn outlets thread stamp).Calling start (.outlet (.channel id)) := by
  rcases turned_turn outlets h.invariant.exclusive thread stamp with hwasted | ⟨mark, hturned⟩
  · rw [hwasted]
    exact h.calling
  · exact h.calling.turned hroute hturned

/-- A thread comes back from the channel. -/
theorem Receiving.deliver (h : s.Receiving calls start key id name)
    (hroute : start.route = some (.outlet (.channel id))) {thread : Name}
    {transport : Transport Outlet} {record : Record}
    (hphase : (s.threads thread).phase = .delivering transport record) (stamp : Stamp) :
    (s.turn (beside print (Reception.deliver logWith)) thread stamp).Receiving calls start key id
      name := by
  have hinside := (inside_eq_delivering_iff h.invariant.exclusive).mpr hphase
  obtain rfl := h.calling.target thread transport record hinside
  have hturn : s.turn (beside print (Reception.deliver logWith)) thread stamp =
      { s with
        world := (s.world.1, s.world.2.onSession (Session.sent · id record)) }.put thread
          ⟨.releasing, (s.threads thread).todo⟩ (.left thread true) := by
    simp only [turn, hphase, beside, Effect.within, Reception.deliver_channel]
  obtain ⟨hinside', hinvocations⟩ := turn_of_delivering (beside print (Reception.deliver logWith))
    h.invariant.exclusive hphase stamp
  have hworld : (s.turn (beside print (Reception.deliver logWith)) thread stamp).world.2 =
      s.world.2.onSession (Session.sent · id record) := by
    rw [hturn]
    rfl
  constructor
  case invariant => exact invariant_move _ h.invariant (.turn thread stamp)
  case calling => exact h.calling_turn hroute _ thread stamp
  case wired =>
    rw [hworld]
    exact h.wired.send record
  case received =>
    rw [hworld, hinvocations]
    exact h.received
  case conserved =>
    rw [hworld, hinvocations, hinside']
    intro hreceiving
    have hbefore := h.conserved hreceiving
    simp only [hinside, carried] at hbefore ⊢
    rw [Reception.onSession, h.wired.queueOf_sent record hreceiving, List.append_nil,
      ← List.append_assoc]
    exact hbefore
  case returned =>
    rw [hturn]
    simpa [put] using h.returned

/-- A turn outside the channel. -/
theorem Receiving.elsewhere (h : s.Receiving calls start key id name)
    (hroute : start.route = some (.outlet (.channel id))) {thread : Name}
    (hphase : ∀ transport record, (s.threads thread).phase ≠ .delivering transport record)
    (stamp : Stamp) :
    (s.turn (beside print (Reception.deliver logWith)) thread stamp).Receiving calls start key id
      name := by
  rcases turned_turn (beside print (Reception.deliver logWith)) h.invariant.exclusive thread stamp
    with hwasted | ⟨mark, hturned⟩
  · rwa [hwasted]
  -- Nothing is sent, and the thread inside keeps the record that it carries, if it carries one.
  have hworld := snd_world_turn print (Reception.deliver logWith) s stamp hphase
  have hmark := hturned.isLeft_eq_false h.invariant.exclusive hphase
  constructor
  case invariant => exact hturned.invariant h.invariant
  case calling => exact h.calling.turned hroute hturned
  case wired =>
    rw [hworld]
    exact h.wired
  case received =>
    rw [hworld, hturned.history, invocations_grown, List.map_append]
    exact h.received.trans (List.prefix_append _ _)
  case conserved =>
    rw [hworld, hturned.history]
    exact fun hreceiving => hturned.happens.carried_step hmark (h.conserved hreceiving)
  case returned =>
    intro other hleft
    rw [hturned.history, List.mem_append, List.mem_singleton] at hleft
    rcases hleft with hleft | rfl
    · exact h.returned other hleft
    · simp [Mark.isLeft] at hmark

theorem Receiving.outside (h : s.Receiving calls start key id name) {reception : Reception}
    (hwired : reception.session.Wired key id name)
    (hreceived : reception.received <+: (invocations s.history).map Prod.snd)
    (hconserved : reception.session.receiving name = true →
      reception.received ++ reception.session.queueOf id ++ carried s.inside =
        (invocations s.history).map Prod.snd) :
    Receiving calls start key id name { s with world := (s.world.1, reception) } where
  invariant := { h.invariant with }
  calling := { h.calling with }
  wired := hwired
  received := hreceived
  conserved := hconserved
  returned := h.returned

theorem Receiving.receive (h : s.Receiving calls start key id name) (most : Option Nat) :
    Receiving calls start key id name
      { s with world := (s.world.1, s.world.2.receive name most) } := by
  have hsame := h.wired.receiving_receive most
  refine h.outside (h.wired.receive most) ?_ fun hreceiving => ?_
  · cases hreceiving : s.world.2.session.receiving name with
    | false =>
        rw [Reception.receive, Session.receive_of_not_receiving most hreceiving, List.append_nil]
        exact h.received
    | true =>
        rw [← h.conserved hreceiving, ← h.wired.queueOf_receive most, ← List.append_assoc,
          List.append_assoc]
        exact List.prefix_append _ _
  · rw [← h.conserved (hsame ▸ hreceiving), ← h.wired.queueOf_receive most]
    simp only [Reception.receive, List.append_assoc]

theorem Receiving.dropReceiver (h : s.Receiving calls start key id name) :
    Receiving calls start key id name
      { s with world := (s.world.1, s.world.2.onSession (Session.dropReceiver name)) } := by
  refine h.outside h.wired.dropReceiver h.received fun hreceiving => ?_
  rw [Reception.onSession, Session.receiving_dropReceiver] at hreceiving
  exact absurd hreceiving Bool.false_ne_true

theorem Receiving.release (h : s.Receiving calls start key id name) (handle : String) :
    Receiving calls start key id name
      { s with world := (s.world.1, s.world.2.onSession (Session.release handle)) } :=
  h.outside (h.wired.release handle) h.received h.conserved

theorem Receiving.move (h : s.Receiving calls start key id name)
    (hroute : start.route = some (.outlet (.channel id))) (next : ReceptionMove Name) :
    (s.move (beside print (Reception.deliver logWith)) (next.toMove name)).Receiving calls start key
      id name := by
  cases next with
  | turn thread stamp =>
      by_cases hinside : ∃ transport record,
          (s.threads thread).phase = .delivering transport record
      · obtain ⟨transport, record, hphase⟩ := hinside
        exact h.deliver print logWith hroute hphase stamp
      · exact h.elsewhere print logWith hroute
          (fun transport record hphase => hinside ⟨transport, record, hphase⟩) stamp
  | receive most => exact h.receive most
  | dropReceiver => exact h.dropReceiver
  | release handle => exact h.release handle

theorem Receiving.run (h : s.Receiving calls start key id name)
    (hroute : start.route = some (.outlet (.channel id))) (schedule : List (ReceptionMove Name)) :
    (s.run (beside print (Reception.deliver logWith))
      (schedule.map (ReceptionMove.toMove name))).Receiving calls start key id name := by
  induction schedule generalizing s with
  | nil => exact h
  | cons next rest ih => exact ih (h.move print logWith hroute next)

theorem receiving_begin (calls : Name → List Call) {start : Logger C (Transport Outlet)}
    (place : P) {session : Session} (hwired : session.Wired key id name)
    (hempty : session.queueOf id = []) :
    (begin (fun thread => (calls thread).map .log) start (place, ⟨session, []⟩)).Receiving calls
      start key id name where
  invariant := invariant_begin _ _ _
  calling := calling_begin calls start _ _
  wired := hwired
  received := List.prefix_refl _
  conserved _ := by simpa [begin, carried, inside, invocations] using hempty
  returned _ := List.not_mem_nil

/-- What a consumer receives from a channel, and what the threads notice of it. -/
structure Streamed (calls : Name → List Call) (start : Logger C (Transport Outlet)) (place : P)
    (key : LoggerId) (id : Nat) (name : String) (schedule : List (ReceptionMove Name))
    (s : Shared Name C (Transport Outlet) (P × Reception)) : Prop where
  /-- Of the logger only the counter has moved, by one for each record. -/
  logger : s.logger = { start with
    nextSeq := start.nextSeq + UInt32.ofNat (numberings s.history).length }
  /-- The records with a number carry consecutive ones, counted from the start. -/
  number : ∀ k entry, (numberings s.history)[k]? = some entry →
    entry.record.seq = start.nextSeq + UInt32.ofNat k
  /-- The records received so far are the first of those whose line has come to its end. -/
  received : s.world.2.received <+: unbroken s.history
  /-- These come in the order of their numbers. -/
  ordered : (unbroken s.history).Sublist ((numberings s.history).map Numbered.record)
  /-- Of the records with a number only those are left out whose line was cut off, or is due. -/
  missing : (unbroken s.history ++ broken s.history ++ lineDue s.inside).Perm
    ((numberings s.history).map Numbered.record)
  /-- When no line was cut off, the records received so far carry consecutive numbers, counted from
  the start. -/
  consecutive : broken s.history = [] → ∀ k record, s.world.2.received[k]? = some record →
    record.seq = start.nextSeq + UInt32.ofNat k
  /-- Of 2³² consecutive records no two carry the same number. -/
  distinct : ∀ i j first second, (numberings s.history)[i]? = some first →
    (numberings s.history)[j]? = some second → i < j → j < i + UInt32.size →
      first.record.seq ≠ second.record.seq
  /-- While there is a receiver and the lock is free, the records that were received and those that
  wait are the records whose line has come to its end. -/
  conserved : s.world.2.session.receiving name = true → s.owner = none →
    s.world.2.received ++ s.world.2.session.queueOf id = unbroken s.history
  /-- When moreover no line was cut off, they are all records with a number. -/
  complete : s.world.2.session.receiving name = true → s.owner = none → broken s.history = [] →
    s.world.2.received ++ s.world.2.session.queueOf id =
      (numberings s.history).map Numbered.record
  /-- A consumer is told that no more can come when it asks for more than waits and the logger is
  out of use, and only then. -/
  closed : s.world.2.session.receiving name = true → ∀ most,
    ((s.world.2.session.receive name most).1.2 = .closed ↔
      (∀ n, most = some n → (s.world.2.session.queueOf id).length < n) ∧
        key ∉ s.world.2.session.inUse)
  /-- Once the logger is out of use, a consumer that asks for everything receives all that waits
  and is told the end, then and whenever it asks again. -/
  drained : s.world.2.session.receiving name = true → key ∉ s.world.2.session.inUse →
    (s.world.2.session.receive name none).1 = (s.world.2.session.queueOf id, .closed) ∧
      ∀ most, (∀ n, most = some n → 0 < n) →
        ((s.world.2.session.receive name none).2.receive name most).1 = ([], .closed)
  /-- The channel raises no fault. -/
  returned : ∀ thread, .left thread false ∉ s.history
  /-- Once the receiver is gone, a call comes to what it comes to without a transport: it returns
  unless the console raises a fault. -/
  unheard : s.world.2.session.receiving name = false → ∀ stamp call,
    (s.logger.log (beside print (Reception.deliver logWith)) (fun _ world => world) stamp
        call).outcome s.world =
      ((s.logger.logUnheard print stamp call s.world.1).1,
        (s.logger.logUnheard print stamp call s.world.1).2, s.world.2)
  /-- A thread alone then comes to the end of its call, with its record counted. -/
  finished : s.world.2.session.receiving name = false → s.owner = none →
    ∀ thread stamp call rest, s.threads thread = ⟨.idle, .log call :: rest⟩ →
      s.Leads (beside print (Reception.deliver logWith)) thread stamp
        (Finished s.threads thread rest
          (((s.logger.accept? stamp call).map Prod.snd).getD s.logger)
          ((s.logger.logUnheard print stamp call s.world.1).2, s.world.2))
  /-- Whatever became of the receiver, with any other transport the same turns lead to the same
  state of the logger, of its threads, of its lock and of its console. -/
  same : ∀ {T R : Type} (deliver : T → Record → Effect R Unit) (start' : Logger C T) (rest : R)
    (schedule' : List (Move Name (P × R))), start.blank = start'.blank →
      (∀ next ∈ schedule', next.Spares) →
      (schedule.filterMap ReceptionMove.turn? : List (Move Name P)) =
        schedule'.filterMap Move.turn? →
      s.blank = ((begin (fun thread => (calls thread).map .log) start' (place, rest)).run
        (beside print deliver) schedule').blank

theorem Receiving.received_prefix (h : s.Receiving calls start key id name) :
    s.world.2.received <+: unbroken s.history := by
  rw [h.calling.sent]
  exact h.received.trans (List.prefix_append _ _)

theorem Receiving.conserved_of_free (h : s.Receiving calls start key id name)
    (hreceiving : s.world.2.session.receiving name = true) (hfree : s.owner = none) :
    s.world.2.received ++ s.world.2.session.queueOf id = unbroken s.history := by
  have hall := h.conserved hreceiving
  have hsent := h.calling.sent
  rw [inside_of_free hfree] at hall hsent
  simpa [carried, handoverDue, hsent] using hall

theorem Receiving.consecutive (h : s.Receiving calls start key id name)
    (hbroken : broken s.history = []) {k : Nat} {record : Record}
    (hrecord : s.world.2.received[k]? = some record) :
    ∃ entry, (numberings s.history)[k]? = some entry ∧ entry.record = record := by
  obtain ⟨rest, hrest⟩ := h.received_prefix.trans (List.prefix_append _ (lineDue s.inside))
  rw [h.calling.whole hbroken] at hrest
  have hplace : ((numberings s.history).map Numbered.record)[k]? = some record := by
    rw [← hrest, List.getElem?_append_left (List.getElem?_eq_some_iff.mp hrecord).1, hrecord]
  rw [List.getElem?_map] at hplace
  exact Option.map_eq_some_iff.mp hplace

/-- Once the receiver is gone, the channel does nothing. -/
theorem Receiving.quiet (h : s.Receiving calls start key id name)
    (hroute : start.route = some (.outlet (.channel id)))
    (hreceiving : s.world.2.session.receiving name = false) (transport : Transport Outlet)
    (record : Record) (htransport : s.logger.route = some transport) :
    (Reception.deliver logWith transport record).outcome s.world.2 = (.ok (), s.world.2) := by
  rw [h.calling.route, hroute] at htransport
  obtain rfl := Option.some_inj.mp htransport
  rw [Effect.outcome_of_ok (Reception.deliver_channel logWith id record s.world.2),
    Reception.onSession, h.wired.sent_eq_self record hreceiving]

theorem Receiving.finished (h : s.Receiving calls start key id name)
    (hroute : start.route = some (.outlet (.channel id)))
    (hreceiving : s.world.2.session.receiving name = false) (hfree : s.owner = none)
    {thread : Name} (stamp : Stamp) {call : Call} {rest : List (Task (Transport Outlet))}
    (hthread : s.threads thread = ⟨.idle, .log call :: rest⟩) :
    s.Leads (beside print (Reception.deliver logWith)) thread stamp
      (Finished s.threads thread rest
        (((s.logger.accept? stamp call).map Prod.snd).getD s.logger)
        ((s.logger.logUnheard print stamp call s.world.1).2, s.world.2)) := by
  have hcall := outcome_log_beside print (Reception.deliver logWith)
    (h.quiet logWith hroute hreceiving) stamp call
  have hthreads : s.threads =
      Function.update s.threads thread ⟨.idle, .log call :: rest⟩ := by
    rw [← hthread, Function.update_eq_self]
  have hleads : s.Leads (beside print (Reception.deliver logWith)) thread stamp
      (Finished s.threads thread rest (((s.logger.accept? stamp call).map Prod.snd).getD s.logger)
        ((s.logger.log (beside print (Reception.deliver logWith)) (fun _ world => world) stamp
          call).outcome s.world).2) := leads_of_call hfree hthreads
  rwa [hcall] at hleads

variable {place : P}

theorem Receiving.streamed (h : s.Receiving calls start key id name)
    (hroute : start.route = some (.outlet (.channel id))) {schedule : List (ReceptionMove Name)}
    {session : Session}
    (hs : s = (begin (fun thread => (calls thread).map .log) start (place, ⟨session, []⟩)).run
      (beside print (Reception.deliver logWith)) (schedule.map (ReceptionMove.toMove name))) :
    s.Streamed print logWith calls start place key id name schedule := by
  have hordered := orderly_of_invariant (beside print (Reception.deliver logWith)) h.invariant
  have hnumber : ∀ k entry, (numberings s.history)[k]? = some entry →
      entry.record.seq = start.nextSeq + UInt32.ofNat k := by
    intro k entry hentry
    obtain ⟨stamp, hrecord⟩ := hordered.record k entry hentry
    rw [hrecord]
    rfl
  constructor
  case logger =>
    rw [← h.invariant.nextSeq]
    exact h.calling.logger
  case number => exact hnumber
  case received => exact h.received_prefix
  case ordered => exact (List.sublist_append_left _ _).trans h.calling.lines
  case missing => exact h.calling.missing
  case consecutive =>
    intro hbroken k record hrecord
    obtain ⟨entry, hentry, rfl⟩ := h.consecutive hbroken hrecord
    exact hnumber k entry hentry
  case distinct => exact hordered.distinct
  case conserved => exact fun hreceiving hfree => h.conserved_of_free hreceiving hfree
  case complete =>
    intro hreceiving hfree hbroken
    rw [h.conserved_of_free hreceiving hfree, ← h.calling.whole hbroken, inside_of_free hfree]
    exact (List.append_nil _).symm
  case closed => exact fun hreceiving most => h.wired.closed_iff most hreceiving
  case drained => exact fun hreceiving hout => h.wired.drained hreceiving hout
  case returned => exact h.returned
  case unheard =>
    exact fun hreceiving stamp call =>
      outcome_log_beside print _ (h.quiet logWith hroute hreceiving) stamp call
  case finished =>
    exact fun hreceiving hfree thread stamp call rest hthread =>
      h.finished print logWith hroute hreceiving hfree stamp hthread
  case same =>
    intro T R deliver start' rest schedule' hstart hspares hturns
    rw [hs]
    refine blank_run_eq print _ deliver (blank_begin calls hstart place _ rest) ?_ hspares ?_
    · intro next hnext
      obtain ⟨move, -, rfl⟩ := List.mem_map.mp hnext
      exact move.spares_toMove name
    · rw [ReceptionMove.turns_toMove, hturns]

/-- However the turns of the threads are interleaved with what a consumer and the owners of the
logger do, the consumer receives the records in the order of their numbers, each of them once, and
leaves out only those whose line was cut off; and the threads notice nothing of it. -/
theorem streamed_run (calls : Name → List Call) {start : Logger C (Transport Outlet)} (place : P)
    {session : Session} (hroute : start.route = some (.outlet (.channel id)))
    (hwired : session.Wired key id name) (hempty : session.queueOf id = [])
    (schedule : List (ReceptionMove Name)) :
    ((begin (fun thread => (calls thread).map .log) start (place, ⟨session, []⟩)).run
      (beside print (Reception.deliver logWith))
        (schedule.map (ReceptionMove.toMove name))).Streamed print logWith calls start place key id
          name schedule :=
  ((receiving_begin calls place hwired hempty).run print logWith hroute schedule).streamed print
    logWith hroute rfl

end Shared

namespace ReceptionWitness

/-- A console in memory. -/
def print (_ : Unit) (pieces : List (List UInt8)) : Effect Memory Unit := do
  let _ ← Memory.alone.writePieces pieces

def session : Session := Session.opened "q" { nodeName := "imu" } {}

def start : Logger Unit (Transport Outlet) :=
  LoggerPlan.build
    { nodeName := "imu", transport := some (.outlet (.channel 0)), palette := .plain } ()

theorem wired_session : session.Wired 0 0 "q" :=
  Session.wired_opened "q" { nodeName := "imu" } {} fun _ => by simp [Session.outletsOf]

/-- A console that raises a fault at the second line. -/
def place : Memory := { limits := { faultOn := some "boom" } }

def calls (_ : Unit) : List Call :=
  ["a", "boom", "b"].map fun text => ⟨.info, text, none⟩

/-- One thread makes its calls, and a consumer receives everything. -/
def schedule : List (ReceptionMove Unit) :=
  List.replicate 19 (.turn () ⟨0, 0⟩) ++ [.receive none]

def run : Shared Unit Unit (Transport Outlet) (Memory × Reception) :=
  (Shared.begin (fun thread => (calls thread).map .log) start (place, ⟨session, []⟩)).run
    (beside print (Reception.deliver Session.log)) (schedule.map (ReceptionMove.toMove "q"))

theorem streamed_behind_fault :
    (start.route = some (.outlet (.channel 0)) ∧ session.Wired 0 0 "q" ∧
      session.queueOf 0 = []) ∧
    run.Streamed print Session.log calls start place 0 0 "q" schedule :=
  ⟨⟨rfl, wired_session, rfl⟩,
    Shared.streamed_run print Session.log calls place rfl wired_session rfl schedule⟩

/-- The record whose line raised a fault has a number, and is neither received nor waits. -/
theorem gap_behind_torn_line :
    run.owner = none ∧ run.world.2.session.receiving "q" = true ∧
      (numberings run.history).map (·.record.seq) = [0, 1, 2] ∧
      run.world.2.received.map Record.seq = [0, 2] ∧
      run.world.2.session.queueOf 0 = [] := by
  decide +kernel

end ReceptionWitness

end Logbook

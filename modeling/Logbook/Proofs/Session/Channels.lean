/-
Channels of a session.  A channel that one logger sends through is a queue: what is sent comes
last, what is received comes first, and nothing else touches it.  Receiving comes to an end of the
records that can come when the queue is empty and that logger is out of use.  Once the receiver is
gone, sending does nothing.  Main statements: `Wired.receive`, `Wired.send` and `Wired.closed_iff`.
-/
import Logbook.Session.Receiving
import Logbook.Proofs.Desk
import Logbook.Proofs.Members

namespace Logbook.Session

/-- The records that wait in a channel. -/
def queueOf (session : Session) (id : Nat) : List Record :=
  (session.channels[id]?.map Channel.queue).getD []

/-- There is a receiver of a name. -/
def receiving (session : Session) (name : String) : Bool :=
  (session.receivers.get? name).isSome

/-- A channel with its receiver, and the only logger that sends through it. -/
structure Wired (session : Session) (key : LoggerId) (id : Nat) (name : String) : Prop where
  outlet : ∀ other, .channel id ∈ session.outletsOf other ↔ other = key
  receiver : ∀ other, session.receivers.get? name = some other → other = id
  channel : session.channels[id]? = some ⟨session.queueOf id, session.receiving name⟩

variable {session : Session} {key : LoggerId} {id : Nat} {name : String}

theorem queueOf_of_channel {channel : Channel} (h : session.channels[id]? = some channel) :
    session.queueOf id = channel.queue := by
  simp [queueOf, h]

/-- A change of a channel and of its receiver does not say who sends through it. -/
theorem Wired.changed (h : session.Wired key id name) {after : Session}
    (hloggers : after.loggers = session.loggers) {channel : Channel}
    (hchannel : after.channels[id]? = some channel)
    (hreceived : channel.received = after.receiving name)
    (hreceiver : ∀ other, after.receivers.get? name = some other → other = id) :
    after.Wired key id name where
  outlet other := by
    have houtlets : after.outletsOf other = session.outletsOf other := by
      simp only [outletsOf, hloggers]
    rw [houtlets]
    exact h.outlet other
  receiver := hreceiver
  channel := by
    rw [queueOf_of_channel hchannel, ← hreceived]
    exact hchannel

section Send

/-- What sending through a channel makes of a session. -/
def sent (session : Session) (id : Nat) (record : Record) : Session :=
  { session with
    channels := session.channels.modify id fun channel =>
      if channel.received then { channel with queue := channel.queue ++ [record] } else channel }

variable (record : Record)

theorem Wired.send (h : session.Wired key id name) :
    (session.sent id record).Wired key id name := by
  have hchannel : (session.sent id record).channels[id]? = some
      (if session.receiving name then ⟨session.queueOf id ++ [record], session.receiving name⟩
        else ⟨session.queueOf id, session.receiving name⟩) := by
    simp [sent, h.channel]
  refine h.changed rfl hchannel ?_ h.receiver
  split <;> rfl

/-- While there is a receiver, a record that is sent comes last. -/
theorem Wired.queueOf_sent (h : session.Wired key id name) (hreceiving : session.receiving name) :
    (session.sent id record).queueOf id = session.queueOf id ++ [record] := by
  have hchannel : (session.sent id record).channels[id]? =
      some ⟨session.queueOf id ++ [record], true⟩ := by
    simp [sent, h.channel, hreceiving]
  rw [queueOf_of_channel hchannel]

/-- Without a receiver, sending does nothing. -/
theorem Wired.sent_eq_self (h : session.Wired key id name)
    (hreceiving : session.receiving name = false) : session.sent id record = session := by
  have hchannels : (session.sent id record).channels = session.channels := by
    refine List.ext_getElem? fun other => ?_
    by_cases hother : other = id
    · subst hother
      simp [sent, h.channel, hreceiving]
    · simp [sent, Ne.symm hother]
  change { session with channels := (session.sent id record).channels } = session
  rw [hchannels]

end Send

section Receive

variable (most : Option Nat)

/-- The first part of a queue, of a length that is asked for. -/
def taken (most : Option Nat) (queue : List Record) : List Record :=
  match most with
  | some n => queue.take n
  | none => queue

theorem taken_append_drop (queue : List Record) :
    taken most queue ++ queue.drop (taken most queue).length = queue := by
  refine (List.prefix_iff_eq_append.mp ?_)
  cases most with
  | none => exact List.prefix_refl _
  | some n => exact List.take_prefix n queue

theorem any_le_length_taken_iff (queue : List Record) :
    most.any (· ≤ (taken most queue).length) = true ↔ ∃ n, most = some n ∧ n ≤ queue.length := by
  cases most with
  | none => simp
  | some n =>
      simp only [taken, Option.any_some, decide_eq_true_iff, List.length_take, Option.some.injEq,
        exists_eq_left']
      omega

theorem receive_of_not_receiving (h : session.receiving name = false) :
    session.receive name most = (([], .closed), session) := by
  have hnone : session.receivers.get? name = none := by simpa [receiving] using h
  simp only [receive, hnone]

theorem Wired.get?_receivers (h : session.Wired key id name)
    (hreceiving : session.receiving name = true) : session.receivers.get? name = some id := by
  obtain ⟨other, hother⟩ := Option.isSome_iff_exists.mp hreceiving
  rw [hother, h.receiver other hother]

/-- A session with other records left in a channel. -/
def leaving (session : Session) (id : Nat) (rest : List Record) : Session :=
  { session with channels := session.channels.modify id ({ · with queue := rest }) }

theorem Wired.channel_leaving (h : session.Wired key id name) (rest : List Record) :
    (session.leaving id rest).channels[id]? = some ⟨rest, session.receiving name⟩ := by
  simp [leaving, h.channel]

theorem keepHeld_leaving (session : Session) (id : Nat) (waiting : List Record) (rounds : Nat)
    (ids : List LoggerId) :
    (session.leaving id waiting).keepHeld rounds ids = session.keepHeld rounds ids := by
  induction rounds generalizing ids with
  | zero => rfl
  | succ rounds ih => exact ih (ids.filter (session.isHeldBy ids))

/-- While there is a receiver, it takes a first part of what waits. -/
theorem Wired.receive_eq (h : session.Wired key id name)
    (hreceiving : session.receiving name = true) :
    session.receive name most =
      ((taken most (session.queueOf id),
        if ∃ n, most = some n ∧ n ≤ (session.queueOf id).length then .enough
        else if session.isOpen id then .empty else .closed),
      session.leaving id
        ((session.queueOf id).drop (taken most (session.queueOf id)).length)) := by
  simp only [receive, h.get?_receivers hreceiving]
  simp only [← any_le_length_taken_iff]
  rfl

/-- A logger in use keeps its channel open. -/
theorem Wired.isOpen_iff (h : session.Wired key id name) :
    session.isOpen id = true ↔ key ∈ session.inUse := by
  simp only [isOpen, List.any_eq_true, List.contains_iff_mem, h.outlet]
  exact exists_eq_right

/-- The end is told when less waits than is asked for and no more can come. -/
theorem Wired.closed_iff (h : session.Wired key id name)
    (hreceiving : session.receiving name = true) :
    (session.receive name most).1.2 = .closed ↔
      (∀ n, most = some n → (session.queueOf id).length < n) ∧ key ∉ session.inUse := by
  rw [h.receive_eq most hreceiving, ← h.isOpen_iff]
  simp only
  split
  · next henough =>
      obtain ⟨n, hmost, hn⟩ := henough
      simp only [reduceCtorEq, false_iff, not_and]
      exact fun hshort => absurd (hshort n hmost) (Nat.not_lt.mpr hn)
  · next hshort =>
      have hshort' : ∀ n, most = some n → (session.queueOf id).length < n :=
        fun n hmost => Nat.lt_of_not_le fun hn => hshort ⟨n, hmost, hn⟩
      split <;> simp_all

theorem Wired.receiving_receive (h : session.Wired key id name) :
    (session.receive name most).2.receiving name = session.receiving name := by
  cases hreceiving : session.receiving name with
  | false => rw [receive_of_not_receiving most hreceiving, hreceiving]
  | true =>
      rw [h.receive_eq most hreceiving]
      exact hreceiving

/-- What was received and what is left make up what was there. -/
theorem Wired.queueOf_receive (h : session.Wired key id name) :
    (session.receive name most).1.1 ++ (session.receive name most).2.queueOf id =
      session.queueOf id := by
  cases hreceiving : session.receiving name with
  | false => rw [receive_of_not_receiving most hreceiving, List.nil_append]
  | true =>
      rw [h.receive_eq most hreceiving]
      rw [queueOf_of_channel (h.channel_leaving _)]
      exact taken_append_drop most (session.queueOf id)

theorem Wired.receive (h : session.Wired key id name) :
    (session.receive name most).2.Wired key id name := by
  cases hreceiving : session.receiving name with
  | false =>
      rw [receive_of_not_receiving most hreceiving]
      exact h
  | true =>
      rw [h.receive_eq most hreceiving]
      exact h.changed rfl (h.channel_leaving _) rfl h.receiver

/-- To receive does not take a logger out of use. -/
theorem Wired.inUse_receive (h : session.Wired key id name) :
    (session.receive name most).2.inUse = session.inUse := by
  cases hreceiving : session.receiving name with
  | false => rw [receive_of_not_receiving most hreceiving]
  | true =>
      rw [h.receive_eq most hreceiving]
      exact keepHeld_leaving session id _ _ _

/-- When nothing waits and the logger is out of use, a consumer is told the end. -/
theorem Wired.receive_of_empty (h : session.Wired key id name)
    (hreceiving : session.receiving name = true) (hempty : session.queueOf id = [])
    (hout : key ∉ session.inUse) (hmost : ∀ n, most = some n → 0 < n) :
    (session.receive name most).1 = ([], .closed) := by
  refine Prod.ext ?_ ((h.closed_iff most hreceiving).mpr ⟨?_, hout⟩)
  · have hqueue := h.queueOf_receive most
    rw [hempty] at hqueue
    exact (List.append_eq_nil_iff.mp hqueue).1
  · simpa [hempty] using hmost

/-- Once the logger is out of use, a consumer that asks for everything receives all that waits and
is told the end, then and whenever it asks again. -/
theorem Wired.drained (h : session.Wired key id name) (hreceiving : session.receiving name = true)
    (hout : key ∉ session.inUse) :
    (session.receive name none).1 = (session.queueOf id, .closed) ∧
      ∀ most, (∀ n, most = some n → 0 < n) →
        ((session.receive name none).2.receive name most).1 = ([], .closed) := by
  have hall : (session.receive name none).1.1 = session.queueOf id := by
    rw [h.receive_eq none hreceiving]
    rfl
  refine ⟨Prod.ext hall ((h.closed_iff none hreceiving).mpr ⟨nofun, hout⟩), fun most hmost => ?_⟩
  have hempty := h.queueOf_receive none
  rw [hall] at hempty
  refine (h.receive none).receive_of_empty most ?_ (List.append_right_eq_self.mp hempty) ?_ hmost
  · rwa [h.receiving_receive]
  · rwa [h.inUse_receive]

end Receive

section Drop

/-- Once the receiver is gone, nobody can receive any more. -/
theorem receiving_dropReceiver (session : Session) (name : String) :
    (session.dropReceiver name).receiving name = false := by
  unfold dropReceiver
  split
  · next hnone => simp [receiving, hnone]
  · simp [receiving, Members.get?_filter_ne]

theorem Wired.dropReceiver (h : session.Wired key id name) :
    (session.dropReceiver name).Wired key id name := by
  unfold Session.dropReceiver
  split
  · exact h
  · next other hother =>
      obtain rfl := h.receiver other hother
      have hchannel : (session.channels.modify other fun _ => ⟨[], false⟩)[other]? =
          some ⟨[], false⟩ := by
        simp [h.channel]
      refine h.changed rfl hchannel ?_ ?_
      · simp [receiving, Members.get?_filter_ne]
      · simp [Members.get?_filter_ne]

/-- Gives up a handle. -/
def release (handle : String) (session : Session) : Session :=
  { session with handles := session.handles.filter (·.1 != handle) }

theorem Wired.release (h : session.Wired key id name) (handle : String) :
    (session.release handle).Wired key id name :=
  h.changed rfl h.channel rfl h.receiver

end Drop

section Open

variable (name : String) (plan : SessionPlan)

/-- The session with a new channel and a new logger that sends through it. -/
def opened (session : Session) : Session :=
  let (id, session) := session.addChannel name
  (session.addLogger { plan with transport := some (.outlet (.channel id)) }).2

theorem outletsOf_opened (session : Session) (other : LoggerId) :
    (session.opened name plan).outletsOf other =
      if other = session.loggers.length then [.channel (session.addChannel name).1]
      else session.outletsOf other := by
  have hloggers : (session.opened name plan).loggers = session.loggers ++
      [LoggerPlan.build { plan with
        transport := some (.outlet (.channel (session.addChannel name).1)) } .standardError] := rfl
  rw [outletsOf, hloggers]
  rcases Nat.lt_trichotomy other session.loggers.length with hlt | rfl | hgt
  · rw [List.getElem?_append_left hlt, if_neg (Nat.ne_of_lt hlt), outletsOf]
  · simp [LoggerPlan.build, Transport.outlets]
  · rw [List.getElem?_eq_none (by simp; omega), if_neg (Nat.ne_of_gt hgt), outletsOf,
      List.getElem?_eq_none (Nat.le_of_lt hgt)]

theorem channels_opened (session : Session) :
    (session.opened name plan).channels[(session.addChannel name).1]? = some ⟨[], true⟩ := by
  simp [opened, addChannel, addLogger]

theorem get?_receivers_opened (session : Session) :
    (session.opened name plan).receivers.get? name = some (session.addChannel name).1 := by
  simp [opened, addChannel, addLogger, Members.get?_put]

theorem queueOf_opened (session : Session) :
    (session.opened name plan).queueOf (session.addChannel name).1 = [] :=
  queueOf_of_channel (channels_opened name plan session)

/-- Through a new channel only the new logger sends, when no logger sends through a channel that is
not there. -/
theorem wired_opened (session : Session) (hknown : ∀ other,
      .channel (session.addChannel name).1 ∉ session.outletsOf other) :
    (session.opened name plan).Wired session.loggers.length (session.addChannel name).1 name where
  outlet other := by
    rw [outletsOf_opened]
    split
    · next hother => simp [hother]
    · next hother => simp [hother, hknown other]
  receiver other hother := by
    rw [get?_receivers_opened] at hother
    exact (Option.some_inj.mp hother).symm
  channel := by
    rw [queueOf_opened, channels_opened, receiving, get?_receivers_opened]
    rfl

end Open

end Logbook.Session

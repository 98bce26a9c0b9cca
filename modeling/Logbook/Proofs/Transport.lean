/-
Nested transports.  A transport of transports hands a record to its outlets as one flat transport
does: the outlets are called from left to right, as far as the first that raises a fault.  Since an
outlet may answer differently each time, this is a matter of whole runs, in which every fault is
caught before the next record is handed over.  Main statement: `flattened_run`.
-/
import Logbook.Transport
import Mathlib.Data.List.Forall2

namespace Logbook.Transport

variable {Outlet World : Type}

/-- A transport to some outlets in order. -/
def flat (outlets : List Outlet) : Transport Outlet :=
  .fanOut (outlets.map .outlet)

section

variable (send : Outlet → Record → Effect World Unit) (record : Record)

theorem deliverAll_append (first second : List (Transport Outlet)) :
    deliverAll send (first ++ second) record =
      (do deliverAll send first record; deliverAll send second record) := by
  induction first with
  | nil =>
      rw [List.nil_append, deliverAll]
      rfl
  | cons transport first ih =>
      rw [List.cons_append, deliverAll, deliverAll, ih]
      simp only [bind_assoc]

mutual

/-- A transport hands a record to its outlets in order, however it nests. -/
theorem deliver_eq : ∀ transport : Transport Outlet,
    deliver send transport record = deliverAll send (transport.outlets.map .outlet) record
  | .outlet target => by
      rw [outlets, List.map_singleton, deliverAll, deliverAll]
      exact (bind_pure _).symm
  | .fanOut transports => by
      rw [deliver, outlets]
      exact deliverAll_eq transports

theorem deliverAll_eq : ∀ transports : List (Transport Outlet),
    deliverAll send transports record =
      deliverAll send ((outletsOf transports).map .outlet) record
  | [] => rfl
  | transport :: rest => by
      rw [deliverAll, deliver_eq transport, deliverAll_eq rest, outletsOf, List.map_append,
        deliverAll_append]

end

end

/-- A call to an outlet, and how it ended. -/
structure Heard (Outlet : Type) where
  outlet : Outlet
  record : Record
  answer : Except Fault Unit

/-- A world, and the calls to outlets so far. -/
structure Watched (Outlet World : Type) where
  world : World
  calls : List (Heard Outlet)

/-- The calls to outlets that came of handing over a record, and how that ended. -/
structure Handover (Outlet : Type) where
  calls : List (Heard Outlet)
  answer : Except Fault Unit

section

variable (send : Outlet → Record → Effect World Unit)

/-- Calls an outlet and notes the call. -/
def watch (outlet : Outlet) (record : Record) : Effect (Watched Outlet World) Unit :=
  fun watched =>
    match send outlet record watched.world with
    | .ok _ world => .ok () ⟨world, watched.calls ++ [⟨outlet, record, .ok ()⟩]⟩
    | .error fault world => .error fault ⟨world, watched.calls ++ [⟨outlet, record, .error fault⟩]⟩

/-- Hands over a record and catches a fault: what came of it, and the world that it leaves. -/
def handOver (transport : Transport Outlet) (record : Record) (world : World) :
    Handover Outlet × World :=
  let (answer, watched) := (transport.deliver (watch send) record).outcome ⟨world, []⟩
  (⟨watched.calls, answer⟩, watched.world)

/-- Hands over records one after the other. -/
def handOverAll (transport : Transport Outlet) :
    List Record → World → List (Handover Outlet) × World
  | [], world => ([], world)
  | record :: rest, world =>
      let (handover, world) := handOver send transport record world
      let (handovers, world) := handOverAll transport rest world
      (handover :: handovers, world)

end

/-- A record was handed to outlets from left to right, to all of them or as far as the first that
raised a fault. -/
inductive Handover.Exact (outlets : List Outlet) (record : Record) : Handover Outlet → Prop where
  | complete : Exact outlets record ⟨outlets.map (⟨·, record, .ok ()⟩), .ok ()⟩
  | cut {before : List Outlet} {outlet : Outlet} {after : List Outlet} {fault : Fault}
      (split : outlets = before ++ outlet :: after) :
      Exact outlets record
        ⟨before.map (⟨·, record, .ok ()⟩) ++ [⟨outlet, record, .error fault⟩], .error fault⟩

namespace Handover

variable {outlets front back : List Outlet} {outlet : Outlet} {record : Record}
  {handover : Handover Outlet}

/-- An outlet that raised no fault stands in front of the others. -/
theorem Exact.cons (h : handover.Exact outlets record) (outlet : Outlet) :
    Exact (outlet :: outlets) record
      ⟨⟨outlet, record, .ok ()⟩ :: handover.calls, handover.answer⟩ := by
  cases h with
  | complete => exact .complete
  | @cut before last after fault split =>
      have hsplit : outlet :: outlets = (outlet :: before) ++ last :: after := by rw [split]; rfl
      exact .cut hsplit

/-- Where no fault was raised in the front, all of the front was called. -/
theorem Exact.front_prefix (h : handover.Exact (front ++ back) record)
    (hfront : handover.answer ≠ .ok () → front.length < handover.calls.length) :
    ∃ rest, handover.calls = front.map (⟨·, record, .ok ()⟩) ++ rest ∧
      ∀ call ∈ rest, call.outlet ∈ back := by
  cases h with
  | complete =>
      refine ⟨back.map (⟨·, record, .ok ()⟩), by rw [List.map_append], ?_⟩
      intro call hcall
      obtain ⟨outlet, houtlet, rfl⟩ := List.mem_map.mp hcall
      exact houtlet
  | @cut before last after fault split =>
      have hlength : front.length ≤ before.length := by
        have hlong := hfront (by simp)
        simp only [List.length_append, List.length_map, List.length_singleton] at hlong
        omega
      obtain ⟨more, rfl⟩ : front <+: before :=
        List.prefix_of_prefix_length_le (List.prefix_append front back)
          ⟨last :: after, split.symm⟩ hlength
      have hback : back = more ++ last :: after := by
        rw [List.append_assoc] at split
        exact List.append_cancel_left split
      refine ⟨more.map (⟨·, record, .ok ()⟩) ++ [⟨last, record, .error fault⟩],
        by simp only [List.map_append, List.append_assoc], ?_⟩
      intro call hcall
      rw [hback]
      rcases List.mem_append.mp hcall with hmore | hlast
      · obtain ⟨outlet, houtlet, rfl⟩ := List.mem_map.mp hmore
        exact List.mem_append_left _ houtlet
      · obtain rfl := List.mem_singleton.mp hlast
        exact List.mem_append_right _ List.mem_cons_self

end Handover

section

variable (send : Outlet → Record → Effect World Unit)

theorem outcome_watch (outlet : Outlet) (record : Record) (watched : Watched Outlet World) :
    (watch send outlet record).outcome watched =
      let (answer, world) := (send outlet record).outcome watched.world
      (answer, ⟨world, watched.calls ++ [⟨outlet, record, answer⟩]⟩) := by
  unfold Effect.outcome
  simp only [EStateM.run, watch]
  cases send outlet record watched.world <;> rfl

/-- Outlets in order are called as far as the first that raises a fault.  Nobody notices that the
calls are noted. -/
theorem exists_exact (outlets : List Outlet) (record : Record) (watched : Watched Outlet World) :
    ∃ (handover : Handover Outlet) (world : World), handover.Exact outlets record ∧
      (deliverAll (watch send) (outlets.map .outlet) record).outcome watched =
        (handover.answer, ⟨world, watched.calls ++ handover.calls⟩) ∧
      (deliverAll send (outlets.map .outlet) record).outcome watched.world =
        (handover.answer, world) := by
  induction outlets generalizing watched with
  | nil =>
      refine ⟨⟨[], .ok ()⟩, watched.world, .complete, ?_, rfl⟩
      rw [List.append_nil]
      rfl
  | cons outlet rest ih =>
      have hwatch := outcome_watch send outlet record watched
      rcases hsend : (send outlet record).outcome watched.world with ⟨answer, world⟩
      simp only [hsend] at hwatch
      rw [List.map_cons, deliverAll, deliverAll, deliver, deliver]
      rcases answer with fault | value
      · have hcut : Handover.Exact (outlet :: rest) record
            ⟨[⟨outlet, record, .error fault⟩], .error fault⟩ :=
          .cut (show outlet :: rest = [] ++ outlet :: rest from rfl)
        refine ⟨_, world, hcut, ?_, ?_⟩
        · exact Effect.outcome_bind_of_error hwatch
        · exact Effect.outcome_bind_of_error hsend
      · obtain ⟨handover, world', hexact, hwatched, hplain⟩ :=
          ih ⟨world, watched.calls ++ [⟨outlet, record, .ok ()⟩]⟩
        refine ⟨_, world', hexact.cons outlet, ?_, ?_⟩
        · rw [Effect.outcome_bind_of_ok hwatch, hwatched, List.append_assoc]
          rfl
        · rw [Effect.outcome_bind_of_ok hsend, hplain]

/-- What comes of handing over a record, to the letter; that calls are noted changes nothing. -/
theorem handOver_exact (transport : Transport Outlet) (record : Record) (world : World) :
    (handOver send transport record world).1.Exact transport.outlets record ∧
      (transport.deliver send record).outcome world =
        ((handOver send transport record world).1.answer,
          (handOver send transport record world).2) := by
  obtain ⟨handover, world', hexact, hwatched, hplain⟩ :=
    exists_exact send transport.outlets record ⟨world, []⟩
  have hhanded : handOver send transport record world = (handover, world') := by
    rw [handOver, deliver_eq, hwatched, List.nil_append]
  rw [hhanded, deliver_eq, hplain]
  exact ⟨hexact, rfl⟩

theorem handOver_flat (transport : Transport Outlet) (record : Record) (world : World) :
    handOver send (flat transport.outlets) record world = handOver send transport record world := by
  rw [handOver, handOver, deliver_eq _ _ transport, flat, deliver]

theorem handOverAll_flat (transport : Transport Outlet) (records : List Record) (world : World) :
    handOverAll send (flat transport.outlets) records world =
      handOverAll send transport records world := by
  induction records generalizing world with
  | nil => rfl
  | cons record rest ih => simp only [handOverAll, handOver_flat, ih]

theorem handOverAll_exact (transport : Transport Outlet) (records : List Record) (world : World) :
    List.Forall₂ (Handover.Exact transport.outlets) records
      (handOverAll send transport records world).1 := by
  induction records generalizing world with
  | nil => exact .nil
  | cons record rest ih => exact .cons (handOver_exact send transport record world).1 (ih _)

end

section

variable [DecidableEq Outlet]

theorem filter_calls (outlets : List Outlet) (record : Record) (outlet : Outlet) :
    ((outlets.map fun other => (⟨other, record, .ok ()⟩ : Heard Outlet)).filter
      (·.outlet = outlet)).map Heard.record = List.replicate (outlets.count outlet) record := by
  induction outlets with
  | nil => rfl
  | cons first rest ih =>
      by_cases h : first = outlet
      · simp [h, ih, List.replicate_succ]
      · simp [h, ih]

/-- Outlets in front of all faults are called for every record, once for each place they have. -/
theorem filter_handovers {outlets front back : List Outlet} {records : List Record}
    {handovers : List (Handover Outlet)} (houtlets : outlets = front ++ back)
    (h : List.Forall₂ (Handover.Exact outlets) records handovers)
    (hfront : ∀ handover ∈ handovers, handover.answer ≠ .ok () →
      front.length < handover.calls.length) {outlet : Outlet} (hoccurs : outlet ∉ back) :
    ((handovers.flatMap Handover.calls).filter (·.outlet = outlet)).map Heard.record =
      records.flatMap fun record => List.replicate (front.count outlet) record := by
  induction h with
  | nil => rfl
  | @cons record handover records handovers hexact hrest ih =>
      obtain ⟨hfirst, hlater⟩ := List.forall_mem_cons.mp hfront
      subst houtlets
      obtain ⟨rest, hcalls, hback⟩ := hexact.front_prefix hfirst
      have hnone : rest.filter (·.outlet = outlet) = [] := by
        rw [List.filter_eq_nil_iff]
        intro call hcall heq
        exact hoccurs (of_decide_eq_true heq ▸ hback call hcall)
      rw [List.flatMap_cons, List.flatMap_cons, List.filter_append, List.map_append, ih hlater,
        hcalls, List.filter_append, hnone, List.append_nil, filter_calls]

/-- What is promised of a transport, whatever its outlets do with what they have received. -/
structure Flattened (send : Outlet → Record → Effect World Unit) (transport : Transport Outlet)
    (records : List Record) (world : World) : Prop where
  /-- The calls, the faults and the world at the end are those of one flat transport. -/
  flat : handOverAll send transport records world =
    handOverAll send (flat transport.outlets) records world
  /-- Each record reaches the outlets from left to right, as far as the first fault. -/
  exact : List.Forall₂ (Handover.Exact transport.outlets) records
    (handOverAll send transport records world).1
  /-- Outlets that stand before every fault receive each record once for each place they have. -/
  front : ∀ front back, transport.outlets = front ++ back →
    (∀ handover ∈ (handOverAll send transport records world).1, handover.answer ≠ .ok () →
      front.length < handover.calls.length) →
    ∀ outlet, outlet ∉ back →
      (((handOverAll send transport records world).1.flatMap Handover.calls).filter
        (·.outlet = outlet)).map Heard.record =
      records.flatMap fun record => List.replicate (front.count outlet) record
  /-- That the calls are noted changes nothing. -/
  unwatched : ∀ record world, (transport.deliver send record).outcome world =
    ((handOver send transport record world).1.answer,
      (handOver send transport record world).2)

/-- A transport of transports is one flat transport to its outlets, whatever these do with what
they have received, in every run in which faults are caught. -/
theorem flattened_run (send : Outlet → Record → Effect World Unit) (transport : Transport Outlet)
    (records : List Record) (world : World) : Flattened send transport records world := by
  have hexact := handOverAll_exact send transport records world
  constructor
  case flat => exact (handOverAll_flat send transport records world).symm
  case exact => exact hexact
  case front =>
    intro front back houtlets hfront outlet hoccurs
    exact filter_handovers houtlets hexact hfront hoccurs
  case unwatched =>
    intro record world
    exact (handOver_exact send transport record world).2

end

/-- An outlet that takes one record and refuses the next. -/
def sendOnce (outlet : Nat) (_ : Record) : Effect (List Nat) Unit := do
  modify (· ++ [outlet])
  if outlet = 1 ∧ 1 < (← get).count outlet then throw (.raised "full")

example : ((handOverAll sendOnce (.fanOut [.fanOut [.outlet 0, .outlet 1], .fanOut [], .outlet 0])
    (List.replicate 2 (Record.new ⟨0, 0⟩ 0 .info "imu" "up")) []).2) = [0, 1, 0, 0, 1] := by
  decide +kernel

end Logbook.Transport

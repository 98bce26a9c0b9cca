/-
The output of a sink for lines of JSON that loggers share, over a writer that never fails.
Whatever the interleaving, it is made of whole lines, one behind the other, and of a first part of
the line of the thread inside.  Each record that was delivered has one line, and the lines of each
logger come in the order of their numbers.  While the sink stays switched on for a logger, and its
console raises no fault, no number is left out.  Main statements: `Invariant.move` and
`whole_lines_run`.
-/
import Logbook.Proofs.Desk.Outputs
import Logbook.Proofs.JsonLines.Lines
import Logbook.Proofs.JsonLines.SharedSink
import Logbook.Proofs.Tape.Memory
import Logbook.Proofs.Threads.Stretches

namespace Logbook

open JsonLines

variable {Key Name C T World Place : Type}

namespace JsonLines

/-- What a thread at a stage has still to write. -/
def Stage.left : Stage → List UInt8
  | .writing left => left.flatten
  | .flushing => []
  | .leaving _ => []

/-- A thread at this stage has not failed. -/
def Stage.IsWell : Stage → Prop
  | .leaving answer => answer = .ok (.ok ())
  | _ => True

/-- With a writer that never fails no step fails, and what it writes is a first part of what is
still to be written. -/
theorem Stage.step_endless (tape : Endless Place) {stage : Stage} (hwell : stage.IsWell)
    (place : Place) :
    (step tape.toWriter (stage, place)).1.IsWell ∧
      ∃ part, stage.left = part ++ (step tape.toWriter (stage, place)).1.left ∧
        tape.bytes (step tape.toWriter (stage, place)).2 = tape.bytes place ++ part := by
  cases stage with
  | leaving answer => exact ⟨hwell, [], rfl, (List.append_nil _).symm⟩
  | flushing =>
      obtain ⟨place', hflush⟩ := tape.flushes place
      simp only [step, hflush]
      exact ⟨rfl, [], rfl, (tape.kept hflush).trans (List.append_nil _).symm⟩
  | writing left =>
      rcases left with - | ⟨- | ⟨first, more⟩, rest⟩
      · exact ⟨trivial, [], rfl, (List.append_nil _).symm⟩
      · exact ⟨trivial, [], rfl, (List.append_nil _).symm⟩
      · rcases hwrite : (tape.write (first :: more)).outcome place with ⟨answer, place'⟩
        obtain ⟨n, rfl⟩ := tape.write_cases (List.cons_ne_nil first more) hwrite
        obtain ⟨-, hbytes⟩ := tape.taken hwrite
        simp only [step, hwrite]
        refine ⟨trivial, first :: more.take n, ?_, hbytes⟩
        simp only [left, List.flatten_cons, List.cons_append, ← List.append_assoc,
          List.take_append_drop]

end JsonLines

/-- The record with which the thread inside a logger has come to the sink. -/
def arrived [DecidableEq T] (sink : T) : Option (Name × Phase T) → List Record
  | some (_, .delivering transport record) => if transport = sink then [record] else []
  | _ => []

section Received

variable [DecidableEq T] (sink : T) {logger : Logger C T} {mark : Mark Name T}
  {inside inside' : Option (Name × Phase T)}

theorem receivedBy_append (before after : List (T × Record)) :
    receivedBy sink (before ++ after) = receivedBy sink before ++ receivedBy sink after := by
  simp [receivedBy]

theorem receivedBy_map (records : List Record) :
    receivedBy sink (records.map (sink, ·)) = records := by
  induction records with
  | nil => rfl
  | cons record rest ih => simpa [receivedBy] using ih

/-- The records that are given to the sink are among those given to any transport. -/
theorem receivedBy_sublist (calls : List (T × Record)) :
    (receivedBy sink calls).Sublist (calls.map Prod.snd) :=
  List.filter_sublist.map Prod.snd

/-- A record that is given to the sink brings its thread there. -/
theorem Happens.arrived_step (h : Happens logger inside mark inside')
    (hinside : arrived sink inside = []) (history : List (Mark Name T)) :
    receivedBy sink (invocations (history ++ [mark])) =
      receivedBy sink (invocations history) ++ arrived sink inside' := by
  rw [invocations_grown, receivedBy_append]
  congr 1
  cases h with
  | checked name call => exact hinside.symm
  | entered name record transport hroute =>
      by_cases hsink : transport = sink <;>
        simp [Mark.invocation?, receivedBy, arrived, hsink]
  | _ => rfl

end Received

namespace Shared

variable [DecidableEq Name]

/-- A turn of a thread that is not at the sink leaves alone who is there, or finds nobody there
and may come there itself. -/
theorem arrived_turn [DecidableEq T] (sink : T) (outlets : Outlets C T World)
    {s : Shared Name C T World} (hs : s.Exclusive) {name : Name} (stamp : Stamp)
    (hphase : ∀ record, (s.threads name).phase ≠ .delivering sink record) :
    ((s.turn outlets name stamp).inside = s.inside ∧
      invocations (s.turn outlets name stamp).history = invocations s.history) ∨
    (arrived sink s.inside = [] ∧
      receivedBy sink (invocations (s.turn outlets name stamp).history) =
        receivedBy sink (invocations s.history) ++
          arrived sink (s.turn outlets name stamp).inside) := by
  rcases turned_turn outlets hs name stamp with hwasted | ⟨mark, hturned⟩
  · rw [hwasted]
    exact Or.inl ⟨rfl, rfl⟩
  by_cases hthere : ∃ other record, s.inside = some (other, .delivering sink record)
  · -- Somebody is there, and stays there: only a check of a threshold can come in between.
    obtain ⟨other, record, hinside⟩ := hthere
    have hother := (inside_eq_delivering_iff hs).mp hinside
    have hne : other ≠ name := by
      rintro rfl
      exact hphase record hother
    have hinside' : (s.turn outlets name stamp).inside =
        some (other, .delivering sink record) := by
      rw [inside_eq_delivering_iff hturned.exclusive, threads_turn_of_ne outlets s hne]
      exact hother
    have happens := hturned.happens
    rw [hinside, hinside'] at happens
    refine Or.inl ⟨hinside'.trans hinside.symm, ?_⟩
    rw [hturned.history, invocations_grown, happens.invocation?_of_delivering]
    exact List.append_nil _
  · have hnobody : arrived sink s.inside = [] := by
      rcases hinside : s.inside with - | ⟨other, phase⟩
      · rfl
      · cases phase with
        | delivering transport record =>
            have hne : transport ≠ sink := by
              rintro rfl
              exact hthere ⟨other, record, hinside⟩
            simp [arrived, hne]
        | _ => rfl
    refine Or.inr ⟨hnobody, ?_⟩
    rw [hturned.history]
    exact hturned.happens.arrived_step sink hnobody s.history

end Shared

namespace SharedSink

variable [DecidableEq Key] [DecidableEq Name]

/-- The loggers stay sound when one of them is. -/
theorem sound_putLogger {programs : Key → Name → List (Task T)} {starts : Key → Logger C T}
    {s : SharedSink Key Name C T World Place}
    (hs : ∀ key, (s.loggers key).Sound (programs key) (starts key)) {key : Key}
    {logger : Shared Name C T World} (h : logger.Sound (programs key) (starts key)) :
    ∀ other, ((s.putLogger key logger).loggers other).Sound (programs other) (starts other) := by
  intro other
  by_cases hother : other = key
  · subst hother
    rwa [loggers_putLogger_self]
  · rw [loggers_putLogger_of_ne _ _ hother]
    exact hs other

variable [DecidableEq T]

/-- The records of one logger that were published. -/
def linesOf (s : SharedSink Key Name C T World Place) (key : Key) : List Record :=
  receivedBy key s.published

/-- What the thread inside the sink has still to write. -/
def unwritten (s : SharedSink Key Name C T World Place) : List UInt8 :=
  match s.occupant with
  | none => []
  | some occupant => occupant.stage.left

/-- What every move keeps. -/
structure Invariant (tape : Endless Place) (sink : T) (programs : Key → Name → List (Task T))
    (starts : Key → Logger C T) (place : Place) (s : SharedSink Key Name C T World Place) :
    Prop where
  sound : ∀ key, (s.loggers key).Sound (programs key) (starts key)
  occupant : ∀ occupant, s.occupant = some occupant →
    ((s.loggers occupant.key).threads occupant.name).phase = .delivering sink occupant.record ∧
      occupant.stage.IsWell ∧ occupant.stage.left <:+ line occupant.record
  newest : ∀ occupant, s.occupant = some occupant →
    ∃ others, s.published = others ++ [(occupant.key, occupant.record)]
  bytes : tape.bytes s.place ++ s.unwritten =
    tape.bytes place ++ s.published.flatMap fun entry => line entry.2
  given : ∀ key, receivedBy sink (invocations (s.loggers key).history) = s.linesOf key ++
    if s.occupant.map Occupant.key = some key then [] else arrived sink (s.loggers key).inside
  events : s.events = []

section

variable {tape : Endless Place} {sink : T} {programs : Key → Name → List (Task T)}
  {starts : Key → Logger C T} {place : Place} {s : SharedSink Key Name C T World Place}

/-- A turn of a thread that is not at the sink. -/
theorem Invariant.elsewhere (h : s.Invariant tape sink programs starts place)
    (outlets : Outlets C T World) {key : Key} {name : Name} (stamp : Stamp)
    (hphase : ∀ record, ((s.loggers key).threads name).phase ≠ .delivering sink record) :
    (s.putLogger key ((s.loggers key).turn outlets name stamp)).Invariant tape sink programs starts
      place where
  sound := sound_putLogger h.sound ((h.sound key).turn outlets name stamp)
  occupant occupant hoccupant := by
    obtain ⟨hinside, hwell⟩ := h.occupant occupant hoccupant
    refine ⟨?_, hwell⟩
    by_cases hkey : occupant.key = key
    · subst hkey
      have hne : occupant.name ≠ name := by
        rintro rfl
        exact hphase occupant.record hinside
      rwa [loggers_putLogger_self, Shared.threads_turn_of_ne outlets _ hne]
    · rwa [loggers_putLogger_of_ne _ _ hkey]
  newest := h.newest
  bytes := h.bytes
  given other := by
    by_cases hother : other = key
    · subst hother
      have hgiven := h.given other
      simp only [loggers_putLogger_self, linesOf, published_putLogger, occupant_putLogger]
        at hgiven ⊢
      rcases Shared.arrived_turn sink outlets (h.sound other).invariant.exclusive stamp hphase with
        ⟨hinside, hinvocations⟩ | ⟨hnobody, hreceived⟩
      · rwa [hinside, hinvocations]
      · -- Nobody of this logger is at the sink, so nobody is inside it.
        have houtside : ¬ s.occupant.map Occupant.key = some other := by
          intro hkey
          obtain ⟨occupant, hoccupant, rfl⟩ := Option.map_eq_some_iff.mp hkey
          have hinside := (Shared.inside_eq_delivering_iff
            (h.sound occupant.key).invariant.exclusive).mpr (h.occupant occupant hoccupant).1
          simp [arrived, hinside] at hnobody
        rw [if_neg houtside, hnobody, List.append_nil] at hgiven
        rw [if_neg houtside, hreceived, hgiven]
    · rw [loggers_putLogger_of_ne _ _ hother]
      exact h.given other
  events := h.events

/-- A thread takes the lock of the sink. -/
theorem Invariant.enter (h : s.Invariant tape sink programs starts place)
    (hfree : s.occupant = none) {key : Key} {name : Name} {record : Record}
    (hphase : ((s.loggers key).threads name).phase = .delivering sink record) :
    Invariant tape sink programs starts place { s with
      occupant := some ⟨key, name, record, .writing (pieces record)⟩
      published := s.published ++ [(key, record)] } where
  sound := h.sound
  occupant occupant hoccupant := by
    obtain rfl := Option.some_inj.mp hoccupant
    exact ⟨hphase, trivial, List.suffix_refl _⟩
  newest occupant hoccupant := by
    obtain rfl := Option.some_inj.mp hoccupant
    exact ⟨s.published, rfl⟩
  bytes := by
    have hbytes := h.bytes
    simp only [unwritten, hfree, List.append_nil] at hbytes
    simp only [unwritten, hbytes, List.flatMap_append, List.append_assoc]
    simp [Stage.left, line]
  given other := by
    have hgiven := h.given other
    rw [hfree] at hgiven
    simp only [linesOf, receivedBy_append, Option.map_some, Option.some_inj] at hgiven ⊢
    have hinside := (Shared.inside_eq_delivering_iff (h.sound key).invariant.exclusive).mpr hphase
    by_cases hother : key = other
    · subst hother
      simpa [receivedBy, arrived, hinside] using hgiven
    · simpa [receivedBy, hother] using hgiven
  events := h.events

/-- The thread inside the sink makes a call to the writer. -/
theorem Invariant.work (h : s.Invariant tape sink programs starts place)
    {occupant : Occupant Key Name} (hoccupant : s.occupant = some occupant) :
    Invariant tape sink programs starts place { s with
      place := (Stage.step tape.toWriter (occupant.stage, s.place)).2
      occupant := some { occupant with
        stage := (Stage.step tape.toWriter (occupant.stage, s.place)).1 } } := by
  obtain ⟨hinside, hwell, hsuffix⟩ := h.occupant occupant hoccupant
  obtain ⟨hwell', part, hleft, hbytes⟩ := Stage.step_endless tape hwell s.place
  constructor
  case sound => exact h.sound
  case occupant =>
    intro occupant' hoccupant'
    obtain rfl := Option.some_inj.mp hoccupant'
    rw [hleft] at hsuffix
    exact ⟨hinside, hwell', (List.suffix_append _ _).trans hsuffix⟩
  case newest =>
    intro occupant' hoccupant'
    obtain rfl := Option.some_inj.mp hoccupant'
    exact h.newest occupant hoccupant
  case bytes =>
    have hold := h.bytes
    simp only [unwritten, hoccupant, hleft] at hold
    simp only [unwritten, hbytes, List.append_assoc]
    exact hold
  case given =>
    intro other
    have hgiven := h.given other
    rw [hoccupant] at hgiven
    exact hgiven
  case events => exact h.events

/-- The thread inside the sink gives the lock back. -/
theorem Invariant.leave (h : s.Invariant tape sink programs starts place)
    {occupant : Occupant Key Name} (hoccupant : s.occupant = some occupant)
    {answer : Except Fault (Except String Unit)} (hstage : occupant.stage = .leaving answer)
    (record : Record) (outlets : Outlets C T World) (stamp : Stamp) :
    Invariant tape sink programs starts place
      ({ s with occupant := none, events := s.events ++ lossOf record answer }.putLogger
        occupant.key ((s.loggers occupant.key).turn outlets occupant.name stamp)) := by
  obtain ⟨hphase, hwell, -⟩ := h.occupant occupant hoccupant
  rw [hstage] at hwell
  obtain rfl : answer = .ok (.ok ()) := hwell
  have hsound := h.sound occupant.key
  obtain ⟨hinside, hinvocations⟩ :=
    Shared.turn_of_delivering outlets hsound.invariant.exclusive hphase stamp
  constructor
  case sound => exact sound_putLogger h.sound (hsound.turn outlets occupant.name stamp)
  case occupant =>
    intro occupant' hoccupant'
    simp at hoccupant'
  case newest =>
    intro occupant' hoccupant'
    simp at hoccupant'
  case bytes =>
    have hbytes := h.bytes
    simp only [unwritten, hoccupant, hstage, Stage.left] at hbytes
    exact hbytes
  case given =>
    intro other
    have hgiven := h.given other
    rw [hoccupant] at hgiven
    by_cases hother : other = occupant.key
    · subst hother
      simp only [Option.map_some, if_true, List.append_nil] at hgiven
      rw [loggers_putLogger_self, hinvocations, hgiven, hinside]
      exact (List.append_nil _).symm
    · have hne : ¬ occupant.key = other := fun hsame => hother hsame.symm
      simpa [loggers_putLogger_of_ne _ _ hother, linesOf, hne] using hgiven
  case events => simp [putLogger, lossOf, h.events]

/-- The world of a logger changes. -/
theorem Invariant.outside (h : s.Invariant tape sink programs starts place) (key : Key)
    (change : World → World) :
    (s.putLogger key { s.loggers key with world := change (s.loggers key).world }).Invariant tape
      sink programs starts place where
  sound := sound_putLogger h.sound
    ⟨{ (h.sound key).invariant with }, { (h.sound key).stretched with }⟩
  occupant occupant hoccupant := by
    by_cases hkey : occupant.key = key
    · subst hkey
      rw [loggers_putLogger_self]
      exact h.occupant occupant hoccupant
    · rw [loggers_putLogger_of_ne _ _ hkey]
      exact h.occupant occupant hoccupant
  newest := h.newest
  bytes := h.bytes
  given other := by
    by_cases hother : other = key
    · subst hother
      rw [loggers_putLogger_self]
      exact h.given other
    · rw [loggers_putLogger_of_ne _ _ hother]
      exact h.given other
  events := h.events

theorem Invariant.sinkTurn (h : s.Invariant tape sink programs starts place)
    (outlets : Key → Outlets C T World) {key : Key} {name : Name} {record : Record}
    (hphase : ((s.loggers key).threads name).phase = .delivering sink record) (stamp : Stamp) :
    (s.sinkTurn tape.toWriter outlets key name stamp record).Invariant tape sink programs starts
      place := by
  unfold SharedSink.sinkTurn
  split
  case h_1 hfree => exact h.enter hfree hphase
  case h_2 occupant hoccupant =>
    split
    · next hsame =>
        obtain ⟨rfl, rfl⟩ := hsame
        split
        case h_1 answer hstage => exact h.leave hoccupant hstage record _ stamp
        case h_2 => exact h.work hoccupant
    · exact h

theorem Invariant.turn (h : s.Invariant tape sink programs starts place)
    (outlets : Key → Outlets C T World) (key : Key) (name : Name) (stamp : Stamp) :
    (s.turn tape.toWriter sink outlets key name stamp).Invariant tape sink programs starts
      place := by
  unfold SharedSink.turn
  split
  case h_1 transport record hphase =>
    split
    · next hsink =>
        subst hsink
        exact h.sinkTurn outlets hphase stamp
    · next hother =>
        refine h.elsewhere (outlets key) stamp fun record' hsame => ?_
        rw [hphase] at hsame
        exact hother (Phase.delivering.inj hsame).1
  case h_2 hphase => exact h.elsewhere (outlets key) stamp fun record => hphase sink record

theorem Invariant.move (h : s.Invariant tape sink programs starts place)
    (outlets : Key → Outlets C T World) (next : SinkMove Key Name World) :
    (s.move tape.toWriter sink outlets next).Invariant tape sink programs starts place := by
  cases next with
  | turn key name stamp => exact h.turn outlets key name stamp
  | outside key change => exact h.outside key change

theorem Invariant.run (h : s.Invariant tape sink programs starts place)
    (outlets : Key → Outlets C T World) (schedule : List (SinkMove Key Name World)) :
    (s.run tape.toWriter sink outlets schedule).Invariant tape sink programs starts place := by
  induction schedule generalizing s with
  | nil => exact h
  | cons next rest ih => exact ih (h.move outlets next)

theorem invariant_begin (tape : Endless Place) (sink : T) (programs : Key → Name → List (Task T))
    (starts : Key → Logger C T) (worlds : Key → World) (place : Place) :
    (begin programs starts worlds place).Invariant tape sink programs starts place where
  sound key := ⟨Shared.invariant_begin _ _ _, Shared.stretched_begin _ _ _⟩
  occupant occupant hoccupant := by simp [begin] at hoccupant
  newest occupant hoccupant := by simp [begin] at hoccupant
  bytes := rfl
  given key := rfl
  events := rfl

end

/-- What the sink has put out, and what its lines tell of each logger. -/
structure WholeLines (tape : Endless Place) (sink : T) (outlets : Key → Outlets C T World)
    (starts : Key → Logger C T) (place : Place) (s : SharedSink Key Name C T World Place) :
    Prop where
  /-- While the lock of the sink is free, the output is made of whole lines, one for each record
  that was published. -/
  output : s.occupant = none →
    tape.bytes s.place = tape.bytes place ++ s.published.flatMap fun entry => line entry.2
  /-- Cut at its line ends, it is read as these records. -/
  read : s.occupant = none → ∃ output, tape.bytes s.place = tape.bytes place ++ output ∧
    (completeLines output).map readLine = s.published.map fun entry => .ok entry.2
  /-- At every other moment a first part of one line stands behind the whole lines, and the thread
  inside has to write the rest of it. -/
  unfinished : ∀ occupant, s.occupant = some occupant → ∃ others part,
    s.published = others ++ [(occupant.key, occupant.record)] ∧
      line occupant.record = part ++ occupant.stage.left ∧
      tape.bytes s.place = tape.bytes place ++ (others.flatMap fun entry => line entry.2) ++ part
  /-- Every record that a logger gave to the sink was published once, but for one that waits for
  the lock. -/
  delivered : ∀ key, ∃ waiting,
    receivedBy sink (invocations (s.loggers key).history) = s.linesOf key ++ waiting ∧
      waiting.length ≤ 1 ∧
      ((∀ name record, ((s.loggers key).threads name).phase ≠ .delivering sink record) →
        waiting = [])
  /-- The lines of each logger come in the order of their numbers. -/
  ordered : ∀ key, (s.linesOf key).Sublist
    ((numberings (s.loggers key).history).map Numbered.record)
  /-- While the sink stays switched on for a logger and its console raises no fault, the records
  that take numbers take consecutive ones, each of them gets a line, and no line of another record
  of that logger comes in between; none of them is due once the lock of the logger is free. -/
  consecutive : ∀ key before after, (s.loggers key).history = before ++ after →
    Steady (starts key) sink before after → ∃ earlier due,
      earlier.Sublist ((numberings before).map Numbered.record) ∧
        s.linesOf key ++ due = earlier ++ (numberings after).map Numbered.record ∧
        ((s.loggers key).owner = none → due = []) ∧
        ∀ k entry, (numberings after)[k]? = some entry → entry.record.seq =
          (starts key).nextSeq + UInt32.ofNat ((numberings before).length + k)
  /-- No record is lost. -/
  events : s.events = []
  /-- While the lock of the sink is free, a thread that has come to it puts its record on the writer
  by turns of its own, and goes on with its task. -/
  solo : s.occupant = none → ∀ key name stamp record,
    ((s.loggers key).threads name).phase = .delivering sink record →
      ∃ n, s.run tape.toWriter sink outlets (List.replicate n (.turn key name stamp)) =
        s.after tape.toWriter outlets key name stamp record

section

variable {tape : Endless Place} {sink : T} {programs : Key → Name → List (Task T)}
  {starts : Key → Logger C T} {place : Place} {s : SharedSink Key Name C T World Place}

theorem Invariant.consecutive (h : s.Invariant tape sink programs starts place) {key : Key}
    {before after : List (Mark Name T)} (hsplit : (s.loggers key).history = before ++ after)
    (hsteady : Steady (starts key) sink before after) :
    ∃ earlier due, earlier.Sublist ((numberings before).map Numbered.record) ∧
      s.linesOf key ++ due = earlier ++ (numberings after).map Numbered.record ∧
      ((s.loggers key).owner = none → due = []) ∧
      ∀ k entry, (numberings after)[k]? = some entry → entry.record.seq =
        (starts key).nextSeq + UInt32.ofNat ((numberings before).length + k) := by
  obtain ⟨hinvariant, hstretched⟩ := h.sound key
  have hgiven := h.given key
  have hsteady := congrArg (receivedBy sink) (hstretched.steady sink before after hsplit hsteady)
  rw [receivedBy_map, receivedBy_append, receivedBy_map] at hsteady
  refine ⟨receivedBy sink (invocations before) ++ (pendingIn before).toList,
    (if s.occupant.map Occupant.key = some key then [] else
      arrived sink (s.loggers key).inside) ++ (pendingIn (s.loggers key).history).toList,
    ?_, ?_, ?_, ?_⟩
  · have hbefore := hstretched.given before (hsplit ▸ List.prefix_append _ _)
    exact ((receivedBy_sublist sink _).append_right _).trans hbefore
  · have hinvocations : invocations (before ++ after) = invocations before ++ invocations after :=
      List.filterMap_append
    rw [← List.append_assoc, ← hgiven, hsplit, hinvocations, receivedBy_append, List.append_assoc,
      List.append_assoc, hsteady, hsplit]
  · intro hfree
    have hinside := Shared.inside_of_free hfree
    rw [hstretched.pending, hinside]
    simp [arrived, ungiven]
  · intro k entry hentry
    have hnumberings : numberings (before ++ after) = numberings before ++ numberings after :=
      List.filterMap_append
    have hplace : (numberings (s.loggers key).history)[(numberings before).length + k]? =
        some entry := by
      rw [hsplit, hnumberings, List.getElem?_append_right (Nat.le_add_right _ _),
        Nat.add_sub_cancel_left]
      exact hentry
    obtain ⟨stamp, hrecord⟩ := hinvariant.record _ entry hplace
    rw [hrecord]
    rfl

theorem Invariant.wholeLines (h : s.Invariant tape sink programs starts place)
    (outlets : Key → Outlets C T World) : s.WholeLines tape sink outlets starts place where
  output hfree := by
    have hbytes := h.bytes
    rwa [unwritten, hfree, List.append_nil] at hbytes
  read hfree := by
    have hbytes := h.bytes
    rw [unwritten, hfree, List.append_nil] at hbytes
    refine ⟨_, hbytes, ?_⟩
    have hlines := completeLines_flatMap (s.published.map Prod.snd) []
    rw [List.flatMap_map, List.append_nil, completeLines_of_not_mem List.not_mem_nil,
      List.append_nil] at hlines
    rw [hlines, map_readLine_body, List.map_map]
    rfl
  unfinished occupant hoccupant := by
    obtain ⟨others, hothers⟩ := h.newest occupant hoccupant
    obtain ⟨-, -, part, hpart⟩ := h.occupant occupant hoccupant
    refine ⟨others, part, hothers, hpart.symm, ?_⟩
    have hbytes := h.bytes
    simp only [unwritten, hoccupant, hothers, List.flatMap_append, List.flatMap_singleton,
      ← hpart] at hbytes
    rw [← List.append_assoc, ← List.append_assoc] at hbytes
    exact List.append_cancel_right hbytes
  delivered key := by
    refine ⟨_, h.given key, ?_, ?_⟩
    · split
      · exact Nat.zero_le 1
      · unfold arrived
        split
        · split <;> simp
        · exact Nat.zero_le 1
    · intro hnobody
      split
      · rfl
      · unfold arrived
        split
        · next name transport record hinside =>
            have hphase := (Shared.inside_eq_delivering_iff
              (h.sound key).invariant.exclusive).mp hinside
            refine if_neg ?_
            rintro rfl
            exact hnobody name record hphase
        · rfl
  ordered key := by
    have hgiven := (h.sound key).stretched.given _ (List.prefix_refl _)
    have hlines : (s.linesOf key).Sublist
        (receivedBy sink (invocations (s.loggers key).history)) := by
      rw [h.given key]
      exact List.sublist_append_left _ _
    exact (hlines.trans (receivedBy_sublist sink _)).trans
      ((List.sublist_append_left _ _).trans hgiven)
  consecutive key before after hsplit hsteady := h.consecutive hsplit hsteady
  events := h.events
  solo hfree _ _ stamp _ hphase := run_of_arrival stamp hfree hphase

end

/-- However the turns of all threads of all loggers are interleaved, the sink puts out whole lines,
and no number is left out. -/
theorem whole_lines_run (tape : Endless Place) (sink : T) (outlets : Key → Outlets C T World)
    (programs : Key → Name → List (Task T)) (starts : Key → Logger C T) (worlds : Key → World)
    (place : Place) (schedule : List (SinkMove Key Name World)) :
    ((begin programs starts worlds place).run tape.toWriter sink outlets schedule).WholeLines tape
      sink outlets starts place :=
  ((invariant_begin tape sink programs starts worlds place).run outlets schedule).wholeLines outlets

end SharedSink

namespace SharedOrderWitness

/-- A console in memory. -/
def outlets (_ : Unit) : Outlets Unit Unit Memory where
  print _ pieces := do
    let _ ← Memory.alone.writePieces pieces
  deliver _ _ := pure ()

def start : Logger Unit Unit :=
  LoggerPlan.build { nodeName := "imu", transport := some (), palette := .plain } ()

/-- A logger with one thread, whose console raises a fault at the second of three calls. -/
def run : SharedSink Unit Unit Unit Unit Memory (List UInt8 × Nat) :=
  (SharedSink.begin (fun _ _ => ["a", "boom", "b"].map fun text => .log ⟨.info, text, none⟩)
    (fun _ => start) (fun _ => { limits := { faultOn := some "boom" } }) ([], 0)).run
      Memory.endless.toWriter () outlets (List.replicate 400 (.turn () () ⟨0, 0⟩))

/-- The sink is switched on throughout, and yet the number of the record whose line raised a fault
is left out. -/
theorem gap_behind_fault :
    run.occupant = none ∧ (run.loggers ()).owner = none ∧
      (∀ part ∈ (run.loggers ()).history.inits, (replay start part).remoteOutput = true ∧
        (replay start part).transport = some ()) ∧
      (run.linesOf ()).map Record.seq = [0, 2] := by
  decide +kernel

end SharedOrderWitness

end Logbook

/-
What the parts of the command do to a world.  They read its clocks so many times and write so many
bytes to its streams, and nothing else happens to it; the console and the transport of the command
never raise a fault.  Main statements: `grown_emit` and `passed_tell`.
-/
import Logbook.Command
import Logbook.Proofs.JsonLines.RoundTrip

namespace Logbook

namespace Command

open Text

/-- The bytes of a record on the console. -/
def consoleLine (palette : Palette) (record : Record) : List UInt8 :=
  utf8 (record.line palette).toList ++ [10]

/-- The bytes of a diagnostic, if it is told. -/
def told (options : Options) (filter : Filter) (time : String) (d : Diagnostic) : List UInt8 :=
  if options.debug && d.isShownBy filter then utf8 (d.line time).toList else []

namespace Streams

/-- What was added to the streams from one moment to a later one. -/
structure Grown (before after : Streams) (out err : List UInt8) : Prop where
  out : after.out = before.out ++ out
  err : after.err = before.err ++ err

theorem Grown.refl (streams : Streams) : Grown streams streams [] [] :=
  ⟨by simp, by simp⟩

theorem Grown.trans {first second third : Streams} {out out' err err' : List UInt8}
    (h : Grown first second out err) (h' : Grown second third out' err') :
    Grown first third (out ++ out') (err ++ err') :=
  ⟨by rw [h'.out, h.out, List.append_assoc], by rw [h'.err, h.err, List.append_assoc]⟩

theorem grown_addErr (bytes : List UInt8) (streams : Streams) :
    Grown streams (streams.addErr bytes) [] bytes :=
  ⟨by simp, by simp⟩

/-- The standard output takes everything. -/
theorem grown_writeAll (bytes : List UInt8) (streams : Streams) :
    ∃ later, (outWriter.writeAll bytes).outcome streams = (.ok (.ok ()), later) ∧
      Grown streams later bytes [] := by
  cases bytes with
  | nil => exact ⟨streams, by rw [Writer.writeAll]; rfl, .refl streams⟩
  | cons first rest =>
      rw [Writer.writeAll]
      have hwrite : (outWriter.write (first :: rest)).outcome streams =
          (.ok (.ok (rest.length + 1)), streams.addOut (first :: rest)) := rfl
      refine ⟨streams.addOut (first :: rest), ?_, ⟨by simp, by simp⟩⟩
      simp only [Effect.outcome_bind_of_ok hwrite, List.drop_length]
      rw [Writer.writeAll]
      rfl

theorem grown_writePieces (pieces : List (List UInt8)) (streams : Streams) :
    ∃ later, (outWriter.writePieces pieces).outcome streams = (.ok (.ok ()), later) ∧
      Grown streams later pieces.flatten [] := by
  induction pieces generalizing streams with
  | nil => exact ⟨streams, rfl, .refl streams⟩
  | cons piece rest ih =>
      obtain ⟨middle, hpiece, hfirst⟩ := grown_writeAll piece streams
      obtain ⟨later, hrest, hmore⟩ := ih middle
      refine ⟨later, ?_, hfirst.trans hmore⟩
      simp only [Writer.writePieces, Effect.outcome_bind_of_ok hpiece, hrest]

/-- The transport of the command puts the line of a record on the standard output. -/
theorem grown_deliver (record : Record) (streams : Streams) :
    ∃ later, (outlets.deliver () record).outcome streams = (.ok (), later) ∧
      Grown streams later (JsonLines.line record) [] := by
  obtain ⟨later, hpieces, hgrown⟩ := grown_writePieces (JsonLines.pieces record) streams
  have hput : (JsonLines.put outWriter record).outcome streams = (.ok (.ok ()), later) := by
    rw [JsonLines.put, Effect.outcome_bind_of_ok hpieces]
    rfl
  refine ⟨later, ?_, hgrown⟩
  exact Effect.outcome_bind_of_ok (JsonLines.publish_of_put hput)

end Streams

section Records

variable (logger : Logger Unit Unit)

/-- The bytes of records on the standard output. -/
def jsonLines (records : List Record) : List UInt8 :=
  if logger.route.isSome then records.flatMap JsonLines.line else []

/-- The bytes of records on the console. -/
def consoleLines (records : List Record) : List UInt8 :=
  if logger.localOutput then records.flatMap (consoleLine logger.palette) else []

theorem jsonLines_append (before after : List Record) :
    jsonLines logger (before ++ after) = jsonLines logger before ++ jsonLines logger after := by
  unfold jsonLines
  split <;> simp

theorem consoleLines_append (before after : List Record) :
    consoleLines logger (before ++ after) =
      consoleLines logger before ++ consoleLines logger after := by
  unfold consoleLines
  split <;> simp

theorem grown_print (record : Record) (streams : Streams) :
    ∃ later, (logger.print Streams.outlets record).outcome streams = (.ok (), later) ∧
      Streams.Grown streams later [] (consoleLines logger [record]) := by
  unfold Logger.print consoleLines
  cases logger.localOutput with
  | false => exact ⟨streams, rfl, .refl streams⟩
  | true =>
      refine ⟨streams.addErr (logger.linePieces record).flatten, rfl, ?_⟩
      simpa [consoleLine, Logger.linePieces] using
        Streams.grown_addErr (logger.linePieces record).flatten streams

theorem grown_send (record : Record) (streams : Streams) :
    ∃ later, (logger.send Streams.outlets record).outcome streams = (.ok (), later) ∧
      Streams.Grown streams later (jsonLines logger [record]) [] := by
  unfold Logger.send jsonLines
  cases logger.route with
  | none => exact ⟨streams, rfl, .refl streams⟩
  | some transport =>
      obtain ⟨later, hdeliver, hgrown⟩ := Streams.grown_deliver record streams
      exact ⟨later, hdeliver, by simpa using hgrown⟩

/-- A record goes to the places that are switched on, and no fault is raised on the way. -/
theorem grown_emit (record : Record) (streams : Streams) :
    ∃ later, (logger.emit Streams.outlets record).outcome streams = (.ok (), later) ∧
      Streams.Grown streams later (jsonLines logger [record]) (consoleLines logger [record]) := by
  obtain ⟨middle, hprint, hprinted⟩ := grown_print logger record streams
  obtain ⟨later, hsend, hsent⟩ := grown_send logger record middle
  refine ⟨later, ?_, by simpa using hprinted.trans hsent⟩
  rw [Logger.emit, Effect.outcome_bind_of_ok hprint, hsend]

end Records

/-- From one moment of a world to a later one: how often its clocks were read, and what was
written. -/
structure World.Passed (before after : World) (stamps times : Nat) (out err : List UInt8) :
    Prop where
  stamps : after.stamps = fun i => before.stamps (i + stamps)
  times : after.times = fun i => before.times (i + times)
  streams : before.streams.Grown after.streams out err

namespace World.Passed

theorem refl (world : World) : World.Passed world world 0 0 [] [] :=
  ⟨rfl, rfl, .refl _⟩

theorem trans {first second third : World} {stamps stamps' times times' : Nat}
    {out out' err err' : List UInt8} (h : Passed first second stamps times out err)
    (h' : Passed second third stamps' times' out' err') :
    Passed first third (stamps + stamps') (times + times') (out ++ out') (err ++ err') := by
  refine ⟨?_, ?_, h.streams.trans h'.streams⟩
  · rw [h'.stamps, h.stamps]
    simp only [Nat.add_assoc, Nat.add_comm stamps' stamps]
  · rw [h'.times, h.times]
    simp only [Nat.add_assoc, Nat.add_comm times' times]

end World.Passed

section Outcome

variable {α β : Type}

/-- How a part of the work ends in a world, and the world after it. -/
def outcome (part : ExceptT Failure (StateM World) α) (world : World) :
    Except Failure α × World :=
  Id.run (part.run.run world)

variable {part : ExceptT Failure (StateM World) α} {next : α → ExceptT Failure (StateM World) β}
  {world later : World}

theorem outcome_bind_of_ok {value : α} (h : outcome part world = (.ok value, later)) :
    outcome (part >>= next) world = outcome (next value) later := by
  unfold outcome at h ⊢
  simp only [ExceptT.run_bind, StateT.run_bind, Id.run_bind, h]

theorem outcome_bind_of_error {failure : Failure}
    (h : outcome part world = (.error failure, later)) :
    outcome (part >>= next) world = (.error failure, later) := by
  unfold outcome at h ⊢
  simp only [ExceptT.run_bind, StateT.run_bind, Id.run_bind, h]
  rfl

end Outcome

/-- The world after a reading of the clock for a record. -/
theorem passed_stamp (world : World) :
    ∃ later, outcome World.host.stamp world = (.ok (world.stamps 0), later) ∧
      world.Passed later 1 0 [] [] :=
  ⟨_, rfl, rfl, rfl, .refl _⟩

/-- The world after a reading of the clock for a diagnostic. -/
theorem passed_time (world : World) :
    ∃ later, outcome World.host.time world = (.ok (world.times 0), later) ∧
      world.Passed later 0 1 [] [] :=
  ⟨_, rfl, rfl, rfl, .refl _⟩

theorem passed_write (more : Streams) (world : World) :
    ∃ later, outcome (World.host.write more) world = (.ok (), later) ∧
      world.Passed later 0 0 more.out more.err :=
  ⟨_, rfl, rfl, rfl, Streams.out_append _ _, Streams.err_append _ _⟩

/-- A diagnostic has a reading of the clock of its own, whether it shows or not. -/
theorem passed_tell (options : Options) (filter : Filter) (d : Diagnostic) (world : World) :
    ∃ later, outcome (tell World.host options filter d) world = (.ok (), later) ∧
      world.Passed later 0 1 [] (told options filter (world.times 0) d) := by
  obtain ⟨middle, htime, hread⟩ := passed_time world
  unfold tell told
  rw [outcome_bind_of_ok htime]
  split
  · obtain ⟨later, hwrite, hwritten⟩ :=
      passed_write (Streams.addError (d.line (world.times 0)) {}) middle
    exact ⟨later, hwrite, by simpa [Streams.addError] using hread.trans hwritten⟩
  · exact ⟨middle, rfl, hread⟩

end Command

end Logbook

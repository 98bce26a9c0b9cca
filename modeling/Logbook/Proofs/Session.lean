/-
Effects of a session that have nothing to do with its gates: they do the same whatever the gates
are, and leave the gates as they are.  Logging is such an effect, through any transports and
forwarding, and so is the end of a draft.  Main statements: `Session.ungated_log` and
`Session.ungated_finish`.
-/
import Logbook.Session.Receiving
import Logbook.Session.Statement
import Logbook.Proofs.Desk

namespace Logbook.Session

variable {α β : Type}

/-- A session with other gates. -/
def gated (session : Session) (gates : Gates) : Session :=
  { session with gates }

@[simp] theorem gates_gated (session : Session) (gates : Gates) :
    (session.gated gates).gates = gates := rfl

@[simp] theorem gated_gates (session : Session) : session.gated session.gates = session := rfl

/-- An effect that neither asks for the gates nor changes them. -/
def Ungated (effect : Effect Session α) : Prop :=
  ∀ session gates, effect.outcome (gated session gates) =
    ((effect.outcome session).1, (effect.outcome session).2.gated gates)

/-- Such an effect leaves the gates alone. -/
theorem Ungated.gates_outcome {effect : Effect Session α} (h : Ungated effect)
    (session : Session) : (effect.outcome session).2.gates = session.gates := by
  have hsame := h session session.gates
  rw [gated_gates] at hsame
  exact congrArg (Session.gates ·.2) hsame

theorem ungated_pure (value : α) : Ungated (pure value) :=
  fun _ _ => rfl

theorem ungated_throw (fault : Fault) : Ungated (throw fault : Effect Session α) :=
  fun _ _ => rfl

theorem ungated_modify {change : Session → Session}
    (h : ∀ session gates, change (gated session gates) = (change session).gated gates) :
    Ungated (modify change) := by
  intro session gates
  exact congrArg (Prod.mk _) (h session gates)

theorem ungated_modifyGet {change : Session → α × Session}
    (h : ∀ session gates, change (gated session gates) =
      ((change session).1, (change session).2.gated gates)) :
    Ungated (modifyGet change) := by
  intro session gates
  exact congrArg (fun result => (Except.ok result.1, result.2)) (h session gates)

theorem Ungated.bind {effect : Effect Session α} {next : α → Effect Session β}
    (heffect : Ungated effect) (hnext : ∀ value, Ungated (next value)) :
    Ungated (effect >>= next) := by
  intro session gates
  have hgated := heffect session gates
  rcases houtcome : effect.outcome session with ⟨answer, after⟩
  rw [houtcome] at hgated
  cases answer with
  | error fault => rw [Effect.outcome_bind_of_error hgated, Effect.outcome_bind_of_error houtcome]
  | ok value =>
      rw [Effect.outcome_bind_of_ok hgated, Effect.outcome_bind_of_ok houtcome]
      exact hnext value after gates

/-- An effect that looks at the session, though not at the gates. -/
theorem ungated_get_bind {next : Session → Effect Session β}
    (hsame : ∀ session gates, next (gated session gates) = next session)
    (hnext : ∀ session, Ungated (next session)) : Ungated (get >>= next) := by
  intro session gates
  change (next (gated session gates)).outcome (gated session gates) = _
  rw [hsame, hnext]
  rfl

theorem outcome_forAll_cons (thing : α) (rest : List α) (effect : α → Effect Session Unit)
    (session : Session) :
    (Effect.forAll (thing :: rest) effect).outcome session =
      (((effect thing).outcome session).1.bind fun _ =>
          ((Effect.forAll rest effect).outcome ((effect thing).outcome session).2).1,
        ((Effect.forAll rest effect).outcome ((effect thing).outcome session).2).2) := by
  unfold Effect.outcome
  rw [Effect.forAll]
  simp only [EStateM.run]
  cases effect thing session with
  | ok value after => rfl
  | error fault after =>
      cases hrest : Effect.forAll rest effect after <;> simp [hrest, Except.bind]

/-- Effects on some things, one after the other. -/
theorem ungated_forAll {effect : α → Effect Session Unit} (h : ∀ thing, Ungated (effect thing))
    (things : List α) : Ungated (Effect.forAll things effect) := by
  induction things with
  | nil => exact ungated_pure ()
  | cons thing rest ih =>
      intro session gates
      rw [outcome_forAll_cons, outcome_forAll_cons, h thing session gates, ih]

section Writers

/-- A writer that has nothing to do with the gates. -/
structure UngatedWriter (writer : Writer Session) : Prop where
  write : ∀ given, Ungated (writer.write given)
  flush : Ungated writer.flush

variable {writer : Writer Session} (h : UngatedWriter writer)
include h

theorem UngatedWriter.writeAll (given : List UInt8) : Ungated (writer.writeAll given) := by
  induction hlength : given.length using Nat.strongRecOn generalizing given with
  | ind length ih =>
      rw [Writer.writeAll.eq_def]
      cases given with
      | nil => exact ungated_pure _
      | cons first rest =>
          refine (h.write (first :: rest)).bind fun answer => ?_
          rcases answer with reason | - | n
          · exact ungated_pure _
          · exact ungated_pure _
          · have hshort : (rest.drop n).length < length := by
              simp only [List.length_cons, List.length_drop] at hlength ⊢
              omega
            exact ih _ hshort _ rfl

theorem UngatedWriter.writePieces (pieces : List (List UInt8)) :
    Ungated (writer.writePieces pieces) := by
  induction pieces with
  | nil => exact ungated_pure _
  | cons piece rest ih =>
      refine (h.writeAll piece).bind fun answer => ?_
      cases answer with
      | error reason => exact ungated_pure _
      | ok done => exact ih

theorem UngatedWriter.publish (record : Record) : Ungated (JsonLines.publish writer record) := by
  have hput : Ungated (JsonLines.put writer record) := by
    refine (h.writePieces _).bind fun answer => ?_
    cases answer with
    | error reason => exact ungated_pure _
    | ok done => exact h.flush
  refine hput.bind fun answer => ?_
  cases answer <;> exact ungated_pure _

end Writers

theorem ungated_memoryWriter (id : Nat) : UngatedWriter (memoryWriter id) where
  write given := by
    intro session gates
    have hmemory : memory? id (gated session gates) = memory? id session := rfl
    simp only [Effect.outcome, EStateM.run, memoryWriter, hmemory]
    rcases session.memory? id with - | ⟨use, memory⟩
    · rfl
    · cases hwrite : memory.write given with
      | error fault => simp only [hwrite]
      | ok taken =>
          simp only [hwrite]
          rfl
  flush := by
    intro session gates
    have hmemory : memory? id (gated session gates) = memory? id session := rfl
    simp only [Effect.outcome, EStateM.run, memoryWriter, hmemory]
    rcases session.memory? id with - | ⟨use, memory⟩ <;> rfl

theorem ungated_print (console : Console) (pieces : List (List UInt8)) :
    Ungated (print console pieces) := by
  cases console with
  | standardError => exact ungated_modify fun _ _ => rfl
  | memory id => exact ((ungated_memoryWriter id).writePieces pieces).bind fun _ => ungated_pure _

theorem ungated_send {logWith : LoggerId → Call → Effect Session Unit}
    (h : ∀ id call, Ungated (logWith id call)) (outlet : Outlet) (record : Record) :
    Ungated (send logWith outlet record) := by
  cases outlet with
  | capture name => exact ungated_modify fun _ _ => rfl
  | faulty name trigger =>
      simp only [send]
      split
      · exact ungated_throw _
      · exact ungated_modify fun _ _ => rfl
  | filter name least =>
      simp only [send]
      split
      · exact ungated_modify fun _ _ => rfl
      · exact ungated_pure _
  | jsonLines memory =>
      refine ((ungated_memoryWriter memory).publish record).bind fun event => ?_
      cases event with
      | none => exact ungated_pure _
      | some event => exact ungated_modify fun _ _ => rfl
  | events => exact ungated_modify fun _ _ => rfl
  | channel id => exact ungated_modify fun _ _ => rfl
  | forward logger => exact h logger _

mutual

theorem ungated_deliver {send : Outlet → Record → Effect Session Unit}
    (h : ∀ outlet record, Ungated (send outlet record)) (transport : Transport Outlet)
    (record : Record) : Ungated (transport.deliver send record) := by
  cases transport with
  | outlet target => exact h target record
  | fanOut transports => exact ungated_deliverAll h transports record

theorem ungated_deliverAll {send : Outlet → Record → Effect Session Unit}
    (h : ∀ outlet record, Ungated (send outlet record)) (transports : List (Transport Outlet))
    (record : Record) : Ungated (Transport.deliverAll send transports record) := by
  cases transports with
  | nil => exact ungated_pure _
  | cons transport rest =>
      exact (ungated_deliver h transport record).bind fun _ => ungated_deliverAll h rest record

end

/-- The outlets of a logger that may forward through so many loggers. -/
def outlets (depth : Nat) : Outlets Console (Transport Outlet) Session where
  print := print
  deliver := Transport.deliver (send (logWithin depth))

theorem ungated_emit {depth : Nat} (h : ∀ id call, Ungated (logWithin depth id call))
    (logger : SessionLogger) (record : Record) :
    Ungated (logger.emit (outlets depth) record) := by
  have hprint : Ungated (logger.print (outlets depth) record) := by
    unfold Logger.print
    split
    · exact ungated_print _ _
    · exact ungated_pure _
  refine hprint.bind fun _ => ?_
  unfold Logger.send
  split
  · exact ungated_deliver (ungated_send h) _ _
  · exact ungated_pure _

theorem ungated_logWithin (depth : Nat) (id : LoggerId) (call : Call) :
    Ungated (logWithin depth id call) := by
  induction depth generalizing id call with
  | zero => exact ungated_throw _
  | succ depth ih =>
      refine ungated_get_bind (fun _ _ => rfl) fun session => ?_
      split
      · exact ungated_pure _
      · next logger hlogger =>
          unfold Logger.log
          split
          · exact ungated_pure _
          · exact (ungated_modify fun _ _ => rfl).bind fun _ => ungated_emit ih _ _

theorem ungated_log (id : LoggerId) (call : Call) : Ungated (log id call) :=
  ungated_get_bind (fun _ _ => rfl) fun _ => ungated_logWithin _ id call

theorem ungated_finish (draft : OpenDraft) : Ungated (finish draft) := by
  unfold finish
  split
  · exact ungated_log _ _
  · exact ungated_pure _

end Logbook.Session

/-
Tapes.  A tape is a writer together with all the bytes it has taken, in their order.  A call takes
a first part of the bytes it is given, and none of them when it answers with a failure; a call
that raises a fault may have taken a part before.  Nothing else is known of a tape: it may fail
at one call and work at the next.

Whatever the tape does, writing a text leaves a first part of it, and all of it when every call
was answered well.  Two kinds of tapes do better: one that takes something at every call, and one
that does so until it holds a number of bytes.
-/
import Logbook.Writer.Memory
import Mathlib.Data.List.Basic

namespace Logbook

/-- How writing some bytes can go: each call that takes some of them is followed by another one
with the rest, and the first that does not is the last. -/
inductive Writer.Goes {World : Type} (writer : Writer World) :
    List UInt8 → World → Except Fault (Except String Unit) × World → Prop where
  | done (world : World) : Goes writer [] world (.ok (.ok ()), world)
  | raised {first rest world fault world'}
      (h : (writer.write (first :: rest)).outcome world = (.error fault, world')) :
      Goes writer (first :: rest) world (.error fault, world')
  | failed {first rest world reason world'}
      (h : (writer.write (first :: rest)).outcome world = (.ok (.error reason), world')) :
      Goes writer (first :: rest) world (.ok (.error reason), world')
  | stalled {first rest world world'}
      (h : (writer.write (first :: rest)).outcome world = (.ok (.ok 0), world')) :
      Goes writer (first :: rest) world (.ok (.error stalled), world')
  | more {first rest world n world' outcome}
      (h : (writer.write (first :: rest)).outcome world = (.ok (.ok (n + 1)), world'))
      (hrest : Goes writer (rest.drop n) world' outcome) :
      Goes writer (first :: rest) world outcome

theorem Writer.goes_writeAll {World : Type} (writer : Writer World) (given : List UInt8)
    (world : World) : writer.Goes given world ((writer.writeAll given).outcome world) := by
  induction hlength : given.length using Nat.strongRecOn generalizing given world with
  | ind length ih =>
      cases given with
      | nil =>
          rw [writeAll]
          exact .done world
      | cons first rest =>
          rw [writeAll]
          rcases houtcome : (writer.write (first :: rest)).outcome world with ⟨answer, world'⟩
          rcases answer with fault | reason | n
          · rw [Effect.outcome_bind_of_error houtcome]
            exact .raised houtcome
          · rw [Effect.outcome_bind_of_ok houtcome]
            exact .failed houtcome
          · rw [Effect.outcome_bind_of_ok houtcome]
            cases n with
            | zero => exact .stalled houtcome
            | succ n =>
                have hshort : (rest.drop n).length < length := by
                  simp only [List.length_cons, List.length_drop] at hlength ⊢
                  omega
                exact .more houtcome (ih (rest.drop n).length hshort (rest.drop n) world' rfl)

/-- A writer and the bytes it has taken. -/
structure Tape (World : Type) extends Writer World where
  /-- All bytes taken so far. -/
  bytes : World → List UInt8
  /-- A call that answers with a number took that many bytes. -/
  taken : ∀ {given world n world'}, (write given).outcome world = (.ok (.ok n), world') →
    n ≤ given.length ∧ bytes world' = bytes world ++ given.take n
  /-- A call that fails took nothing. -/
  refused : ∀ {given world reason world'},
    (write given).outcome world = (.ok (.error reason), world') → bytes world' = bytes world
  /-- A call that raises a fault may have taken some of the bytes. -/
  cut : ∀ {given world fault world'}, (write given).outcome world = (.error fault, world') →
    ∃ part, part <+: given ∧ bytes world' = bytes world ++ part
  /-- A flush takes nothing. -/
  kept : ∀ {world answer world'}, flush.outcome world = (answer, world') →
    bytes world' = bytes world

namespace Tape

variable {World : Type} (tape : Tape World)

/-- Writing some bytes leaves a first part of them, and all of them when it is done. -/
theorem writeAll_outcome (given : List UInt8) (world : World) :
    ∃ part, part <+: given ∧
      tape.bytes ((tape.writeAll given).outcome world).2 = tape.bytes world ++ part ∧
      (((tape.writeAll given).outcome world).1 = .ok (.ok ()) → part = given) := by
  have hgoes := tape.goes_writeAll given world
  generalize (tape.writeAll given).outcome world = outcome at hgoes
  induction hgoes with
  | done world => exact ⟨[], List.prefix_refl _, by simp, by simp⟩
  | raised h =>
      obtain ⟨part, hpart, hbytes⟩ := tape.cut h
      exact ⟨part, hpart, hbytes, by simp⟩
  | failed h => exact ⟨[], List.nil_prefix, by simpa using tape.refused h, by simp⟩
  | stalled h =>
      obtain ⟨-, hbytes⟩ := tape.taken h
      exact ⟨[], List.nil_prefix, by simpa using hbytes, by simp⟩
  | @more first rest world n world' outcome h hrest ih =>
      obtain ⟨-, hbytes⟩ := tape.taken h
      obtain ⟨part, ⟨tail, htail⟩, hpart, hdone⟩ := ih
      refine ⟨first :: rest.take n ++ part, ⟨tail, by simp [htail]⟩, ?_, ?_⟩
      · simp [hpart, hbytes]
      · intro hok
        rw [hdone hok]
        simp

/-- Writing pieces leaves a first part of their bytes, and all of them when it is done. -/
theorem writePieces_outcome (pieces : List (List UInt8)) (world : World) :
    ∃ part, part <+: pieces.flatten ∧
      tape.bytes ((tape.writePieces pieces).outcome world).2 = tape.bytes world ++ part ∧
      (((tape.writePieces pieces).outcome world).1 = .ok (.ok ()) → part = pieces.flatten) := by
  induction pieces generalizing world with
  | nil => exact ⟨[], List.prefix_refl _, by simp [Writer.writePieces], by simp⟩
  | cons piece rest ih =>
      obtain ⟨part, hpart, hbytes, hdone⟩ := tape.writeAll_outcome piece world
      have hprefix : part <+: (piece :: rest).flatten := hpart.trans (List.prefix_append _ _)
      rcases houtcome : (tape.writeAll piece).outcome world with ⟨answer, world'⟩
      rw [houtcome] at hbytes hdone
      rw [Writer.writePieces]
      cases answer with
      | error fault =>
          simp only [Effect.outcome_bind_of_error houtcome]
          exact ⟨part, hprefix, hbytes, by simp⟩
      | ok answer =>
          simp only [Effect.outcome_bind_of_ok houtcome]
          cases answer with
          | error reason => exact ⟨part, hprefix, hbytes, by simp⟩
          | ok done =>
              have hall := hdone rfl
              subst hall
              obtain ⟨more, hmore, hrest, hmoreDone⟩ := ih world'
              refine ⟨part ++ more, ?_, ?_, ?_⟩
              · obtain ⟨tail, htail⟩ := hmore
                exact ⟨tail, by simp [htail]⟩
              · simp [hrest, hbytes]
              · intro hok
                rw [hmoreDone hok]
                simp

end Tape

/-- A tape that never fails: every call takes something, and every flush is done. -/
structure Endless (World : Type) extends Tape World where
  takes : ∀ {given} world, given ≠ [] →
    ∃ n world', (write given).outcome world = (.ok (.ok n), world') ∧ 0 < n
  flushes : ∀ world, ∃ world', flush.outcome world = (.ok (.ok ()), world')

namespace Endless

variable {World : Type} (tape : Endless World)

/-- Every call takes something. -/
theorem write_cases {given : List UInt8} (hgiven : given ≠ []) {world world' : World}
    {answer : Except Fault (Except String Nat)}
    (h : (tape.write given).outcome world = (answer, world')) :
    ∃ n, answer = .ok (.ok (n + 1)) := by
  obtain ⟨n, world'', htakes, hn⟩ := tape.takes world hgiven
  obtain ⟨rfl, -⟩ := Prod.mk.inj (h.symm.trans htakes)
  exact ⟨n - 1, by rw [Nat.sub_add_cancel hn]⟩

theorem writeAll_done (given : List UInt8) (world : World) :
    ∃ world', (tape.writeAll given).outcome world = (.ok (.ok ()), world') := by
  have hgoes := tape.goes_writeAll given world
  generalize (tape.writeAll given).outcome world = outcome at hgoes
  induction hgoes with
  | done world => exact ⟨world, rfl⟩
  | raised h => simpa using tape.write_cases (List.cons_ne_nil _ _) h
  | failed h => simpa using tape.write_cases (List.cons_ne_nil _ _) h
  | stalled h => simpa using tape.write_cases (List.cons_ne_nil _ _) h
  | more h hrest ih => exact ih

/-- Writing pieces is done, and leaves all their bytes. -/
theorem writePieces_done (pieces : List (List UInt8)) (world : World) :
    ∃ world', (tape.writePieces pieces).outcome world = (.ok (.ok ()), world') ∧
      tape.bytes world' = tape.bytes world ++ pieces.flatten := by
  have hdone : ∃ world', (tape.writePieces pieces).outcome world = (.ok (.ok ()), world') := by
    induction pieces generalizing world with
    | nil => exact ⟨world, by simp [Writer.writePieces]⟩
    | cons piece rest ih =>
        obtain ⟨world', houtcome⟩ := tape.writeAll_done piece world
        rw [Writer.writePieces]
        simp only [Effect.outcome_bind_of_ok houtcome]
        exact ih world'
  obtain ⟨world', houtcome⟩ := hdone
  obtain ⟨part, -, hbytes, hall⟩ := tape.writePieces_outcome pieces world
  rw [houtcome] at hbytes hall
  rw [hall rfl] at hbytes
  exact ⟨world', houtcome, hbytes⟩

end Endless

/-- A tape that takes a number of bytes in all, as a disk does.  Below its limit every call takes
something, and never more than there is room for; at the limit every call fails or takes nothing.
Flushes are always done, and counted. -/
structure Quota (World : Type) extends Tape World where
  limit : Nat
  /-- The number of flushes. -/
  flushes : World → Nat
  takes : ∀ {given} world, given ≠ [] → (bytes world).length < limit →
    ∃ n world', (write given).outcome world = (.ok (.ok n), world') ∧ 0 < n ∧
      (bytes world).length + n ≤ limit ∧ flushes world' = flushes world
  full : ∀ {given} world, given ≠ [] → limit ≤ (bytes world).length →
    ∃ answer world', (write given).outcome world = (.ok answer, world') ∧
      (answer = .ok 0 ∨ ∃ reason, answer = .error reason) ∧ flushes world' = flushes world
  flushed : ∀ world, ∃ world', flush.outcome world = (.ok (.ok ()), world') ∧
    flushes world' = flushes world + 1

namespace Quota

variable {World : Type} (quota : Quota World)

/-- The number of bytes that there is room for. -/
def room (world : World) : Nat :=
  quota.limit - (quota.bytes world).length

/-- What came of writing some bytes: as many as there is room for are there, and there is room for
all of them exactly when it is done. -/
structure Written (given : List UInt8) (world : World)
    (outcome : Except Fault (Except String Unit) × World) : Prop where
  bytes : quota.bytes outcome.2 = quota.bytes world ++ given.take (quota.room world)
  flushes : quota.flushes outcome.2 = quota.flushes world
  done : given.length ≤ quota.room world → outcome.1 = .ok (.ok ())
  failed : quota.room world < given.length → ∃ reason, outcome.1 = .ok (.error reason)

/-- Bytes that there was room for stand in front of what is written next. -/
theorem Written.behind {quota : Quota World} {part rest : List UInt8} {world world' : World}
    {outcome : Except Fault (Except String Unit) × World}
    (hbytes : quota.bytes world' = quota.bytes world ++ part)
    (hfits : part.length ≤ quota.room world)
    (hflushes : quota.flushes world' = quota.flushes world)
    (h : quota.Written rest world' outcome) : quota.Written (part ++ rest) world outcome := by
  have hroom : quota.room world' = quota.room world - part.length := by
    simp only [room, hbytes, List.length_append]
    omega
  constructor
  · rw [h.bytes, hbytes, hroom, List.take_append, List.take_of_length_le hfits,
      List.append_assoc]
  · rw [h.flushes, hflushes]
  · intro hlength
    apply h.done
    rw [List.length_append] at hlength
    omega
  · intro hlength
    apply h.failed
    rw [List.length_append] at hlength
    omega

/-- A call takes something that there is room for, or there is no room and it takes nothing. -/
theorem write_cases {given : List UInt8} (hgiven : given ≠ []) {world world' : World}
    {answer : Except Fault (Except String Nat)}
    (h : (quota.write given).outcome world = (answer, world')) :
    ((∃ n, answer = .ok (.ok (n + 1)) ∧ n + 1 ≤ quota.room world) ∨
      ((answer = .ok (.ok 0) ∨ ∃ reason, answer = .ok (.error reason)) ∧ quota.room world = 0)) ∧
      quota.flushes world' = quota.flushes world := by
  by_cases hroom : (quota.bytes world).length < quota.limit
  · obtain ⟨n, world'', htakes, hn, hlimit, hflushes⟩ := quota.takes world hgiven hroom
    obtain ⟨rfl, rfl⟩ := Prod.mk.inj (h.symm.trans htakes)
    refine ⟨Or.inl ⟨n - 1, by rw [Nat.sub_add_cancel hn], ?_⟩, hflushes⟩
    rw [room]
    omega
  · have hfull := Nat.le_of_not_lt hroom
    obtain ⟨answer', world'', hanswer, hnothing, hflushes⟩ := quota.full world hgiven hfull
    obtain ⟨rfl, rfl⟩ := Prod.mk.inj (h.symm.trans hanswer)
    refine ⟨Or.inr ⟨?_, Nat.sub_eq_zero_of_le hfull⟩, hflushes⟩
    rcases hnothing with rfl | ⟨reason, rfl⟩
    · exact Or.inl rfl
    · exact Or.inr ⟨reason, rfl⟩

/-- A call that takes nothing leaves everything as it is. -/
theorem written_of_full {given : List UInt8} {world world' : World} {reason : String}
    (hroom : quota.room world = 0) (hgiven : given ≠ [])
    (hbytes : quota.bytes world' = quota.bytes world)
    (hflushes : quota.flushes world' = quota.flushes world) :
    quota.Written given world (.ok (.error reason), world') :=
  ⟨by simp [hbytes, hroom], hflushes, by simp [hroom, hgiven], by simp⟩

theorem writeAll_written (given : List UInt8) (world : World) :
    quota.Written given world ((quota.writeAll given).outcome world) := by
  have hgoes := quota.goes_writeAll given world
  generalize (quota.writeAll given).outcome world = outcome at hgoes
  induction hgoes with
  | done world => exact ⟨by simp, by simp, by simp, by simp⟩
  | raised h => simpa using (quota.write_cases (List.cons_ne_nil _ _) h).1
  | failed h =>
      obtain ⟨hcases, hflushes⟩ := quota.write_cases (List.cons_ne_nil _ _) h
      have hroom := by simpa using hcases
      exact quota.written_of_full hroom (List.cons_ne_nil _ _) (quota.refused h) hflushes
  | stalled h =>
      obtain ⟨hcases, hflushes⟩ := quota.write_cases (List.cons_ne_nil _ _) h
      obtain ⟨-, hbytes⟩ := quota.taken h
      have hroom := by simpa using hcases
      rw [List.take_zero, List.append_nil] at hbytes
      exact quota.written_of_full hroom (List.cons_ne_nil _ _) hbytes hflushes
  | @more first rest world n world' outcome h hrest ih =>
      obtain ⟨hcases, hflushes⟩ := quota.write_cases (List.cons_ne_nil _ _) h
      obtain ⟨htaken, hbytes⟩ := quota.taken h
      have hroom : n + 1 ≤ quota.room world := by simpa using hcases
      have hfits : ((first :: rest).take (n + 1)).length ≤ quota.room world := by
        rwa [List.length_take_of_le htaken]
      have hall := ih.behind hbytes hfits hflushes
      rwa [List.take_succ_cons, List.cons_append, List.take_append_drop] at hall

theorem writePieces_written (pieces : List (List UInt8)) (world : World) :
    quota.Written pieces.flatten world ((quota.writePieces pieces).outcome world) := by
  induction pieces generalizing world with
  | nil =>
      rw [Writer.writePieces]
      exact ⟨by simp, by simp, by simp, by simp⟩
  | cons piece rest ih =>
      have hpiece := quota.writeAll_written piece world
      rw [Writer.writePieces, List.flatten_cons]
      by_cases hfits : piece.length ≤ quota.room world
      · rcases houtcome : (quota.writeAll piece).outcome world with ⟨answer, world'⟩
        rw [houtcome] at hpiece
        obtain rfl : answer = .ok (.ok ()) := hpiece.done hfits
        have hbytes := hpiece.bytes
        rw [List.take_of_length_le hfits] at hbytes
        rw [Effect.outcome_bind_of_ok houtcome]
        exact (ih world').behind hbytes hfits hpiece.flushes
      · obtain ⟨reason, hfailed⟩ := hpiece.failed (Nat.lt_of_not_le hfits)
        rcases houtcome : (quota.writeAll piece).outcome world with ⟨answer, world'⟩
        rw [houtcome] at hpiece hfailed
        obtain rfl : answer = .ok (.error reason) := hfailed
        have hbytes := hpiece.bytes
        rw [Effect.outcome_bind_of_ok houtcome]
        constructor
        · rw [List.take_append_of_le_length (Nat.le_of_not_le hfits)]
          exact hbytes
        · exact hpiece.flushes
        · intro hlength
          rw [List.length_append] at hlength
          omega
        · intro _
          exact ⟨reason, rfl⟩

end Quota

end Logbook

/-
Writers in memory are tapes: their bytes are what they hold.  One with a limit on its bytes and
none of the other limits keeps to a quota, and one without any limit never fails.
-/
import Logbook.Proofs.Tape

namespace Logbook.Memory

variable {World : Type}

theorem outcome_write (get : World → Memory) (set : World → Memory → World) (given : List UInt8)
    (world : World) : ((writer get set).write given).outcome world =
      match (get world).write given with
      | .ok (answer, memory) => (.ok answer, set world memory)
      | .error fault => (.error fault, world) := by
  simp only [Effect.outcome, writer, EStateM.run]
  cases (get world).write given <;> rfl

theorem outcome_flush (get : World → Memory) (set : World → Memory → World) (world : World) :
    ((writer get set).flush).outcome world =
      (.ok (get world).flush.1, set world (get world).flush.2) := rfl

theorem le_of_take {memory : Memory} {given : List UInt8} {n : Nat}
    (h : memory.take given = .ok n) : n ≤ given.length := by
  dsimp only [take] at h
  simp only [refusal] at h
  grind

/-- A call that raises no fault takes what there is room for. -/
theorem take_of_write {memory memory' : Memory} {given : List UInt8} {answer : Except String Nat}
    (h : memory.write given = .ok (answer, memory')) :
    memory.take given = answer ∧
      memory'.held = memory.held ++ given.take (answer.toOption.getD 0) := by
  unfold write at h
  split at h
  case isTrue => simp at h
  case isFalse =>
    cases htake : memory.take given with
    | ok n =>
        simp only [htake, Except.ok.injEq, Prod.mk.injEq] at h
        obtain ⟨rfl, rfl⟩ := h
        exact ⟨rfl, rfl⟩
    | error reason =>
        simp only [htake, Except.ok.injEq, Prod.mk.injEq] at h
        obtain ⟨rfl, rfl⟩ := h
        exact ⟨rfl, by simp [Except.toOption]⟩

/-- What a call does to a world that a memory is a part of. -/
theorem write_of_outcome {get : World → Memory} {set : World → Memory → World}
    (h : ∀ world memory, (get (set world memory)).held = memory.held) {given : List UInt8}
    {world world' : World} {answer : Except String Nat}
    (houtcome : ((writer get set).write given).outcome world = (.ok answer, world')) :
    (get world).take given = answer ∧
      (get world').held = (get world).held ++ given.take (answer.toOption.getD 0) := by
  rw [outcome_write] at houtcome
  cases hwrite : (get world).write given with
  | error fault => simp [hwrite] at houtcome
  | ok result =>
      obtain ⟨answer', memory⟩ := result
      simp only [hwrite, Prod.mk.injEq, Except.ok.injEq] at houtcome
      obtain ⟨rfl, rfl⟩ := houtcome
      rw [h]
      exact take_of_write hwrite

/-- A writer in memory, as a tape of what it holds. -/
def tape (get : World → Memory) (set : World → Memory → World)
    (h : ∀ world memory, (get (set world memory)).held = memory.held) : Tape World where
  toWriter := writer get set
  bytes world := (get world).held
  taken := by
    intro given world n world' houtcome
    obtain ⟨htake, hheld⟩ := write_of_outcome h houtcome
    exact ⟨le_of_take htake, hheld⟩
  refused := by
    intro given world reason world' houtcome
    obtain ⟨-, hheld⟩ := write_of_outcome h houtcome
    simpa [Except.toOption] using hheld
  cut := by
    intro given world fault world' houtcome
    rw [outcome_write] at houtcome
    cases hwrite : (get world).write given with
    | error fault =>
        simp only [hwrite, Prod.mk.injEq] at houtcome
        exact ⟨[], List.nil_prefix, by rw [← houtcome.2, List.append_nil]⟩
    | ok result => simp [hwrite] at houtcome
  kept := by
    intro world answer world' houtcome
    rw [outcome_flush, Prod.mk.injEq] at houtcome
    rw [← houtcome.2, h]
    rfl

/-- A writer in memory whose limits stay, as a tape of its bytes and its flushes. -/
def bounded (limits : Limits) : Tape (List UInt8 × Nat) :=
  tape (fun world => ⟨limits, world.1, world.2⟩) (fun _ memory => (memory.held, memory.flushes))
    fun _ _ => rfl

/-- A writer in memory without limits never fails. -/
def endless : Endless (List UInt8 × Nat) where
  toTape := bounded {}
  takes := by
    intro given world hgiven
    refine ⟨given.length, _, rfl, ?_⟩
    exact List.length_pos_of_ne_nil hgiven
  flushes world := ⟨_, rfl⟩

theorem outcome_write_bounded {limits : Limits} (hfault : limits.faultOn = none)
    (given : List UInt8) (world : List UInt8 × Nat) :
    ((bounded limits).write given).outcome world =
      match (⟨limits, world.1, world.2⟩ : Memory).take given with
      | .ok n => (.ok (.ok n), (world.1 ++ given.take n, world.2))
      | .error reason => (.ok (.error reason), world) := by
  have hfaulty : (⟨limits, world.1, world.2⟩ : Memory).isFaulty given = false := by
    simp [isFaulty, hfault]
  simp only [bounded, tape, outcome_write, write, hfaulty]
  cases (⟨limits, world.1, world.2⟩ : Memory).take given <;> rfl

/-- A writer in memory with a limit on its bytes keeps to that limit. -/
def quota (limit : Nat) (stalls : Bool) : Quota (List UInt8 × Nat) where
  toTape := bounded { bytes := some limit, stalls := stalls }
  limit := limit
  flushes world := world.2
  takes := by
    intro given world hgiven hroom
    have hroom : world.1.length < limit := hroom
    have hlength := List.length_pos_of_ne_nil hgiven
    have hnot : ¬limit - world.1.length = 0 := by omega
    refine ⟨min (limit - world.1.length) given.length,
      (world.1 ++ given.take (min (limit - world.1.length) given.length), world.2),
      ?_, ?_, ?_, rfl⟩
    · rw [outcome_write_bounded rfl]
      simp only [take, full, Bool.false_eq_true, if_false, if_neg hnot]
    · omega
    · change world.1.length + _ ≤ limit
      omega
  full := by
    intro given world hgiven hfull
    have hfull : limit ≤ world.1.length := hfull
    have hzero : limit - world.1.length = 0 := Nat.sub_eq_zero_of_le hfull
    cases stalls with
    | true =>
        refine ⟨.ok 0, (world.1 ++ given.take 0, world.2), ?_, Or.inl rfl, rfl⟩
        rw [outcome_write_bounded rfl]
        simp only [take, full, Bool.false_eq_true, if_false, if_pos hzero, refusal, if_true]
    | false =>
        refine ⟨.error "disk gone", world, ?_, Or.inr ⟨_, rfl⟩, rfl⟩
        rw [outcome_write_bounded rfl]
        simp only [take, full, Bool.false_eq_true, if_false, if_pos hzero, refusal]
  flushed world := ⟨_, rfl, rfl⟩

end Logbook.Memory

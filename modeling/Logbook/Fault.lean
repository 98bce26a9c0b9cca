/-
Effects that may be cut off.  What a logger writes to may raise a fault in the middle of a call.
The fault goes through to the caller, and all that was done before it stays done.
-/
namespace Logbook

/-- Why a call did not return. -/
inductive Fault where
  /-- A writer or a transport raised a fault with this text. -/
  | raised (text : String)
  /-- A logger was asked to log while it was logging, and waits for itself. -/
  | stuck
  deriving DecidableEq, Repr

/-- A computation on a world that a fault may cut off. -/
abbrev Effect (World : Type) := EStateM Fault World

namespace Effect

variable {World α : Type}

/-- Runs a computation: its value or its fault, and the world it leaves. -/
def outcome (effect : Effect World α) (world : World) : Except Fault α × World :=
  match effect.run world with
  | .ok value world => (.ok value, world)
  | .error fault world => (.error fault, world)

section

variable {β : Type}

@[simp] theorem outcome_pure (value : α) (world : World) :
    outcome (pure value : Effect World α) world = (.ok value, world) := rfl

theorem outcome_of_ok {effect : Effect World α} {world world' : World} {value : α}
    (h : effect world = .ok value world') : effect.outcome world = (.ok value, world') := by
  rw [outcome, EStateM.run, h]

theorem outcome_of_error {effect : Effect World α} {world world' : World} {fault : Fault}
    (h : effect world = .error fault world') : effect.outcome world = (.error fault, world') := by
  rw [outcome, EStateM.run, h]

theorem outcome_bind_of_ok {effect : Effect World α} {next : α → Effect World β}
    {world world' : World} {value : α} (h : effect.outcome world = (.ok value, world')) :
    (effect >>= next).outcome world = (next value).outcome world' := by
  unfold outcome at h ⊢
  rw [EStateM.run_bind]
  cases hrun : EStateM.run effect world with
  | ok a w =>
      rw [hrun] at h
      obtain ⟨rfl, rfl⟩ := by simpa using h
      rfl
  | error e w =>
      rw [hrun] at h
      simp at h

theorem outcome_bind_of_error {effect : Effect World α} {next : α → Effect World β}
    {world world' : World} {fault : Fault} (h : effect.outcome world = (.error fault, world')) :
    (effect >>= next).outcome world = (.error fault, world') := by
  unfold outcome at h ⊢
  rw [EStateM.run_bind]
  cases hrun : EStateM.run effect world with
  | ok a w =>
      rw [hrun] at h
      simp at h
  | error e w =>
      rw [hrun] at h
      obtain ⟨rfl, rfl⟩ := by simpa using h
      rfl

end

/-- Does something a number of times. -/
def times (n : Nat) (effect : Effect World Unit) : Effect World Unit :=
  match n with
  | 0 => pure ()
  | n + 1 => do
      effect
      times n effect

/-- Does something with each of some things, even when one of them raises a fault; the first
fault comes back at the end. -/
def forAll (things : List α) (effect : α → Effect World Unit) : Effect World Unit :=
  match things with
  | [] => pure ()
  | thing :: rest => fun world =>
      match effect thing world with
      | .ok _ world => forAll rest effect world
      | .error fault world =>
          match forAll rest effect world with
          | .ok _ world => .error fault world
          | .error _ world => .error fault world

end Effect

end Logbook

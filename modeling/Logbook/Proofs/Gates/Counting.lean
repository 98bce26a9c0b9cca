/-
Gates that count, shared by threads.  However the turns of the threads are interleaved, a gate that
opens on its first visit fires exactly once; a gate that opens on every n-th visit counts them all,
and a visit fires when its n divides its place in the order of the visits; a gate that opens when a
condition turns true fires on the first visit of every block of true conditions.  Main statement:
`exact_runs`.
-/
import Logbook.Proofs.Gates.First
import Logbook.Proofs.Gates.Passages
import Mathlib.Algebra.Group.Nat.Defs
import Mathlib.Data.List.Induction
import Mathlib.Data.List.TakeWhile
import Mathlib.Data.Nat.Basic

namespace Logbook

variable {Name : Type}

namespace CountGate

variable {history : List (Passage Name UInt64)}

/-- The gate counts every visit, modulo the words of 64 bits. -/
theorem count_gateBehind (history : List (Passage Name UInt64)) :
    (Turnpike.gateBehind visit {} history).count = UInt64.ofNat history.length := by
  induction history using List.reverseRecOn with
  | nil => rfl
  | append_singleton history passage ih =>
      rw [Turnpike.gateBehind_grown, visit, ih, List.length_append, List.length_singleton,
        UInt64.ofNat_add]
      rfl

/-- While the count fits, a visit fires if its n is not zero and divides its place. -/
theorem fired_iff {passage : Passage Name UInt64} (h : Turnpike.Answered visit {} history passage)
    (hfits : history.length + 1 < 2 ^ 64) :
    passage.fired = true ↔
      passage.argument ≠ 0 ∧ passage.argument.toNat ∣ history.length + 1 := by
  have hcount : (UInt64.ofNat history.length + 1).toNat = history.length + 1 := by
    rw [show (1 : UInt64) = UInt64.ofNat 1 from rfl, ← UInt64.ofNat_add,
      UInt64.toNat_ofNat_of_lt' (by simpa using hfits)]
  have hmod : (UInt64.ofNat history.length + 1) % passage.argument = 0 ↔
      passage.argument.toNat ∣ history.length + 1 := by
    rw [← UInt64.toNat_inj, UInt64.toNat_mod, hcount, Nat.dvd_iff_mod_eq_zero]
    rfl
  rw [h, visit, count_gateBehind]
  simp [hmod]

/-- With one n for all, every n-th visit fires. -/
theorem countP_fired {n : UInt64} (hn : n ≠ 0)
    (h : Chronicle (Turnpike.Answered visit {}) history)
    (hsame : ∀ passage ∈ history, passage.argument = n) (hfits : history.length < 2 ^ 64) :
    history.countP Passage.fired = history.length / n.toNat := by
  induction h with
  | empty => simp
  | @grown history passage hbefore hanswered ih =>
      rw [List.length_append, List.length_singleton] at hfits ⊢
      have hargument : passage.argument = n := hsame passage (by simp)
      have hfired : passage.fired = decide (n.toNat ∣ history.length + 1) := by
        rw [Bool.eq_iff_iff, fired_iff hanswered hfits, hargument, decide_eq_true_eq]
        exact and_iff_right hn
      rw [List.countP_append, ih (fun earlier hmem => hsame earlier (List.mem_append_left _ hmem))
        (by omega), List.countP_singleton, hfired, Nat.succ_div]
      simp

end CountGate

namespace ChangeGate

variable {history before after : List (Passage Name Bool)}

/-- The gate holds the condition of the visit before. -/
theorem previous_gateBehind (history : List (Passage Name Bool)) :
    (Turnpike.gateBehind visit {} history).previous =
      (history.getLast?.map Passage.argument).getD false := by
  induction history using List.reverseRecOn with
  | nil => rfl
  | append_singleton history passage ih =>
      rw [Turnpike.gateBehind_grown, visit]
      simp

/-- A visit fires if its condition holds and that of the visit before did not. -/
theorem fired_iff {passage : Passage Name Bool} (h : Turnpike.Answered visit {} history passage) :
    passage.fired = true ↔ passage.argument = true ∧
      ∀ last, history.getLast? = some last → last.argument = false := by
  rw [h, visit, previous_gateBehind]
  cases history.getLast? <;> simp

/-- Some visits in a row whose condition holds, as many as there are. -/
structure IsBlock (before block after : List (Passage Name Bool)) : Prop where
  holds : ∀ passage ∈ block, passage.argument = true
  starts : ∀ last, before.getLast? = some last → last.argument = false
  ends : ∀ next, after.head? = some next → next.argument = false

/-- Of a block the first visit fires, and no other. -/
theorem fired_block (h : Chronicle (Turnpike.Answered visit {}) history)
    {first : Passage Name Bool} {rest : List (Passage Name Bool)}
    (hsplit : history = before ++ first :: rest ++ after)
    (hblock : IsBlock before (first :: rest) after) :
    first.fired = true ∧ ∀ later ∈ rest, later.fired = false := by
  obtain ⟨hfirst, hrest⟩ := List.forall_mem_cons.mp hblock.holds
  constructor
  · have hanswered := (h.split (hsplit.trans (List.append_assoc before _ after))).2
    exact (fired_iff hanswered).mpr ⟨hfirst, hblock.starts⟩
  · intro later hlater
    obtain ⟨between, behind, rfl⟩ := List.append_of_mem hlater
    have hlong : history =
        (before ++ first :: between) ++ later :: (behind ++ after) := by
      rw [hsplit]
      simp
    have hanswered := (h.split hlong).2
    apply Bool.eq_false_iff.mpr
    intro hfired
    obtain ⟨last, hlast⟩ : ∃ last, (first :: between).getLast? = some last :=
      ⟨_, List.getLast?_eq_some_getLast (List.cons_ne_nil first between)⟩
    have hfalse := ((fired_iff hanswered).mp hfired).2 last (by
      rw [List.getLast?_append, hlast, Option.some_or])
    have hmem : last ∈ first :: (between ++ later :: behind) :=
      List.mem_append_left (later :: behind) (List.mem_of_getLast? hlast)
    rw [hblock.holds last hmem] at hfalse
    cases hfalse

/-- A visit that fires is the first of a block. -/
theorem exists_block (h : Chronicle (Turnpike.Answered visit {}) history)
    {passage : Passage Name Bool} (hsplit : history = before ++ passage :: after)
    (hfired : passage.fired = true) :
    ∃ rest behind, after = rest ++ behind ∧ IsBlock before (passage :: rest) behind := by
  obtain ⟨hholds, hstarts⟩ := (fired_iff (h.split hsplit).2).mp hfired
  refine ⟨after.takeWhile Passage.argument, after.dropWhile Passage.argument,
    List.takeWhile_append_dropWhile.symm, ?_, hstarts, ?_⟩
  · intro later hlater
    rcases List.mem_cons.mp hlater with rfl | hmem
    · exact hholds
    · exact List.mem_takeWhile_imp hmem
  · intro next hnext
    have hhead := List.head?_dropWhile_not Passage.argument after
    rw [hnext] at hhead
    simpa using hhead

/-- Between two visits that fire there is one whose condition does not hold. -/
theorem exists_false_between (h : Chronicle (Turnpike.Answered visit {}) history)
    {earlier later : Passage Name Bool} {between : List (Passage Name Bool)}
    (hsplit : history = before ++ earlier :: between ++ later :: after)
    (hearlier : earlier.fired = true) (hlater : later.fired = true) :
    ∃ passage ∈ between, passage.argument = false := by
  have hfirst : history = before ++ earlier :: (between ++ later :: after) := by
    rw [hsplit, List.append_assoc]
    rfl
  have hholds := ((fired_iff (h.split hfirst).2).mp hearlier).1
  have hstarts := ((fired_iff (h.split hsplit).2).mp hlater).2
  rcases List.eq_nil_or_concat' between with rfl | ⟨front, last, rfl⟩
  · have hfalse := hstarts earlier (by simp)
    rw [hholds] at hfalse
    cases hfalse
  · have hbehind : (before ++ earlier :: (front ++ [last])).getLast? = some last := by
      rw [← List.cons_append, ← List.append_assoc, List.getLast?_concat]
    exact ⟨last, by simp, hstarts last hbehind⟩

end ChangeGate

/-- A gate that opens on its first visit, in every interleaving. -/
structure SharedOnce.Exact [DecidableEq Name] (programs : Name → Nat) (s : SharedOnce Name) :
    Prop where
  /-- Every thread makes as many visits as it has to. -/
  todo : ∀ name, (s.history.filter (·.thread = name)).countP FirstMark.isBegin +
    (s.visitors name).todo = programs name
  /-- A visit loads whether one has swapped before, and swaps if none has. -/
  chronicle : Chronicle FirstMark.Fits s.history
  /-- Once a visit has come to its end, just one has fired. -/
  one : (∃ mark ∈ s.history, mark.isEnd = true) → s.history.countP FirstMark.isFiring = 1
  /-- From then on the gate tells so, whatever the threads still do. -/
  stays : (∃ mark ∈ s.history, mark.isEnd = true) →
    ∀ schedule, (s.run schedule).gate.hasFired = true
  /-- A thread alone makes its next visit as a program without threads does. -/
  solo : ∀ name rest, s.visitors name = ⟨false, rest + 1⟩ →
    ∃ n, (s.run (List.replicate n name)).gate = s.gate.visit.2 ∧
      (s.run (List.replicate n name)).visitors = Function.update s.visitors name ⟨false, rest⟩ ∧
      (s.run (List.replicate n name)).history.countP FirstMark.isFiring =
        s.history.countP FirstMark.isFiring + s.gate.visit.1.toNat

/-- A gate that opens on every n-th visit, in every interleaving, as long as the count fits. -/
structure CountGate.Exact [DecidableEq Name] (programs : Name → List UInt64)
    (s : Turnpike Name CountGate UInt64) : Prop where
  kept : s.Kept CountGate.visit {} programs
  count : s.gate.count.toNat = s.history.length
  /-- The visit in the i-th place fires if its n is not zero and divides i. -/
  fires : ∀ before passage after, s.history = before ++ passage :: after →
    (passage.fired = true ↔ passage.argument ≠ 0 ∧ passage.argument.toNat ∣ before.length + 1)
  /-- With one n for all, every n-th visit fires. -/
  share : ∀ n, n ≠ 0 → (∀ name, ∀ argument ∈ programs name, argument = n) →
    s.history.countP Passage.fired = s.history.length / n.toNat
  /-- A thread alone makes its next visit as a program without threads does. -/
  solo : s.Solo CountGate.visit

/-- A gate that opens when a condition turns true, in every interleaving. -/
structure ChangeGate.Exact [DecidableEq Name] (programs : Name → List Bool)
    (s : Turnpike Name ChangeGate Bool) : Prop where
  kept : s.Kept ChangeGate.visit {} programs
  /-- Of every block of true conditions the first visit fires, and no other. -/
  block : ∀ before first rest after, s.history = before ++ first :: rest ++ after →
    ChangeGate.IsBlock before (first :: rest) after →
      first.fired = true ∧ ∀ later ∈ rest, later.fired = false
  /-- Every visit that fires is the first of such a block. -/
  first : ∀ before passage after, s.history = before ++ passage :: after →
    passage.fired = true →
      ∃ rest behind, after = rest ++ behind ∧ ChangeGate.IsBlock before (passage :: rest) behind
  /-- Between two visits that fire there is one whose condition does not hold. -/
  apart : ∀ before earlier between later after,
    s.history = before ++ earlier :: between ++ later :: after →
      earlier.fired = true → later.fired = true → ∃ passage ∈ between, passage.argument = false
  /-- A thread alone makes its next visit as a program without threads does. -/
  solo : s.Solo ChangeGate.visit

section

variable [DecidableEq Name]

theorem SharedOnce.Invariant.exact {programs : Name → Nat} {s : SharedOnce Name}
    (hs : s.Invariant programs) : s.Exact programs where
  todo := hs.todo
  chronicle := hs.chronicle
  one := by
    rintro ⟨mark, hmark, hend⟩
    rw [hs.chronicle.count_firings, hs.chronicle.any_isSwap hmark hend]
    rfl
  stays := by
    rintro ⟨mark, hmark, hend⟩ schedule
    have hlater := SharedOnce.invariant_run hs schedule
    rw [hlater.gate]
    exact hlater.chronicle.any_isSwap (s.mem_history_run schedule hmark) hend
  solo _ _ h := SharedOnce.turns_of_visit h

theorem CountGate.exact_of_kept {programs : Name → List UInt64}
    {s : Turnpike Name CountGate UInt64} (hs : s.Kept CountGate.visit {} programs)
    (hfits : s.history.length < 2 ^ 64) : CountGate.Exact programs s where
  kept := hs
  count := by
    rw [hs.gate, count_gateBehind, UInt64.toNat_ofNat_of_lt' (by simpa using hfits)]
  fires := by
    intro before passage after hsplit
    have hlength : before.length + 1 ≤ s.history.length := by
      rw [hsplit, List.length_append, List.length_cons]
      omega
    exact fired_iff (hs.answers.split hsplit).2 (by omega)
  share := by
    intro n hn hprograms
    refine countP_fired hn hs.answers ?_ hfits
    intro passage hpassage
    exact hprograms passage.thread passage.argument (hs.argument_mem hpassage)
  solo := s.solo CountGate.visit

theorem ChangeGate.exact_of_kept {programs : Name → List Bool}
    {s : Turnpike Name ChangeGate Bool} (hs : s.Kept ChangeGate.visit {} programs) :
    ChangeGate.Exact programs s where
  kept := hs
  block _ _ _ _ hsplit hblock := fired_block hs.answers hsplit hblock
  first _ _ _ hsplit hfired := exists_block hs.answers hsplit hfired
  apart _ _ _ _ _ hsplit hearlier hlater := exists_false_between hs.answers hsplit hearlier hlater
  solo := s.solo ChangeGate.visit

/-- Any number of threads with any visits share a gate of one of the three kinds, however their
turns are interleaved. -/
theorem exact_runs (schedule : List Name) :
    (∀ programs : Name → Nat, ((SharedOnce.begin programs).run schedule).Exact programs) ∧
    (∀ programs : Name → List UInt64,
      ((Turnpike.begin {} programs).run CountGate.visit schedule).history.length < 2 ^ 64 →
        CountGate.Exact programs ((Turnpike.begin {} programs).run CountGate.visit schedule)) ∧
    ∀ programs : Name → List Bool,
      ChangeGate.Exact programs ((Turnpike.begin {} programs).run ChangeGate.visit schedule) := by
  refine ⟨?_, ?_, ?_⟩
  · intro programs
    exact (SharedOnce.invariant_run (SharedOnce.invariant_begin programs) schedule).exact
  · intro programs hfits
    exact CountGate.exact_of_kept (Turnpike.kept_run (Turnpike.kept_begin _ programs) schedule)
      hfits
  · intro programs
    exact ChangeGate.exact_of_kept
      (Turnpike.kept_run (Turnpike.kept_begin _ programs) schedule)

end

/-- Both threads see a gate that has not opened. -/
example : ((SharedOnce.begin fun _ : Bool => 1).run [true, false, false, true]).history.map
    FirstMark.isFiring = [false, false, true, false] := by decide +kernel

example : ((Turnpike.begin {} fun thread => if thread then [2, 2] else [3, 0]).run CountGate.visit
    [true, true, false, false]).history.map Passage.fired = [false, true, true, false] := by
  decide +kernel

end Logbook

/-
Records through a tape that fills up.  The output is cut where the tape is full, wherever that is
in a line; the records whose lines end beyond that place are lost, each with an event, and the
others are flushed and read back.
-/
import Logbook.Proofs.JsonLines.Lines
import Mathlib.Data.List.Forall2

namespace Logbook.JsonLines

variable {World : Type}

/-- Records with the places where their lines end, behind a number of bytes. -/
def ends (start : Nat) : List Record → List (Record × Nat)
  | [] => []
  | record :: rest =>
      (record, start + (line record).length) :: ends (start + (line record).length) rest

/-- The records whose lines end within a limit. -/
def within (start limit : Nat) (records : List Record) : List Record :=
  ((ends start records).filter fun entry => entry.2 ≤ limit).map Prod.fst

/-- The records whose lines end beyond a limit. -/
def beyond (start limit : Nat) (records : List Record) : List Record :=
  ((ends start records).filter fun entry => limit < entry.2).map Prod.fst

theorem lt_of_mem_ends {start : Nat} {records : List Record} {entry : Record × Nat}
    (h : entry ∈ ends start records) : start < entry.2 := by
  induction records generalizing start with
  | nil => exact absurd h List.not_mem_nil
  | cons record records ih =>
      have hline := length_line record
      rw [ends, List.mem_cons] at h
      rcases h with rfl | h
      · simp only
        omega
      · have hstart := ih h
        omega

theorem within_of_le {start limit : Nat} (h : limit ≤ start) (records : List Record) :
    within start limit records = [] := by
  rw [within, List.map_eq_nil_iff, List.filter_eq_nil_iff]
  intro entry hentry
  have hlt := lt_of_mem_ends hentry
  simp only [decide_eq_true_eq]
  omega

theorem within_cons_of_le {start limit : Nat} {record : Record}
    (h : start + (line record).length ≤ limit) (records : List Record) :
    within start limit (record :: records) =
      record :: within (start + (line record).length) limit records := by
  simp [within, ends, h]

theorem within_cons_of_lt {start limit : Nat} {record : Record}
    (h : limit < start + (line record).length) (records : List Record) :
    within start limit (record :: records) = [] := by
  have hrest := within_of_le (Nat.le_of_lt h) records
  have hnot : ¬start + (line record).length ≤ limit := by omega
  simpa [within, ends, hnot] using hrest

theorem beyond_cons_of_le {start limit : Nat} {record : Record}
    (h : start + (line record).length ≤ limit) (records : List Record) :
    beyond start limit (record :: records) =
      beyond (start + (line record).length) limit records := by
  have hnot : ¬limit < start + (line record).length := by omega
  simp [beyond, ends, hnot]

theorem beyond_cons_of_lt {start limit : Nat} {record : Record}
    (h : limit < start + (line record).length) (records : List Record) :
    beyond start limit (record :: records) =
      record :: beyond (start + (line record).length) limit records := by
  simp [beyond, ends, h]

/-- The whole lines of an output that is cut are those of the records that end before the cut. -/
theorem completeLines_take (records : List Record) (start limit : Nat) :
    completeLines ((records.flatMap line).take (limit - start)) =
      (within start limit records).map body := by
  induction records generalizing start with
  | nil => simp [completeLines_of_not_mem, within, ends]
  | cons record records ih =>
      rw [List.flatMap_cons, List.take_append]
      by_cases hfits : start + (line record).length ≤ limit
      · rw [List.take_of_length_le (by omega), completeLines_line, within_cons_of_le hfits,
          Nat.sub_sub, ih]
        rfl
      · -- The cut is inside the first line, before its end.
        have hlength := length_line record
        have hcut : (line record).take (limit - start) = (body record).take (limit - start) := by
          rw [line_eq, List.take_append_of_le_length (by omega)]
        have hnone : limit - start - (line record).length = 0 := by omega
        rw [within_cons_of_lt (Nat.lt_of_not_le hfits), hcut, hnone, List.take_zero,
          List.append_nil, completeLines_of_not_mem]
        · rfl
        · intro hmem
          exact lineEnd_not_mem_body record (List.mem_of_mem_take hmem)

theorem publishAll_cons {writer : Writer World} {record : Record} {records : List Record}
    {world world₁ world₂ : World} {event : Option Event} {events : List Event}
    (hpublish : (publish writer record).outcome world = (.ok event, world₁))
    (hall : (publishAll writer records).outcome world₁ = (.ok events, world₂)) :
    (publishAll writer (record :: records)).outcome world =
      (.ok (event.toList ++ events), world₂) := by
  rw [publishAll, Effect.outcome_bind_of_ok hpublish, Effect.outcome_bind_of_ok hall]
  rfl

/-- One record after the other, from a place where a number of bytes stands before them.  Each
either fits, and is flushed, or takes what room is left, and is lost. -/
theorem publishAll_room (quota : Quota World) (limit : Nat) (records : List Record)
    (start : Nat) (world : World) (hroom : quota.room world = limit - start) :
    ∃ events world', (publishAll quota.toWriter records).outcome world = (.ok events, world') ∧
      quota.bytes world' = quota.bytes world ++ (records.flatMap line).take (limit - start) ∧
      List.Forall₂ TellsLoss (beyond start limit records) events ∧
      quota.flushes world' = quota.flushes world + (within start limit records).length := by
  induction records generalizing start world with
  | nil => exact ⟨[], world, rfl, by simp, List.Forall₂.nil, by simp [within, ends]⟩
  | cons record records ih =>
      by_cases hfits : start + (line record).length ≤ limit
      · have hline : (line record).length ≤ quota.room world := by omega
        obtain ⟨world₁, hpublish, hbytes₁, hflushes₁⟩ := publish_fits quota hline
        have hroom₁ : quota.room world₁ = limit - (start + (line record).length) := by
          simp only [Quota.room, hbytes₁, List.length_append] at hroom ⊢
          omega
        obtain ⟨events, world₂, hall, hbytes₂, hevents, hflushes₂⟩ := ih _ world₁ hroom₁
        have hwhole : (line record).take (limit - start) = line record :=
          List.take_of_length_le (by omega)
        refine ⟨events, world₂, publishAll_cons hpublish hall, ?_, ?_, ?_⟩
        · rw [hbytes₂, hbytes₁, List.flatMap_cons, List.take_append, hwhole, Nat.sub_sub,
            List.append_assoc]
        · rwa [beyond_cons_of_le hfits]
        · rw [within_cons_of_le hfits, List.length_cons]
          omega
      · have hlength := length_line record
        have hline : quota.room world < (line record).length := by omega
        obtain ⟨reason, world₁, hpublish, hbytes₁, hflushes₁⟩ := publish_full quota hline
        have hroom₁ : quota.room world₁ = limit - (start + (line record).length) := by
          simp only [Quota.room, hbytes₁, List.length_append, List.length_take] at hroom ⊢
          omega
        obtain ⟨events, world₂, hall, hbytes₂, hevents, hflushes₂⟩ := ih _ world₁ hroom₁
        have hlater := within_of_le (Nat.le_of_not_le hfits) records
        refine ⟨_, world₂, publishAll_cons hpublish hall, ?_, ?_, ?_⟩
        · rw [hbytes₂, hbytes₁, List.flatMap_cons, List.take_append, hroom, Nat.sub_sub,
            List.append_assoc]
        · rw [beyond_cons_of_lt (Nat.lt_of_not_le hfits)]
          exact List.Forall₂.cons ⟨reason, rfl⟩ hevents
        · rw [within_cons_of_lt (Nat.lt_of_not_le hfits)]
          rw [hlater] at hflushes₂
          rw [hflushes₂, hflushes₁]

/-- A tape with room for a number of bytes takes just the first bytes of the lines of all records,
as many as there is room for.  The records whose lines end beyond that are lost, each with an
event, in their order; the others are flushed, and they are what the whole lines of the output
read as. -/
theorem quota_exact (quota : Quota World) (records : List Record) (world : World) :
    ∃ events world' output,
      (publishAll quota.toWriter records).outcome world = (.ok events, world') ∧
      quota.bytes world' = quota.bytes world ++ output ∧
      output = (records.flatMap line).take (quota.room world) ∧
      List.Forall₂ TellsLoss (beyond 0 (quota.room world) records) events ∧
      quota.flushes world' =
        quota.flushes world + (within 0 (quota.room world) records).length ∧
      (completeLines output).map readLine =
        (within 0 (quota.room world) records).map .ok := by
  obtain ⟨events, world', houtcome, hbytes, hevents, hflushes⟩ :=
    publishAll_room quota (quota.room world) records 0 world (Nat.sub_zero _).symm
  have hlines := completeLines_take records 0 (quota.room world)
  rw [Nat.sub_zero] at hbytes hlines
  refine ⟨events, world', _, houtcome, hbytes, rfl, hevents, hflushes, ?_⟩
  rw [hlines, map_readLine_body]

end Logbook.JsonLines

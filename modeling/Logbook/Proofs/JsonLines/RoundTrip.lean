/-
Records through a tape that never fails.  What is written for a record has no control character
and is read back as that record; so the output, cut at its line ends, is read back as the records
that were published, in their order.
-/
import Logbook.Proofs.JsonLines.Lines
import Logbook.Proofs.Tape.Memory

namespace Logbook.JsonLines

variable {World : Type}

/-- A tape that never fails takes all lines, and no record is lost. -/
theorem publishAll_endless (tape : Endless World) (records : List Record) (world : World) :
    ∃ world', (publishAll tape.toWriter records).outcome world = (.ok [], world') ∧
      tape.bytes world' = tape.bytes world ++ records.flatMap line := by
  induction records generalizing world with
  | nil => exact ⟨world, rfl, by simp⟩
  | cons record records ih =>
      obtain ⟨world₁, hpublish, hbytes₁⟩ := publish_endless tape record world
      obtain ⟨world₂, hall, hbytes₂⟩ := ih world₁
      refine ⟨world₂, ?_, ?_⟩
      · rw [publishAll, Effect.outcome_bind_of_ok hpublish, Effect.outcome_bind_of_ok hall]
        rfl
      · rw [hbytes₂, hbytes₁, List.flatMap_cons, List.append_assoc]

/-- The output of whole lines, cut at its line ends, is the records with nothing left over. -/
theorem splitOn_flatMap (records : List Record) :
    (records.flatMap line).splitOn 10 = records.map body ++ [[]] := by
  induction records with
  | nil => rfl
  | cons record records ih =>
      have hcut := List.splitOn_append_cons_self_of_not_mem (lineEnd_not_mem_body record)
        (records.flatMap line)
      rw [List.flatMap_cons, line_eq, List.append_assoc]
      rw [ih] at hcut
      exact hcut

/-- The bytes of every record are free of control characters and are read as that record, between
any blanks.  A tape that never fails takes a line for every record and loses none; what it takes,
cut at the line ends, is read as the records in their order, with nothing left over. -/
theorem records_readable (tape : Endless World) :
    (∀ record : Record, (∀ b ∈ body record, 0x20 ≤ b.toNat) ∧
      ∀ before after : List Char, (∀ c ∈ before ++ after, Json.isSpace c = true) →
        readLine (Text.utf8 before ++ body record ++ Text.utf8 after) = .ok record) ∧
    ∀ (records : List Record) (world : World), ∃ world' output,
      (publishAll tape.toWriter records).outcome world = (.ok [], world') ∧
      tape.bytes world' = tape.bytes world ++ output ∧
      output.splitOn 10 = records.map body ++ [[]] ∧
      (completeLines output).map readLine = records.map .ok := by
  constructor
  · intro record
    refine ⟨printed_body record, ?_⟩
    intro before after hblank
    apply readLine_blank record
    · intro c hc
      exact hblank c (List.mem_append_left after hc)
    · intro c hc
      exact hblank c (List.mem_append_right before hc)
  · intro records world
    obtain ⟨world', houtcome, hbytes⟩ := publishAll_endless tape records world
    have hlines := completeLines_flatMap records []
    rw [List.append_nil, completeLines_of_not_mem List.not_mem_nil, List.append_nil] at hlines
    refine ⟨world', records.flatMap line, houtcome, hbytes, splitOn_flatMap records, ?_⟩
    rw [hlines, map_readLine_body]

/-- A record whose texts need every kind of escape, read between blanks. -/
theorem records_readable_sample :
    (∀ c ∈ [' ', '\n'] ++ ['\r', '\t'], Json.isSpace c = true) ∧
      readLine (Text.utf8 [' ', '\n'] ++ body WireWitness.sample ++ Text.utf8 ['\r', '\t']) =
        .ok WireWitness.sample := by
  have hblank : ∀ c ∈ [' ', '\n'] ++ ['\r', '\t'], Json.isSpace c = true := by
    simp [Json.isSpace]
  exact ⟨hblank, ((records_readable Memory.endless).1 WireWitness.sample).2 _ _ hblank⟩

end Logbook.JsonLines

/-
Lines of records.  The bytes of a record hold no line end, so the output is cut at its line ends
into the records that stand in it whole, and each of these lines is read as its record.  What
publishing a record leaves is said for every tape, for one that never fails and for one that
fills up.
-/
import Logbook.JsonLines
import Logbook.Proofs.RecordWire
import Logbook.Proofs.Tape
import Logbook.Proofs.Utf8

namespace Logbook.JsonLines

variable {World : Type}

/-- The bytes of a record without its line end. -/
def body (record : Record) : List UInt8 :=
  Text.utf8 record.json.toList

theorem line_eq (record : Record) : line record = body record ++ lineEnd := by
  have hutf8 : ∀ pieces : List (List Char),
      (pieces.map Text.utf8).flatten = Text.utf8 pieces.flatten := by
    intro pieces
    induction pieces with
    | nil => rfl
    | cons piece pieces ih => simp [ih, Text.utf8]
  simp [line, pieces, body, Record.json, Record.pieces, Json.Value.text, hutf8]

/-- No byte of a record is a control character. -/
theorem printed_body (record : Record) : ∀ b ∈ body record, 0x20 ≤ b.toNat := by
  intro b hb
  by_cases hascii : b.toNat < 0x80
  · obtain ⟨c, hc, heq⟩ := Text.exists_of_mem_utf8 hb hascii
    rw [← heq]
    exact record.printed_json c hc
  · omega

theorem lineEnd_not_mem_body (record : Record) : 10 ∉ body record := by
  intro hmem
  exact absurd (printed_body record 10 hmem) (by decide)

theorem length_line (record : Record) : (line record).length = (body record).length + 1 := by
  simp [line_eq, lineEnd]

/-- The lines that are ended, without their line ends. -/
def completeLines (bytes : List UInt8) : List (List UInt8) :=
  (bytes.splitOn 10).dropLast

def readLine (bytes : List UInt8) : Except Json.Error Record :=
  Record.ofJson (Text.ofBytes bytes)

theorem completeLines_of_not_mem {bytes : List UInt8} (h : 10 ∉ bytes) :
    completeLines bytes = [] := by
  rw [completeLines, List.splitOn_eq_singleton h]
  rfl

theorem completeLines_append {bytes : List UInt8} (h : 10 ∉ bytes) (rest : List UInt8) :
    completeLines (bytes ++ 10 :: rest) = bytes :: completeLines rest := by
  rw [completeLines, List.splitOn_append_cons_self_of_not_mem h,
    List.dropLast_cons_of_ne_nil (List.splitOn_ne_nil 10 rest)]
  rfl

theorem completeLines_line (record : Record) (rest : List UInt8) :
    completeLines (line record ++ rest) = body record :: completeLines rest := by
  rw [line_eq, List.append_assoc]
  exact completeLines_append (lineEnd_not_mem_body record) rest

/-- Records that stand one after the other are cut apart. -/
theorem completeLines_flatMap (records : List Record) (rest : List UInt8) :
    completeLines (records.flatMap line ++ rest) = records.map body ++ completeLines rest := by
  induction records with
  | nil => rfl
  | cons record records ih =>
      rw [List.flatMap_cons, List.append_assoc, completeLines_line, ih]
      rfl

/-- The bytes of a record between blanks are read as that record. -/
theorem readLine_blank (record : Record) {before after : List Char}
    (hbefore : ∀ c ∈ before, Json.isSpace c = true) (hafter : ∀ c ∈ after, Json.isSpace c = true) :
    readLine (Text.utf8 before ++ body record ++ Text.utf8 after) = .ok record := by
  have hbytes : Text.utf8 before ++ body record ++ Text.utf8 after =
      Text.utf8 (before ++ record.json.toList ++ after) := by
    simp [Text.utf8, body]
  have htext : String.ofList (before ++ record.json.toList ++ after) =
      String.ofList before ++ record.json ++ String.ofList after := by
    simp [String.ofList_append, String.append_assoc]
  rw [readLine, hbytes, Text.ofBytes_utf8, htext]
  exact record.ofJson_json hbefore hafter

theorem readLine_body (record : Record) : readLine (body record) = .ok record := by
  have hread : readLine (Text.utf8 [] ++ body record ++ Text.utf8 []) = .ok record :=
    readLine_blank record (by simp) (by simp)
  simpa [Text.utf8] using hread

theorem map_readLine_body (records : List Record) :
    (records.map body).map readLine = records.map .ok := by
  rw [List.map_map]
  exact List.map_congr_left fun record _ => readLine_body record

/-- Whatever the tape does, a first part of the line is put on it, and the whole line when that is
done. -/
theorem put_outcome (tape : Tape World) (record : Record) (world : World) :
    ∃ part, part <+: line record ∧
      tape.bytes ((put tape.toWriter record).outcome world).2 = tape.bytes world ++ part ∧
      (((put tape.toWriter record).outcome world).1 = .ok (.ok ()) → part = line record) := by
  obtain ⟨part, hpart, hbytes, hall⟩ := tape.writePieces_outcome (pieces record) world
  refine ⟨part, hpart, ?_, ?_⟩
  all_goals
    rcases houtcome : (tape.writePieces (pieces record)).outcome world with ⟨answer, world'⟩
    rw [houtcome] at hbytes hall
    rw [put]
  · cases answer with
    | error fault => rwa [Effect.outcome_bind_of_error houtcome]
    | ok answer =>
        rw [Effect.outcome_bind_of_ok houtcome]
        cases answer with
        | error reason => exact hbytes
        | ok done =>
            rw [← hbytes]
            exact tape.kept rfl
  · cases answer with
    | error fault => simp [Effect.outcome_bind_of_error houtcome]
    | ok answer =>
        rw [Effect.outcome_bind_of_ok houtcome]
        cases answer with
        | error reason => simp
        | ok done => exact fun _ => hall rfl

/-- Publishing a record raises the faults of putting it on the tape, and turns its failures into
the loss of the record. -/
theorem publish_of_put {writer : Writer World} {record : Record} {world world' : World}
    {answer : Except Fault (Except String Unit)}
    (h : (put writer record).outcome world = (answer, world')) :
    (publish writer record).outcome world = (answer.map fun
      | .ok () => none
      | .error reason => some (.lost record.seq reason), world') := by
  rw [publish]
  cases answer with
  | error fault => exact Effect.outcome_bind_of_error h
  | ok answer =>
      rw [Effect.outcome_bind_of_ok h]
      cases answer <;> rfl

/-- An event tells of the loss of a record. -/
def TellsLoss (record : Record) (event : Event) : Prop :=
  ∃ reason, event = .lost record.seq reason

theorem tellsLoss_of_publish {writer : Writer World} {record : Record} {world : World}
    {event : Event} (h : ((publish writer record).outcome world).1 = .ok (some event)) :
    TellsLoss record event := by
  rcases houtcome : (put writer record).outcome world with ⟨answer, world'⟩
  rw [publish_of_put houtcome] at h
  rcases answer with fault | reason | done
  · simp [Except.map] at h
  · exact ⟨reason, by simpa [Except.map] using h.symm⟩
  · simp [Except.map] at h

/-- Publishing a record leaves a first part of its line, and the whole line unless the record is
lost. -/
theorem publish_outcome (tape : Tape World) (record : Record) (world : World) :
    ∃ part, part <+: line record ∧
      tape.bytes ((publish tape.toWriter record).outcome world).2 = tape.bytes world ++ part ∧
      (((publish tape.toWriter record).outcome world).1 = .ok none → part = line record) := by
  obtain ⟨part, hpart, hbytes, hall⟩ := put_outcome tape record world
  rcases houtcome : (put tape.toWriter record).outcome world with ⟨answer, world'⟩
  rw [houtcome] at hbytes hall
  rw [publish_of_put houtcome]
  refine ⟨part, hpart, hbytes, ?_⟩
  intro hnone
  apply hall
  rcases answer with fault | reason | done
  · simp [Except.map] at hnone
  · simp [Except.map] at hnone
  · rfl

/-- A tape that never fails takes the whole line, and no record is lost. -/
theorem publish_endless (tape : Endless World) (record : Record) (world : World) :
    ∃ world', (publish tape.toWriter record).outcome world = (.ok none, world') ∧
      tape.bytes world' = tape.bytes world ++ line record := by
  obtain ⟨world₁, hwrite, hbytes⟩ := tape.writePieces_done (pieces record) world
  obtain ⟨world₂, hflush⟩ := tape.flushes world₁
  have hput : (put tape.toWriter record).outcome world = (.ok (.ok ()), world₂) := by
    rw [put, Effect.outcome_bind_of_ok hwrite]
    exact hflush
  refine ⟨world₂, publish_of_put hput, ?_⟩
  rw [tape.kept hflush, hbytes, line]

/-- A record for whose line there is room is written and flushed. -/
theorem publish_fits (quota : Quota World) {record : Record} {world : World}
    (hfits : (line record).length ≤ quota.room world) :
    ∃ world', (publish quota.toWriter record).outcome world = (.ok none, world') ∧
      quota.bytes world' = quota.bytes world ++ line record ∧
      quota.flushes world' = quota.flushes world + 1 := by
  have hwritten := quota.writePieces_written (pieces record) world
  rcases hwrite : (quota.writePieces (pieces record)).outcome world with ⟨answer, world₁⟩
  rw [hwrite] at hwritten
  obtain rfl : answer = .ok (.ok ()) := hwritten.done hfits
  obtain ⟨world₂, hflush, hcount⟩ := quota.flushed world₁
  have hput : (put quota.toWriter record).outcome world = (.ok (.ok ()), world₂) := by
    rw [put, Effect.outcome_bind_of_ok hwrite]
    exact hflush
  refine ⟨world₂, publish_of_put hput, ?_, ?_⟩
  · rw [quota.kept hflush, hwritten.bytes]
    exact congrArg _ (List.take_of_length_le hfits)
  · rw [hcount, hwritten.flushes]

/-- A record for whose line there is no room is cut short and lost, and nothing is flushed. -/
theorem publish_full (quota : Quota World) {record : Record} {world : World}
    (hfull : quota.room world < (line record).length) :
    ∃ reason world',
      (publish quota.toWriter record).outcome world =
        (.ok (some (.lost record.seq reason)), world') ∧
      quota.bytes world' = quota.bytes world ++ (line record).take (quota.room world) ∧
      quota.flushes world' = quota.flushes world := by
  have hwritten := quota.writePieces_written (pieces record) world
  rcases hwrite : (quota.writePieces (pieces record)).outcome world with ⟨answer, world'⟩
  rw [hwrite] at hwritten
  obtain ⟨reason, hfailed⟩ := hwritten.failed hfull
  obtain rfl : answer = .ok (.error reason) := hfailed
  have hput : (put quota.toWriter record).outcome world = (.ok (.error reason), world') := by
    rw [put, Effect.outcome_bind_of_ok hwrite]
    rfl
  exact ⟨reason, world', publish_of_put hput, hwritten.bytes, hwritten.flushes⟩

end Logbook.JsonLines

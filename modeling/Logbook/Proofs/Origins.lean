/-
Origins of records.  A record is made when a logger accepts a call at a reading of the clock, or it
is decoded from a text.  What is promised of its fields holds of the records that are made, and of
no others.  A decoder asks for none of it: every record at all comes back from its text, and the
microseconds in its console line have six digits only when the promise on them is kept.  Main
statement: `Record.promises_of_origin`.
-/
import Logbook.Proofs.Columns
import Logbook.Proofs.RecordWire
import Logbook.Session

namespace Logbook

/-- A reading of the clock has less than a million microseconds, also in a leap second. -/
theorem Stamp.usec_ofReading_lt (sec : Int64) (nanos : Nat) :
    (Stamp.ofReading sec nanos).usec.toNat < 1000000 := by
  have hword : (Stamp.ofReading sec nanos).usec.toNat = min (nanos / 1000) 999999 := by
    rw [ofReading, UInt32.toNat_ofNat_of_lt']
    rw [UInt32.size]
    omega
  omega

theorem Stamp.ofReading_usec {stamp : Stamp} (h : stamp.usec.toNat < 1000000) :
    Stamp.ofReading stamp.sec (stamp.usec.toNat * 1000) = stamp := by
  have hmicros : min (stamp.usec.toNat * 1000 / 1000) 999999 = stamp.usec.toNat := by omega
  rw [ofReading, hmicros]
  exact congrArg (Stamp.mk stamp.sec) UInt32.ofNat_toNat

namespace Record

/-- What is promised of the fields of a record. -/
structure Sound (record : Record) : Prop where
  /-- The frame is named after the node. -/
  frame : record.header.frameId = record.nodeName
  usec : record.stamp.usec.toNat < 1000000

/-- A logger accepts a call at a reading of the clock and makes this record for it. -/
def Made (record : Record) : Prop :=
  ∃ (logger : SessionLogger) (sec : Int64) (nanos : Nat) (call : Call),
    (logger.accept? (.ofReading sec nanos) call).map Prod.fst = some record

/-- A program has this record from one of its loggers or from a text. -/
inductive Obtained : Record → Prop where
  | made {record : Record} (h : record.Made) : Obtained record
  | decoded {record : Record} {text : String} (h : Record.ofJson text = .ok record) :
      Obtained record

/-- The record of a call is made as promised, whatever is logged by whom. -/
theorem sound_of_accept? {C T : Type} {logger : Logger C T} {sec : Int64} {nanos : Nat}
    {call : Call} {record : Record}
    (h : (logger.accept? (.ofReading sec nanos) call).map Prod.fst = some record) :
    record.Sound := by
  unfold Logger.accept? at h
  split at h
  · obtain rfl := Option.some.inj h
    exact ⟨rfl, Stamp.usec_ofReading_lt sec nanos⟩
  · cases h

/-- A logger that would make a record with the name and the number of this one. -/
def maker (record : Record) : SessionLogger :=
  LoggerPlan.build { nodeName := record.nodeName, sequenceStart := record.seq } .standardError

/-- A record that keeps the promises is one that a logger makes. -/
theorem made_of_sound {record : Record} (h : record.Sound) : record.Made := by
  refine ⟨record.maker, record.stamp.sec, record.stamp.usec.toNat * 1000,
    ⟨record.level, record.message, none⟩, ?_⟩
  have henabled : record.maker.enabled record.level = true := by
    cases hlevel : record.level <;> rfl
  rw [Logger.accept?, henabled, if_pos rfl, Stamp.ofReading_usec h.usec]
  obtain ⟨⟨stamp, seq, frameId⟩, level, nodeName, message⟩ := record
  obtain rfl : frameId = nodeName := h.frame
  rfl

theorem made_iff_sound (record : Record) : record.Made ↔ record.Sound := by
  constructor
  · rintro ⟨logger, sec, nanos, call, h⟩
    exact sound_of_accept? h
  · exact made_of_sound

/-- The records that are made are those that keep all promises, and the records that are decoded
are all there are.  A console line shows at least six digits of microseconds, and it shows just six
when the promise on them is kept. -/
theorem promises_of_origin (record : Record) :
    (record.Made ↔ record.Sound) ∧
    Record.ofJson record.json = .ok record ∧
    ∀ palette : Palette, 6 ≤ (microsecondsOf (record.line palette).toList).length ∧
      ((microsecondsOf (record.line palette).toList).length = 6 ↔
        record.stamp.usec.toNat < 1000000) := by
  refine ⟨record.made_iff_sound, ?_, ?_⟩
  · simpa using @Record.ofJson_json record [] [] (by simp) (by simp)
  · intro palette
    rw [record.microsecondsOf_line palette]
    refine ⟨?_, Text.length_zeroPadded_eq_iff (by decide) _⟩
    rw [Text.length_zeroPadded]
    exact Nat.le_max_left _ _

end Record

namespace OriginsWitness

/-- A text in which the frame has another name than the node, and the microseconds make a second. -/
def foreignText : String :=
  "\x7b\"header\":\x7b\"stamp\":\x7b\"sec\":0,\"usec\":1000000\x7d,\"seq\":0," ++
    "\"frame_id\":\"imu\"\x7d,\"level\":1,\"node_name\":\"gps\",\"message\":\"m\"\x7d"

def foreign : Record where
  header := ⟨⟨0, 1000000⟩, 0, "imu"⟩
  level := .info
  nodeName := "gps"
  message := "m"

/-- Not every record that a program obtains keeps the promises. -/
theorem foreign_obtained :
    Record.ofJson foreignText = .ok foreign ∧
    ¬ ∀ record : Record, record.Obtained → record.Sound ∧
      ∀ palette, (microsecondsOf (record.line palette).toList).length = 6 := by
  have htext : foreign.json = foreignText := by decide +kernel
  have hdecoded : Record.ofJson foreignText = .ok foreign := by
    simpa [htext] using @Record.ofJson_json foreign [] [] (by simp) (by simp)
  refine ⟨hdecoded, ?_⟩
  intro hpromised
  have hframe : "imu" = "gps" := (hpromised foreign (.decoded hdecoded)).1.frame
  exact absurd hframe (by decide)

end OriginsWitness

end Logbook

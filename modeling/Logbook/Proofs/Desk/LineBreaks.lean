/-
The console output of a logger, cut at its line breaks.  Nothing that a logger adds to a record
breaks its line, but the node name, the message and the file name in front of the message are
shown as they are, with the line breaks they have.  So the output has one line for each record
exactly as long as none of these texts has a line break, and one that has may pass for the lines
of other records.  Main statements: `Record.breaks_line` and `Desk.one_line_each_iff`.
-/
import Logbook.Proofs.Desk.Outputs
import Logbook.Proofs.JsonLines.Lines
import Logbook.Proofs.Tape.Memory

namespace Logbook

namespace Text

/-- The number of line breaks in a text. -/
def breaks (text : String) : Nat :=
  text.toList.count '\n'

@[simp] theorem breaks_append (first second : String) :
    breaks (first ++ second) = breaks first + breaks second := by
  simp [breaks]

/-- A line break is the only character whose bytes have a line break among them. -/
theorem count_utf8EncodeChar (c : Char) :
    (String.utf8EncodeChar c).count 10 = if c = '\n' then 1 else 0 := by
  by_cases hbreak : c = '\n'
  · rw [hbreak]
    rfl
  · have hmem : (10 : UInt8) ∉ String.utf8EncodeChar c := by
      intro hmem
      obtain ⟨c', hc', heq⟩ := exists_of_mem_utf8 (s := [c]) (by simpa [utf8] using hmem)
        (by decide)
      rw [List.mem_singleton] at hc'
      subst hc'
      exact hbreak (Char.toNat_inj.mp heq)
    rw [List.count_eq_zero_of_not_mem hmem, if_neg hbreak]

theorem count_utf8 (text : String) : (utf8 text.toList).count 10 = breaks text := by
  rw [breaks]
  induction text.toList with
  | nil => rfl
  | cons c rest ih =>
      have hcons : utf8 (c :: rest) = String.utf8EncodeChar c ++ utf8 rest := rfl
      rw [hcons, List.count_append, count_utf8EncodeChar, ih, List.count_cons, Nat.add_comm]
      simp

/-- A number is written with digits. -/
theorem lineBreak_not_mem_repr (n : Nat) : '\n' ∉ n.repr.toList := by
  intro hmem
  rw [Nat.toList_repr] at hmem
  have hdigit := Nat.isDigit_of_mem_toDigits (by decide) (by decide) hmem
  exact absurd hdigit (by decide)

theorem breaks_repr (n : Nat) : breaks n.repr = 0 :=
  List.count_eq_zero_of_not_mem (lineBreak_not_mem_repr n)

theorem breaks_zeroPadded (width n : Nat) : breaks (zeroPadded width n) = 0 := by
  apply List.count_eq_zero_of_not_mem
  simpa [zeroPadded, Layout.apply] using lineBreak_not_mem_repr n

end Text

open Text

theorem breaks_clockText (second : Nat) : breaks (clockText second) = 0 := by
  have hcolon : breaks ":" = 0 := by decide
  simp [clockText, breaks_zeroPadded, hcolon]

theorem Stamp.breaks_timeText (stamp : Stamp) : breaks stamp.timeText = 0 := by
  rw [timeText]
  split
  · exact breaks_clockText _
  · decide

theorem Palette.breaks_tag (palette : Palette) (level : Level) : breaks (palette.tag level) = 0 := by
  have hcolor : breaks (palette.levelEscape level) = 0 := by
    cases palette with
    | plain => rfl
    | colored colors =>
        rw [levelEscape]
        cases colors.get level <;> decide
  have hname : breaks (Layout.apply { width := 5 } level.name) = 0 := by
    cases level <;> decide
  have hbold : breaks palette.bold = 0 := by
    unfold bold
    split <;> decide
  have hreset : breaks palette.reset = 0 := by
    unfold reset
    split <;> decide
  have hopen : breaks "[" = 0 := by decide
  have hclose : breaks "]" = 0 := by decide
  simp [tag, hcolor, hname, hbold, hreset, hopen, hclose]

namespace Record

/-- The line breaks that a record brings along. -/
def breaks (record : Record) : Nat :=
  Text.breaks record.nodeName + Text.breaks record.message

/-- A line has the line breaks of its record and no others. -/
theorem breaks_line (record : Record) (palette : Palette) :
    Text.breaks (record.line palette) = record.breaks := by
  have hopen : Text.breaks "[" = 0 := by decide
  have hpoint : Text.breaks "." = 0 := by decide
  have hclose : Text.breaks "] " = 0 := by decide
  have hnode : Text.breaks " [" = 0 := by decide
  simp [line, breaks, record.stamp.breaks_timeText, breaks_zeroPadded, palette.breaks_tag, hopen,
    hpoint, hclose, hnode]

end Record

/-- The line breaks that a call brings along: those of its message, and those of the name of the
file that it is made from. -/
def Call.breaks (call : Call) : Nat :=
  (call.location.map (Text.breaks ·.fileName)).getD 0 + Text.breaks call.message

theorem Call.breaks_text (call : Call) : Text.breaks call.text = call.breaks := by
  rcases call with ⟨level, message, - | location⟩
  · simp [text, breaks]
  · have hopen : Text.breaks "[" = 0 := by decide
    have hcolon : Text.breaks ":" = 0 := by decide
    have hclose : Text.breaks "] " = 0 := by decide
    simp [text, breaks, hopen, hcolon, hclose, breaks_repr]

namespace JsonLines

/-- There are as many ended lines as line ends. -/
theorem length_completeLines (bytes : List UInt8) :
    (completeLines bytes).length = bytes.count 10 := by
  have hsplit : (bytes.splitOn 10).length = bytes.count 10 + 1 := by
    induction bytes with
    | nil => rfl
    | cons b rest ih =>
        rw [List.splitOn_cons_eq_if_modifyHead, List.count_cons]
        split <;> simp [ih]
  rw [completeLines, List.length_dropLast, hsplit, Nat.add_sub_cancel]

/-- Lines without line ends are cut apart again. -/
theorem completeLines_flatMap_of_not_mem {lines : List (List UInt8)}
    (h : ∀ line ∈ lines, 10 ∉ line) : completeLines (lines.flatMap (· ++ [10])) = lines := by
  induction lines with
  | nil => rfl
  | cons line rest ih =>
      have hrest := ih fun later hlater => h later (List.mem_cons_of_mem line hlater)
      rw [List.flatMap_cons, List.append_assoc, List.singleton_append,
        completeLines_append (h line List.mem_cons_self), hrest]

end JsonLines

open JsonLines

variable {C T Place Rest : Type}

namespace LoggerPlan

variable (plan : LoggerPlan C T)

/-- The bytes of the line of a record, without its line break. -/
def lineBytes (record : Record) : List UInt8 :=
  utf8 (record.line plan.palette).toList

theorem count_consoleLine (record : Record) :
    (plan.consoleLine record).count 10 = record.breaks + 1 := by
  simp [consoleLine, count_utf8, Record.breaks_line]

/-- The calls whose records the console gets. -/
def printed (tasks : List (Stamp × Task T)) : List (Accepted T) :=
  (plan.accepted [] tasks).filter (plan.localOn ·.before)

/-- The records that the console gets. -/
def printedRecords (tasks : List (Stamp × Task T)) : List Record :=
  ((plan.logged tasks).filter (plan.localOn ·.before)).map Logged.record

/-- All line breaks that a call brings into its line. -/
def broughtBy (entry : Accepted T) : Nat :=
  Text.breaks plan.nodeName + entry.call.breaks

theorem breaks_recordAt (place : Nat) (entry : Accepted T) :
    (plan.recordAt place entry).breaks = plan.broughtBy entry := by
  simp [recordAt, Record.new, Record.breaks, broughtBy, Call.breaks_text]

/-- Record by record, the line breaks are those that the calls bring along. -/
theorem breaks_printedRecords (tasks : List (Stamp × Task T)) :
    (plan.printedRecords tasks).map Record.breaks = (plan.printed tasks).map plan.broughtBy := by
  rw [printedRecords, printed, logged, List.filter_map, List.map_map, List.map_map]
  generalize plan.accepted [] tasks = entries
  have hfirst : entries = entries.zipIdx.map Prod.fst := (List.zipIdx_map_fst 0 entries).symm
  conv_rhs => rw [hfirst, List.filter_map, List.map_map]
  apply List.map_congr_left
  rintro ⟨entry, place⟩ -
  exact plan.breaks_recordAt place entry

theorem length_printedRecords (tasks : List (Stamp × Task T)) :
    (plan.printedRecords tasks).length = (plan.printed tasks).length := by
  simpa using congrArg List.length (plan.breaks_printedRecords tasks)

/-- The output has a line break for each line, and those that were brought along. -/
theorem count_flatMap_consoleLine (records : List Record) :
    (records.flatMap plan.consoleLine).count 10 =
      records.length + (records.map Record.breaks).sum := by
  induction records with
  | nil => rfl
  | cons record rest ih =>
      rw [List.flatMap_cons, List.count_append, plan.count_consoleLine, ih, List.length_cons,
        List.map_cons, List.sum_cons]
      omega

/-- The output is cut into the lines of the records exactly when these bring no line break. -/
theorem completeLines_consoleLine_iff (records : List Record) :
    completeLines (records.flatMap plan.consoleLine) = records.map plan.lineBytes ↔
      ∀ record ∈ records, record.breaks = 0 := by
  constructor
  · intro hlines
    have hlength := congrArg List.length hlines
    rw [length_completeLines, count_flatMap_consoleLine, List.length_map] at hlength
    have hsum : (records.map Record.breaks).sum = 0 := by omega
    simpa [List.sum_eq_zero_iff_forall_eq_nat] using hsum
  · intro hnone
    have hlines : ∀ line ∈ records.map plan.lineBytes, 10 ∉ line := by
      intro line hline
      obtain ⟨record, hrecord, rfl⟩ := List.mem_map.mp hline
      rw [← List.count_eq_zero, lineBytes, count_utf8, Record.breaks_line]
      exact hnone record hrecord
    have houtput : records.flatMap plan.consoleLine =
        (records.map plan.lineBytes).flatMap (· ++ [10]) := by
      rw [List.flatMap_map]
      rfl
    rw [houtput, completeLines_flatMap_of_not_mem hlines]

end LoggerPlan

namespace Desk

/-- While the console takes all bytes, its output has one line break for each call whose record it
gets, and all that the calls bring along: those of the node name, of the file name and of the
message.  There is one line for each of these calls, and each line is that of its record, exactly
when no call brings any. -/
theorem one_line_each_iff (plan : LoggerPlan C T) (standard : C) (tapes : C → Endless Place)
    (act : T → Record → Rest → Rest) (place : Place) (rest : Rest)
    (tasks : List (Stamp × Task T)) :
    let desk := run (attended tapes act) { logger := plan.build standard, world := { place, rest } }
      tasks
    let console := tapes (plan.console.getD standard)
    ∃ output, console.bytes desk.world.place = console.bytes place ++ output ∧
      (plan.printedRecords tasks).Sublist desk.records ∧
      (plan.printedRecords tasks).length = (plan.printed tasks).length ∧
      output.count 10 =
        (plan.printed tasks).length + ((plan.printed tasks).map plan.broughtBy).sum ∧
      (output.count 10 = (plan.printed tasks).length ↔
        ∀ entry ∈ plan.printed tasks, plan.broughtBy entry = 0) ∧
      (completeLines output = (plan.printedRecords tasks).map plan.lineBytes ↔
        ∀ entry ∈ plan.printed tasks, plan.broughtBy entry = 0) := by
  intro desk console
  have h := invariant_run plan standard tapes act place rest tasks
  have hcount := plan.count_flatMap_consoleLine (plan.printedRecords tasks)
  have hbrought := plan.breaks_printedRecords tasks
  rw [hbrought, plan.length_printedRecords] at hcount
  have hnone : (∀ record ∈ plan.printedRecords tasks, record.breaks = 0) ↔
      ∀ entry ∈ plan.printed tasks, plan.broughtBy entry = 0 := by
    have hmap := congrArg (fun numbers => ∀ n ∈ numbers, n = 0) hbrought
    simpa using hmap
  refine ⟨(plan.printedRecords tasks).flatMap plan.consoleLine, ?_, ?_,
    plan.length_printedRecords tasks, hcount, ?_, ?_⟩
  · rw [LoggerPlan.printedRecords, List.flatMap_map]
    exact h.console
  · rw [h.records]
    exact List.filter_sublist.map Logged.record
  · rw [hcount, Nat.add_eq_left, List.sum_eq_zero_iff_forall_eq_nat, List.forall_mem_map]
  · rw [plan.completeLines_consoleLine_iff, hnone]

/-- A logger with a plain console in memory, and some calls of the same level. -/
def spoken (messages : List String) :
    Desk Unit Unit (Surroundings Unit (List UInt8 × Nat) Unit) :=
  run (attended (fun _ => Memory.endless) fun _ _ rest => rest)
    { logger := LoggerPlan.build { nodeName := "imu", palette := .plain } ()
      world := { place := ([], 0), rest := () } }
    (messages.map fun message => (⟨0, 0⟩, .log ⟨.info, message, none⟩))

/-- One call whose message has a line break leaves two lines, which are just those of two calls. -/
theorem forged_line :
    (spoken ["up\n[00:00:00.000000] [INFO ] [imu] down"]).records.length = 1 ∧
      ((spoken ["up\n[00:00:00.000000] [INFO ] [imu] down"]).world.place.1).count 10 = 2 ∧
      (spoken ["up\n[00:00:00.000000] [INFO ] [imu] down"]).world.place =
        (spoken ["up", "down"]).world.place := by
  decide +kernel

end Desk

end Logbook

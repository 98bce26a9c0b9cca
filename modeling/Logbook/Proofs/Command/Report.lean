/-
What the command leaves.  The records of a run are those of the messages of its input, one number
after the other.  Every line that is taken adds to the output streams what its record asks for and
changes nothing else, so the streams of a whole run are known from what the command is given and
what its clocks show: the options and the settings decide whether there are JSON lines and console
lines, and the input decides how the command ends.  Main statements: `Run.logged_logText`,
`Run.logged_takeInput` and `lines_logged_run`.
-/
import Logbook.Proofs.Command.Input
import Logbook.Proofs.Command.Output
import Logbook.Proofs.Except

namespace Logbook

namespace Command

open Text

/-- The messages among what the lines of an input are read as: what stands before the first line
that is no text, without the empty lines. -/
def messages (texts : List (Option String)) : List String :=
  ((texts.takeWhile Option.isSome).filterMap id).filter (!·.isEmpty)

/-- The messages of an input. -/
def messagesOf (input : List UInt8) : List String :=
  messages ((inputLines input).map text?)

@[simp] theorem messages_nil : messages [] = [] := rfl

@[simp] theorem messages_none (rest : List (Option String)) : messages (none :: rest) = [] := by
  simp [messages]

theorem messages_some (text : String) (rest : List (Option String)) :
    messages (some text :: rest) = if text.isEmpty then messages rest else text :: messages rest := by
  by_cases hempty : text.isEmpty <;> simp [messages, hempty]

theorem messages_append (text : String) (rest : List (Option String)) :
    messages (some text :: rest) = messages [some text] ++ messages rest := by
  rw [messages_some, messages_some]
  split <;> simp

theorem messagesOf_append {line : List UInt8} (h : 10 ∉ line) (rest : List UInt8) :
    messagesOf (line ++ 10 :: rest) =
      messages (text? (dropReturn line) :: (inputLines rest).map text?) := by
  rw [messagesOf, inputLines_append h, List.map_cons]

theorem messagesOf_of_not_mem {line : List UInt8} (h : 10 ∉ line) :
    messagesOf line = if line = [] then [] else messages [text? line] := by
  rw [messagesOf, inputLines_of_not_mem h]
  split <;> rfl

/-- The records of messages.  They take one number and one reading of the clock after the other. -/
def numbered (stamps : Nat → Stamp) (level : Level) (node : String) (next : UInt32)
    (texts : List String) : List Record :=
  texts.mapIdx fun i text => .new (stamps i) (next + UInt32.ofNat i) level node text

theorem numbered_append (stamps : Nat → Stamp) (level : Level) (node : String) (next : UInt32)
    (texts more : List String) :
    numbered stamps level node next (texts ++ more) =
      numbered stamps level node next texts ++
        numbered (fun i => stamps (i + texts.length)) level node
          (next + UInt32.ofNat texts.length) more := by
  have hnext (i : Nat) : next + UInt32.ofNat (i + texts.length) =
      next + UInt32.ofNat texts.length + UInt32.ofNat i := by
    rw [UInt32.ofNat_add, UInt32.add_comm (UInt32.ofNat i), UInt32.add_assoc]
  simp only [numbered, List.mapIdx_append, hnext]

namespace Run

/-- The records that a run makes of messages. -/
def records (run : Run) (stamps : Nat → Stamp) (texts : List String) : List Record :=
  if run.logger.enabled run.options.lineLevel then
    numbered stamps run.options.lineLevel run.logger.nodeName run.logger.nextSeq texts
  else []

/-- From one moment of the command at work to a later one: some messages were logged, and nothing
else has happened. -/
structure Logged (before after : Run) (world later : World) (texts : List String) : Prop where
  options : after.options = before.options
  filter : after.filter = before.filter
  logger : after.logger = { before.logger with
    nextSeq := before.logger.nextSeq +
      UInt32.ofNat (before.records world.stamps texts).length }
  world : world.Passed later texts.length 0
    (jsonLines before.logger (before.records world.stamps texts))
    (consoleLines before.logger (before.records world.stamps texts))

variable {run : Run} {world : World}

@[simp] theorem records_nil (stamps : Nat → Stamp) : run.records stamps [] = [] := by
  simp [records, numbered]

theorem Logged.refl (run : Run) (world : World) : Logged run run world world [] :=
  ⟨rfl, rfl, by simp, by simpa [jsonLines, consoleLines] using World.Passed.refl world⟩

/-- The records of more messages come behind those of the first. -/
theorem Logged.records_append {after : Run} {later : World} {texts : List String}
    (h : Logged run after world later texts) (more : List String) :
    run.records world.stamps (texts ++ more) =
      run.records world.stamps texts ++ after.records later.stamps more := by
  have hsame : after.logger.enabled run.options.lineLevel =
      run.logger.enabled run.options.lineLevel := by
    rw [h.logger]
    rfl
  cases henabled : run.logger.enabled run.options.lineLevel with
  | false => simp [records, h.options, hsame, henabled]
  | true =>
      have hlength : (run.records world.stamps texts).length = texts.length := by
        simp [records, numbered, henabled]
      have hnext := congrArg Logger.nextSeq h.logger
      have hnode := congrArg Logger.nodeName h.logger
      simp only [hlength] at hnext
      simp only [records, h.options, hsame, henabled, if_true, numbered_append, hnext, hnode,
        h.world.stamps]

theorem Logged.trans {first second third : Run} {world middle later : World}
    {texts more : List String} (h : Logged first second world middle texts)
    (h' : Logged second third middle later more) :
    Logged first third world later (texts ++ more) := by
  refine ⟨h'.options.trans h.options, h'.filter.trans h.filter, ?_, ?_⟩
  · rw [h'.logger, h.records_append, List.length_append, UInt32.ofNat_add, ← UInt32.add_assoc]
    simp only [h.logger]
  · have hworld := h.world.trans h'.world
    rw [h.logger] at hworld
    rw [h.records_append, jsonLines_append, consoleLines_append, List.length_append]
    exact hworld

/-- A text that is logged is one record, unless it is empty or below the threshold. -/
theorem logged_logText (run : Run) (world : World) (text : String) :
    ∃ after later, outcome (run.logText World.host text) world = (.ok after, later) ∧
      Logged run after world later (messages [some text]) := by
  unfold logText
  rw [messages_some, messages_nil]
  cases hempty : text.isEmpty with
  | true => exact ⟨run, world, rfl, .refl run world⟩
  | false =>
      obtain ⟨middle, hstamp, hread⟩ := passed_stamp world
      simp only [Bool.false_eq_true, if_false]
      rw [outcome_bind_of_ok hstamp]
      cases henabled : run.logger.enabled run.options.lineLevel with
      | false =>
          -- The clock was read, but there is no record to carry the reading.
          refine ⟨run, middle, by simp only [Logger.accept?, henabled]; rfl, rfl, rfl, ?_, ?_⟩
          · simp [records, henabled]
          · simpa [records, henabled, jsonLines, consoleLines] using hread
      | true =>
          let record := Record.new (world.stamps 0) run.logger.nextSeq run.options.lineLevel
            run.logger.nodeName text
          let logger := { run.logger with nextSeq := run.logger.nextSeq + 1 }
          have hrecords : run.records world.stamps [text] = [record] := by
            simp [records, henabled, numbered, record]
          obtain ⟨streams, hemit, hemitted⟩ := grown_emit logger record {}
          obtain ⟨later, hwrite, hwritten⟩ := passed_write streams middle
          have hworld := hread.trans hwritten
          rw [hemitted.out, hemitted.err] at hworld
          refine ⟨{ run with logger }, later, ?_, rfl, rfl, ?_, ?_⟩
          · have haccept : run.logger.accept? (world.stamps 0)
                ⟨run.options.lineLevel, text, none⟩ = some (record, logger) := by
              rw [Logger.accept?, if_pos henabled]
              rfl
            simp only [haccept, hemit]
            exact outcome_bind_of_ok hwrite
          · rw [hrecords]
            rfl
          · rw [hrecords]
            exact hworld

/-- The messages of an input that is taken are logged, up to the first line that is no text. -/
theorem logged_takeInput (run : Run) (world : World) (input : List UInt8) :
    ∃ after later, Logged run after world later (messagesOf input) ∧
      (IsText input → outcome (run.takeInput World.host input) world = (.ok after, later)) ∧
      (¬IsText input →
        outcome (run.takeInput World.host input) world = (.error .badInput, later)) := by
  -- What the first line leaves, the command and its world, is where the rest of the input begins.
  induction input using line_induction generalizing run world with
  | last line h =>
      rw [takeInput_of_not_mem World.host run h, messagesOf_of_not_mem h]
      by_cases hline : line = []
      · have hnil : IsText line := ⟨"", by rw [hline]; rfl⟩
        rw [if_pos hline, if_pos hline]
        exact ⟨run, world, .refl run world, fun _ => rfl, fun hnot => absurd hnil hnot⟩
      · rw [if_neg hline, if_neg hline, takeLine, trimLineEnd_of_not_mem h, ← isSome_text?]
        cases htext : text? line with
        | none =>
            rw [messages_none]
            exact ⟨run, world, .refl run world, by simp, fun _ => rfl⟩
        | some text =>
            obtain ⟨after, later, hlog, hlogged⟩ := run.logged_logText world text
            exact ⟨after, later, hlogged, fun _ => hlog, by simp⟩
  | more line rest h ih =>
      rw [takeInput_append World.host run h, messagesOf_append h, takeLine, trimLineEnd_append,
        isText_append_cons (by decide), ← isText_dropReturn, ← isSome_text?]
      cases htext : text? (dropReturn line) with
      | none =>
          rw [messages_none]
          exact ⟨run, world, .refl run world, by simp, fun _ => outcome_bind_of_error rfl⟩
      | some text =>
          obtain ⟨middle, between, hlog, hfirst⟩ := run.logged_logText world text
          obtain ⟨after, later, hmore, hgood, hbad⟩ := ih middle between
          rw [messages_append, outcome_bind_of_ok hlog]
          exact ⟨after, later, hfirst.trans hmore, by simpa using hgood, by simpa using hbad⟩

end Run

section Effective

variable (options : Options) (settings : Settings)

/-- The name of the node, from the options or else from the settings. -/
def Options.effectiveNode : String :=
  options.node.getD settings.logger.nodeName

/-- The threshold, from the options or else from the settings. -/
def Options.effectiveMinLevel : Level :=
  options.minLevel.getD settings.logger.minLevel

/-- The switch of the console, off by the options or else as in the settings. -/
def Options.effectiveLocalOutput : Bool :=
  if options.noLocal then false else settings.logger.localOutput

/-- Lines at the level of the options are at or above the threshold. -/
def Options.letsThrough : Bool :=
  decide (options.effectiveMinLevel settings ≤ options.lineLevel)

/-- The command at work has the logger that the options and the settings ask for. -/
theorem begin_logger (filter : Filter) :
    (Run.begin options filter (options.override settings)).logger =
      { nodeName := options.effectiveNode settings
        minLevel := options.effectiveMinLevel settings
        localOutput := options.effectiveLocalOutput settings
        remoteOutput := options.json
        transport := if options.json then some () else none
        nextSeq := settings.logger.sequenceStart
        console := ()
        palette := settings.palette } := by
  cases hjson : options.json <;> cases hlocal : options.noLocal <;>
    simp [Run.begin, LoggerPlan.build, LoggerPlan.ofSettings, Options.override,
      Options.effectiveNode, Options.effectiveMinLevel, Options.effectiveLocalOutput,
      Settings.palette, hjson, hlocal]

section Input

variable (stamps : Nat → Stamp) (input : List UInt8)

/-- The records of an input, given what the clock shows. -/
def Options.records : List Record :=
  if options.letsThrough settings then
    numbered stamps options.lineLevel (options.effectiveNode settings)
      settings.logger.sequenceStart (messagesOf input)
  else []

/-- The bytes of the records of an input on the standard output. -/
def Options.output : List UInt8 :=
  if options.json then (options.records settings stamps input).flatMap JsonLines.line else []

/-- The bytes of the records of an input on the console. -/
def Options.console : List UInt8 :=
  if options.effectiveLocalOutput settings then
    (options.records settings stamps input).flatMap (consoleLine settings.palette)
  else []

variable (filter : Filter) (times : Nat → String)

/-- What the command tells about itself before it takes lines. -/
def Options.opening : List UInt8 :=
  let ready := Diagnostic.ready (options.effectiveNode settings)
    (options.effectiveMinLevel settings)
  told options filter (times 0) .enabled ++ told options filter (times 1) ready

/-- What the command tells about itself after the last line. -/
def Options.closing : List UInt8 :=
  told options filter (times 2) (.closed (settings.logger.sequenceStart +
    UInt32.ofNat (options.records settings stamps input).length))

section Begin

variable {options settings filter}

theorem begin_records :
    (Run.begin options filter (options.override settings)).records stamps (messagesOf input) =
      options.records settings stamps input := by
  rw [Run.records, begin_logger]
  rfl

theorem begin_jsonLines :
    jsonLines (Run.begin options filter (options.override settings)).logger
      (options.records settings stamps input) = options.output settings stamps input := by
  rw [begin_logger]
  cases hjson : options.json <;> simp [jsonLines, Logger.route, Options.output, hjson]

theorem begin_consoleLines :
    consoleLines (Run.begin options filter (options.override settings)).logger
      (options.records settings stamps input) = options.console settings stamps input := by
  rw [begin_logger]
  rfl

end Begin

end Input

end Effective

section Work

variable (options : Options) (settings : Settings)

/-- What the command tells before it takes lines has two readings of the clock. -/
theorem passed_opening (filter : Filter) (world : World) :
    ∃ middle later,
      outcome (tell World.host options filter .enabled) world = (.ok (), middle) ∧
      outcome (tell World.host options filter
        (.ready (options.effectiveNode settings) (options.effectiveMinLevel settings))) middle =
          (.ok (), later) ∧
      world.Passed later 0 2 [] (options.opening settings filter world.times) := by
  obtain ⟨middle, henabled, hfirst⟩ := passed_tell options filter .enabled world
  obtain ⟨later, hready, hsecond⟩ := passed_tell options filter
    (.ready (options.effectiveNode settings) (options.effectiveMinLevel settings)) middle
  have hpassed := hfirst.trans hsecond
  rw [hfirst.times] at hpassed
  exact ⟨middle, later, henabled, hready, hpassed⟩

/-- The lines of an input leave its records, and the number behind them. -/
theorem passed_takeInput (filter : Filter) (input : List UInt8) (world : World) :
    ∃ after later, after.options = options ∧ after.filter = filter ∧
      after.logger.nextSeq = settings.logger.sequenceStart +
        UInt32.ofNat (options.records settings world.stamps input).length ∧
      world.Passed later (messagesOf input).length 0 (options.output settings world.stamps input)
        (options.console settings world.stamps input) ∧
      (IsText input → outcome ((Run.begin options filter (options.override settings)).takeInput
        World.host input) world = (.ok after, later)) ∧
      (¬IsText input → outcome ((Run.begin options filter (options.override settings)).takeInput
        World.host input) world = (.error .badInput, later)) := by
  obtain ⟨after, later, hlogged, hgood, hbad⟩ :=
    (Run.begin options filter (options.override settings)).logged_takeInput world input
  have hworld := hlogged.world
  rw [begin_records, begin_jsonLines, begin_consoleLines] at hworld
  refine ⟨after, later, hlogged.options, hlogged.filter, ?_, hworld, hgood, hbad⟩
  rw [hlogged.logger, begin_records, begin_logger]

variable {options settings} {formats : List Settings.Format} {request : Request}

/-- Work that can begin leaves all records of its input, whether the input is a text or not. -/
theorem outcome_work
    (hsettings : options.baseSettings formats request.files request.environment = .ok settings)
    (chunks : List (List UInt8)) (world : World) :
    ∃ later err, world.streams.Grown later.streams
        (options.output settings world.stamps chunks.flatten)
        (options.opening settings request.filter world.times ++
          options.console settings world.stamps chunks.flatten ++ err) ∧
      (IsText chunks.flatten →
        err = options.closing settings world.stamps chunks.flatten request.filter world.times ∧
          outcome (work World.host formats request chunks options) world = (.ok (), later)) ∧
      (¬IsText chunks.flatten → err = [] ∧
        outcome (work World.host formats request chunks options) world =
          (.error .badInput, later)) := by
  obtain ⟨first, second, henabled, hready, hopening⟩ :=
    passed_opening options settings request.filter world
  obtain ⟨after, third, hafter, hfilter, hnext, hlines, hgood, hbad⟩ :=
    passed_takeInput options settings request.filter chunks.flatten second
  have hstamps : second.stamps = world.stamps := hopening.stamps
  rw [hstamps] at hnext hlines
  have hbefore := hopening.trans hlines
  have hwork : outcome (work World.host formats request chunks options) world =
      outcome ((Run.begin options request.filter (options.override settings)).takeInput World.host
        chunks.flatten >>= Run.finish World.host) second := by
    unfold work
    rw [outcome_bind_of_ok henabled]
    simp only [hsettings]
    rw [← serve_chunks]
    exact outcome_bind_of_ok hready
  by_cases h : IsText chunks.flatten
  · obtain ⟨later, hclosed, hlast⟩ :=
      passed_tell after.options after.filter (.closed after.logger.nextSeq) third
    rw [hafter, hfilter, hnext, hbefore.times] at hlast
    refine ⟨later, _, ?_, fun _ => ⟨rfl, ?_⟩, fun hnot => absurd h hnot⟩
    · have hwhole := (hbefore.trans hlast).streams
      rw [List.append_nil] at hwhole
      exact hwhole
    · rw [hwork, outcome_bind_of_ok (hgood h)]
      exact hclosed
  · refine ⟨third, [], ?_, fun hyes => absurd hyes h, fun _ => ⟨rfl, ?_⟩⟩
    · rw [List.append_nil]
      exact hbefore.streams
    · rw [hwork, outcome_bind_of_error (hbad h)]

end Work

section Answer

variable {formats : List Settings.Format} {request : Request} {chunks : List (List UInt8)}
  {options : Options} {settings : Settings}

/-- The report is what the work leaves, with a complaint behind it when the work fails. -/
theorem report_eq (hoptions : Options.ofArguments request.arguments = .ok options)
    (clocks : Clocks) :
    report formats request chunks clocks =
      match outcome (work World.host formats request chunks options) { clocks with } with
      | (.ok (), later) => ⟨0, later.streams⟩
      | (.error failure, later) => ⟨1, later.streams.append failure.complaint⟩ := by
  unfold report perform outcome
  simp only [hoptions, StateT.run_bind]
  generalize (work World.host formats request chunks options).run.run { clocks with } = ending
  obtain ⟨value | failure, later⟩ := ending <;> rfl

/-- A command that can begin leaves all records of its input, and its exit code tells whether the
input is a text. -/
theorem report_logged (hoptions : Options.ofArguments request.arguments = .ok options)
    (hsettings : options.baseSettings formats request.files request.environment = .ok settings)
    (chunks : List (List UInt8)) (clocks : Clocks) :
    (report formats request chunks clocks).streams.out =
        options.output settings clocks.stamps chunks.flatten ∧
      ∃ ending, (report formats request chunks clocks).streams.err =
          options.opening settings request.filter clocks.times ++
            options.console settings clocks.stamps chunks.flatten ++ ending ∧
        (IsText chunks.flatten → (report formats request chunks clocks).code = 0 ∧
          ending = options.closing settings clocks.stamps chunks.flatten request.filter
            clocks.times) ∧
        (¬IsText chunks.flatten → (report formats request chunks clocks).code = 1 ∧
          ending = utf8 "Error: stream did not contain valid UTF-8\n".toList) := by
  obtain ⟨later, err, hgrown, hgood, hbad⟩ := outcome_work hsettings chunks { clocks with }
  rw [report_eq hoptions]
  by_cases h : IsText chunks.flatten
  · obtain ⟨rfl, hwork⟩ := hgood h
    rw [hwork]
    exact ⟨hgrown.out, _, hgrown.err, fun _ => ⟨rfl, rfl⟩, fun hnot => absurd h hnot⟩
  · obtain ⟨rfl, hwork⟩ := hbad h
    rw [hwork]
    refine ⟨?_, _, ?_, fun hyes => absurd hyes h, fun _ => ⟨rfl, rfl⟩⟩
    · rw [Streams.out_append, hgrown.out]
      exact List.append_nil _
    · rw [Streams.err_append, hgrown.err, List.append_nil]
      rfl

end Answer

/-- What the command does when its arguments and its settings can be read. -/
structure Answered (formats : List Settings.Format) (request : Request)
    (chunks : List (List UInt8)) (clocks : Clocks) (options : Options) (settings : Settings) :
    Prop where
  /-- The settings are those of the file and the environment, or the defaults when no file is
  asked for. -/
  base : match options.config with
    | some path =>
        Settings.loadFrom formats request.files path request.environment = .ok settings
    | none => settings = {}
  /-- With JSON and a level that is let through, the standard output has a line for each message
  and nothing behind the last line end. -/
  lines : options.json → options.letsThrough settings →
    let out := (report formats request chunks clocks).streams.out
    out = (JsonLines.completeLines out).flatMap (· ++ [10]) ∧
      (JsonLines.completeLines out).length = (messagesOf chunks.flatten).length
  /-- Each of these lines reads as the record of its message, made at a reading of the clock of its
  own. -/
  decoded : options.json → options.letsThrough settings →
    ∀ (i : Nat) (message : String), (messagesOf chunks.flatten)[i]? = some message →
      ∃ bytes record,
        (JsonLines.completeLines (report formats request chunks clocks).streams.out)[i]? =
          some bytes ∧
        JsonLines.readLine bytes = .ok record ∧
        record.stamp = clocks.stamps i ∧
        record.seq.toNat = (settings.logger.sequenceStart.toNat + i) % 2 ^ 32 ∧
        record.level = options.lineLevel ∧
        record.nodeName = options.effectiveNode settings ∧
        record.header.frameId = options.effectiveNode settings ∧
        record.message = message
  /-- Otherwise nothing is on the standard output. -/
  silent : ¬(options.json ∧ options.letsThrough settings) →
    (report formats request chunks clocks).streams.out = []
  /-- On the standard error stream are the console lines of the same records, between what the
  command tells about itself. -/
  console : ∃ ending,
    (report formats request chunks clocks).streams.err =
      options.opening settings request.filter clocks.times ++
        options.console settings clocks.stamps chunks.flatten ++ ending ∧
    (IsText chunks.flatten → ending =
      options.closing settings clocks.stamps chunks.flatten request.filter clocks.times) ∧
    (¬IsText chunks.flatten →
      ending = utf8 "Error: stream did not contain valid UTF-8\n".toList)
  /-- Neither the switch of the console nor the palette nor the diagnostics change the standard
  output, nor does it matter in which chunks the input comes. -/
  alike : ∀ (formats' : List Settings.Format) (other : Request) (chunks' : List (List UInt8))
      (clocks' : Clocks) (options' : Options) (settings' : Settings),
    Options.ofArguments other.arguments = .ok options' →
    options'.baseSettings formats' other.files other.environment = .ok settings' →
    chunks'.flatten = chunks.flatten → clocks'.stamps = clocks.stamps →
    options'.json = options.json → options'.lineLevel = options.lineLevel →
    options'.effectiveNode settings' = options.effectiveNode settings →
    options'.effectiveMinLevel settings' = options.effectiveMinLevel settings →
    settings'.logger.sequenceStart = settings.logger.sequenceStart →
    (report formats' other chunks' clocks').streams.out =
      (report formats request chunks clocks).streams.out
  /-- The command succeeds exactly when every line of its input is a text, which is when the whole
  input is one. -/
  succeeds : ((report formats request chunks clocks).code = 0 ↔
      ∀ line ∈ inputLines chunks.flatten, IsText line) ∧
    ((report formats request chunks clocks).code = 0 ↔ IsText chunks.flatten)
  /-- It fails in one way. -/
  fails : (report formats request chunks clocks).code ≠ 0 →
    (report formats request chunks clocks).code = 1

section Answer

variable {formats : List Settings.Format} {request : Request} {chunks : List (List UInt8)}
  {clocks : Clocks} {options : Options} {settings : Settings}

/-- The lines of the output of a command that lets lines through. -/
theorem completeLines_output (stamps : Nat → Stamp) (input : List UInt8) (hjson : options.json)
    (hlevel : options.letsThrough settings) :
    JsonLines.completeLines (options.output settings stamps input) =
      (numbered stamps options.lineLevel (options.effectiveNode settings)
        settings.logger.sequenceStart (messagesOf input)).map JsonLines.body := by
  have hlines := JsonLines.completeLines_flatMap (options.records settings stamps input) []
  rw [List.append_nil, JsonLines.completeLines_of_not_mem List.not_mem_nil,
    List.append_nil] at hlines
  rw [Options.output, if_pos hjson, hlines, Options.records, if_pos hlevel]

/-- A command whose arguments and settings can be read logs the messages of its input. -/
theorem lines_logged_run (hoptions : Options.ofArguments request.arguments = .ok options)
    (hsettings : options.baseSettings formats request.files request.environment = .ok settings) :
    Answered formats request chunks clocks options settings := by
  obtain ⟨hout, ending, herr, hgood, hbad⟩ := report_logged hoptions hsettings chunks clocks
  have hcode : (report formats request chunks clocks).code = 0 ↔ IsText chunks.flatten := by
    constructor
    · intro hzero
      by_contra hbroken
      rw [(hbad hbroken).1] at hzero
      exact absurd hzero (by decide)
    · exact fun h => (hgood h).1
  constructor
  case base =>
    unfold Options.baseSettings at hsettings
    cases hconfig : options.config with
    | some path => rwa [hconfig] at hsettings
    | none =>
        rw [hconfig] at hsettings
        have hdefault : Settings.ofSources [] = .ok {} := rfl
        exact Except.ok.inj (hsettings.symm.trans hdefault)
  case lines =>
    intro hjson hlevel
    simp only [hout, completeLines_output _ _ hjson hlevel]
    refine ⟨?_, by simp [numbered]⟩
    rw [Options.output, if_pos hjson, Options.records, if_pos hlevel, List.flatMap_map]
    exact List.flatMap_congr fun record _ => JsonLines.line_eq record
  case decoded =>
    intro hjson hlevel i message hmessage
    let record := Record.new (clocks.stamps i)
      (settings.logger.sequenceStart + UInt32.ofNat i) options.lineLevel
      (options.effectiveNode settings) message
    refine ⟨JsonLines.body record, record, ?_, JsonLines.readLine_body record, rfl, ?_, rfl, rfl,
      rfl, rfl⟩
    · rw [hout, completeLines_output _ _ hjson hlevel, List.getElem?_map, numbered,
        List.getElem?_mapIdx, hmessage]
      rfl
    · simp [record, Record.new, Record.seq]
  case silent =>
    intro hnot
    rw [hout, Options.output, Options.records]
    cases hjson : options.json <;> cases hlevel : options.letsThrough settings <;>
      simp_all
  case console =>
    exact ⟨ending, herr, fun h => (hgood h).2, fun h => (hbad h).2⟩
  case alike =>
    intro formats' other chunks' clocks' options' settings' hoptions' hsettings' hinput hstamps
      hjson hlevel hnode hmin hstart
    have hthrough : options'.letsThrough settings' = options.letsThrough settings := by
      rw [Options.letsThrough, hmin, hlevel, Options.letsThrough]
    have hout' := (report_logged hoptions' hsettings' chunks' clocks').1
    rw [hout, hout', Options.output, Options.output, Options.records, Options.records, hthrough,
      hinput, hstamps, hjson, hlevel, hnode, hstart]
  case succeeds => exact ⟨hcode.trans (isText_iff_forall_inputLines chunks.flatten), hcode⟩
  case fails =>
    intro hne
    exact (hbad fun htext => hne (hgood htext).1).1

end Answer

end Command

namespace ReportWitness

/-- A request with a file that some of the options override. -/
def request : Command.Request where
  arguments := ["--config", "arm", "--json", "--node=imu", "--level", "warn", "--no-local"]
  environment := [("NODELOG_LOGGER__MIN_LEVEL", "warn")]
  files := {
    isFile := fun path => path.text == "arm.toml"
    bytes? := fun path =>
      if path.text == "arm.toml" then
        some (Text.utf8 "[logger]\nnode_name = 'arm'\nsequence_start = 4294967295".toList)
      else none }

/-- An input that breaks off at a byte that begins no character.  A chunk ends inside a line. -/
def chunks : List (List UInt8) :=
  [[97, 13, 10, 10, 98, 13], [13, 10, 255, 10, 99]]

/-- Clocks that move between any two readings. -/
def clocks : Command.Clocks where
  stamps i := ⟨Int64.ofNat i, 0⟩
  times i := toString i

/-- The options of the request. -/
def options : Command.Options where
  config := some "arm"
  json := true
  node := some "imu"
  level := some .warn
  noLocal := true

/-- The settings of its file and its environment. -/
def settings : Settings where
  logger := { nodeName := "arm", minLevel := .warn, sequenceStart := 4294967295 }

theorem lines_logged_request :
    (Command.Options.ofArguments request.arguments = .ok options ∧
      options.baseSettings Settings.Format.known request.files request.environment =
        .ok settings) ∧
    Command.Answered Settings.Format.known request chunks clocks options settings := by
  have hoptions : Command.Options.ofArguments request.arguments = .ok options :=
    toOption_eq_some_iff.mp (by decide +kernel)
  have hsettings : options.baseSettings Settings.Format.known request.files request.environment =
      .ok settings :=
    toOption_eq_some_iff.mp (by decide +kernel)
  exact ⟨⟨hoptions, hsettings⟩, Command.lines_logged_run hoptions hsettings⟩

example : (options.records settings clocks.stamps chunks.flatten).map
      (fun record => (record.stamp.sec, record.seq, record.message)) =
    [(0, 4294967295, "a"), (1, 0, "b\r")] := by cbv

end ReportWitness

end Logbook

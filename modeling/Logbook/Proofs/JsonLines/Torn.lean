/-
Records through a tape that may fail anywhere and work again.  A record that is lost may leave the
first part of its line, and nothing ends that line.  The records behind it stand in the same line,
which is then read as none of them; so losing a record harms no other one exactly as long as no
whole line comes behind a torn one.
-/
import Logbook.Proofs.Json.Balance
import Logbook.Proofs.JsonLines.Lines
import Logbook.Proofs.Tape.Memory

namespace Logbook.JsonLines

variable {World : Type}

/-- A record that was published: what came of that, and the bytes it left. -/
structure Publication where
  record : Record
  outcome : Except Fault (Option Event)
  left : List UInt8

namespace Publication

/-- The loss of the record was told, by an event or by a fault. -/
def Lost (publication : Publication) : Prop :=
  publication.outcome ≠ .ok none

/-- The record left its whole line. -/
def Whole (publication : Publication) : Prop :=
  publication.left = line publication.record

/-- The record left a part of its line. -/
def Torn (publication : Publication) : Prop :=
  publication.left ≠ [] ∧ ¬publication.Whole

instance (publication : Publication) : Decidable publication.Lost :=
  inferInstanceAs (Decidable (publication.outcome ≠ .ok none))

instance (publication : Publication) : Decidable publication.Whole :=
  inferInstanceAs (Decidable (publication.left = line publication.record))

instance (publication : Publication) : Decidable publication.Torn :=
  inferInstanceAs (Decidable (publication.left ≠ [] ∧ ¬publication.Whole))

/-- What is known whatever the tape does: the record left a first part of its line, and the whole
line unless its loss was told.  An event tells of nothing else. -/
structure Sound (publication : Publication) : Prop where
  starts : publication.left <+: line publication.record
  whole : publication.Lost ∨ publication.Whole
  told : ∀ event, publication.outcome = .ok (some event) → TellsLoss publication.record event

end Publication

/-- Publishes records one after the other, whatever comes of each. -/
def publishEach (tape : Tape World) : List Record → World → List Publication × World
  | [], world => ([], world)
  | record :: rest, world =>
      let (outcome, world') := (publish tape.toWriter record).outcome world
      let left := (tape.bytes world').drop (tape.bytes world).length
      let (publications, world'') := publishEach tape rest world'
      (⟨record, outcome, left⟩ :: publications, world'')

/-- All that publications left. -/
def output (publications : List Publication) : List UInt8 :=
  publications.flatMap Publication.left

/-- Every record whose loss was not told has a line of its own: the output is at the start of a
line before it. -/
def AllStandAlone (publications : List Publication) : Prop :=
  ∀ before publication after, publications = before ++ publication :: after →
    publication.Lost ∨ publication.Whole ∧
      (output before = [] ∨ ∃ start, output before = start ++ lineEnd)

/-- Every line that is ended is read as one of the records. -/
def AllReadable (publications : List Publication) : Prop :=
  ∀ bytes ∈ completeLines (output publications),
    ∃ publication ∈ publications, readLine bytes = .ok publication.record

theorem publishEach_spec (tape : Tape World) (records : List Record) (world : World) :
    (publishEach tape records world).1.map Publication.record = records ∧
      tape.bytes (publishEach tape records world).2 =
        tape.bytes world ++ output (publishEach tape records world).1 ∧
      ∀ publication ∈ (publishEach tape records world).1, publication.Sound := by
  induction records generalizing world with
  | nil => simp [publishEach, output]
  | cons record records ih =>
      obtain ⟨part, hpart, hbytes, hwhole⟩ := publish_outcome tape record world
      obtain ⟨hrecords, hrest, hsound⟩ := ih ((publish tape.toWriter record).outcome world).2
      have hleft : (tape.bytes ((publish tape.toWriter record).outcome world).2).drop
          (tape.bytes world).length = part := by
        rw [hbytes, List.drop_left]
      refine ⟨?_, ?_, ?_⟩
      · rw [publishEach, List.map_cons, hrecords]
      · simp only [publishEach, hrest, hleft, output, List.flatMap_cons]
        rw [hbytes, List.append_assoc]
      · intro publication hmem
        simp only [publishEach, hleft, List.mem_cons] at hmem
        rcases hmem with rfl | hmem
        · refine ⟨hpart, ?_, fun event => tellsLoss_of_publish⟩
          by_cases hdone : ((publish tape.toWriter record).outcome world).1 = .ok none
          · exact Or.inr (hwhole hdone)
          · exact Or.inl hdone
        · exact hsound publication hmem

/-- The bytes of a record start with a bracket. -/
theorem body_eq (record : Record) : ∃ tail, body record = 0x7b :: tail := by
  obtain ⟨tail, hjson⟩ := record.json_eq
  rw [body, hjson]
  exact ⟨_, rfl⟩

/-- The bytes of a line that nothing has ended: no line end is among them, and they start as a
record does. -/
structure Pending (bytes : List UInt8) : Prop where
  unended : 10 ∉ bytes
  starts : bytes ≠ [] → ∃ rest, bytes = 0x7b :: rest

theorem pending_nil : Pending [] :=
  ⟨List.not_mem_nil, fun h => absurd rfl h⟩

/-- What is left behind a line that was not ended joins it. -/
theorem Pending.append {first second : List UInt8} (h : Pending first) (h' : Pending second) :
    Pending (first ++ second) where
  unended := by
    rw [List.mem_append]
    exact fun hmem => hmem.elim h.unended h'.unended
  starts := by
    intro hne
    cases first with
    | nil => exact h'.starts hne
    | cons b first =>
        obtain ⟨rest, hrest⟩ := h.starts (List.cons_ne_nil b first)
        exact ⟨rest ++ second, by rw [hrest, List.cons_append]⟩

/-- What is left of a line that is not whole waits for an end. -/
theorem Publication.Sound.pending {publication : Publication} (h : publication.Sound)
    (hnot : ¬publication.Whole) : Pending publication.left := by
  have hstarts := h.starts
  rw [line_eq, lineEnd, List.prefix_concat_iff] at hstarts
  rcases hstarts with hwhole | hbody
  · exact absurd (by rw [Whole, hwhole, line_eq, lineEnd]) hnot
  · constructor
    · intro hmem
      exact lineEnd_not_mem_body publication.record (hbody.subset hmem)
    · intro hne
      obtain ⟨tail, htail⟩ := body_eq publication.record
      rw [htail] at hbody
      rcases List.prefix_cons_iff.mp hbody with hnil | ⟨rest, hrest, -⟩
      · exact absurd hnil hne
      · exact ⟨rest, hrest⟩

/-- A line that begins with what was left of another one is read as no record. -/
theorem readLine_behind {pending : List UInt8} (hpending : Pending pending) (hne : pending ≠ [])
    (record read : Record) : readLine (pending ++ body record) ≠ .ok read := by
  obtain ⟨tail, hbody⟩ := body_eq record
  obtain ⟨rest, rfl⟩ := hpending.starts hne
  have hascii : ∀ b ∈ (body record).head?, b.toNat < 0x80 := by
    intro b hb
    rw [hbody] at hb
    obtain rfl := Option.some.inj hb
    decide
  have hrecord : Text.decodeFrom none (body record) = record.json.toList := by
    have hdecode := Text.decodeFrom_utf8 record.json.toList []
    rw [List.append_nil] at hdecode
    rw [body, hdecode]
    simp [Text.decodeFrom]
  have hfront : Json.Place.start.run (Text.decodeFrom none (0x7b :: rest)) ≠ .start := by
    rw [Text.decodeFrom_ascii (by decide), Json.Place.run_cons]
    apply Json.Place.run_ne_start
    decide
  rw [readLine, Text.ofBytes, Text.decodeFrom_append_ascii _ _ hascii none (by simp), hrecord]
  exact record.ofJson_behind hfront read

theorem completeLines_whole {publication : Publication} (h : publication.Whole)
    {pending : List UInt8} (hpending : Pending pending) (rest : List UInt8) :
    completeLines (pending ++ (publication.left ++ rest)) =
      (pending ++ body publication.record) :: completeLines rest := by
  have hline : 10 ∉ pending ++ body publication.record := by
    rw [List.mem_append]
    exact fun hmem => hmem.elim hpending.unended (lineEnd_not_mem_body publication.record)
  rw [h, line_eq, ← List.append_assoc, ← List.append_assoc, List.append_assoc]
  exact completeLines_append hline rest

/-- Behind what is pending of a line, the ended lines are all read exactly when no whole line comes
behind that, nor behind a torn line. -/
theorem readable_iff (publications : List Publication) (records : List Record)
    (hsound : ∀ publication ∈ publications, publication.Sound)
    (hrecords : ∀ publication ∈ publications, publication.record ∈ records)
    {pending : List UInt8} (hpending : Pending pending) :
    (∀ bytes ∈ completeLines (pending ++ output publications),
        ∃ record ∈ records, readLine bytes = .ok record) ↔
      (pending ≠ [] → ∀ publication ∈ publications, ¬publication.Whole) ∧
        publications.Pairwise fun first second => first.Torn → ¬second.Whole := by
  induction publications generalizing pending with
  | nil => simp [output, completeLines_of_not_mem hpending.unended]
  | cons publication rest ih =>
      have ih := @ih (fun later hlater => hsound later (List.mem_cons_of_mem publication hlater))
        (fun later hlater => hrecords later (List.mem_cons_of_mem publication hlater))
      have hcons : output (publication :: rest) = publication.left ++ output rest := rfl
      rw [hcons, List.pairwise_cons]
      by_cases hwhole : publication.Whole
      · -- The line is ended: what was pending is part of it, and nothing is pending behind it.
        have hrest := ih pending_nil
        have hnever : ¬publication.Torn := fun htorn => htorn.2 hwhole
        rw [List.nil_append] at hrest
        rw [completeLines_whole hwhole hpending, List.forall_mem_cons, hrest]
        by_cases hne : pending = []
        · subst hne
          constructor
          · rintro ⟨-, -, hpairs⟩
            exact ⟨fun h => absurd rfl h, fun later _ htorn => absurd htorn hnever, hpairs⟩
          · rintro ⟨-, -, hpairs⟩
            refine ⟨⟨publication.record, hrecords publication List.mem_cons_self, ?_⟩,
              fun h => absurd rfl h, hpairs⟩
            rw [List.nil_append]
            exact readLine_body publication.record
        · constructor
          · rintro ⟨⟨read, -, hread⟩, -⟩
            exact absurd hread (readLine_behind hpending hne publication.record read)
          · rintro ⟨hnone, -⟩
            exact absurd hwhole (hnone hne publication List.mem_cons_self)
      · -- Nothing ends the line: what is left joins what was pending.
        have hleft := (hsound publication List.mem_cons_self).pending hwhole
        rw [← List.append_assoc, ih (hpending.append hleft)]
        constructor
        · rintro ⟨hnone, hpairs⟩
          refine ⟨?_, ?_, hpairs⟩
          · intro hne later hlater
            rcases List.mem_cons.mp hlater with rfl | hlater
            · exact hwhole
            · exact hnone (by simp [hne]) later hlater
          · intro later hlater htorn
            exact hnone (by simp [htorn.1]) later hlater
        · rintro ⟨hnone, htorn, hpairs⟩
          refine ⟨?_, hpairs⟩
          intro hne later hlater
          by_cases hnil : pending = []
          · have hleftNe : publication.left ≠ [] := by simpa [hnil] using hne
            exact htorn later hlater ⟨hleftNe, hwhole⟩
          · exact hnone hnil later (List.mem_cons_of_mem publication hlater)

theorem allReadable_iff (publications : List Publication)
    (hsound : ∀ publication ∈ publications, publication.Sound) :
    AllReadable publications ↔
      publications.Pairwise fun first second => first.Torn → ¬second.Whole := by
  have hrecords : ∀ publication ∈ publications,
      publication.record ∈ publications.map Publication.record :=
    fun publication hmem => List.mem_map_of_mem hmem
  have hiff := readable_iff publications _ hsound hrecords pending_nil
  have hmap : ∀ bytes, (∃ record ∈ publications.map Publication.record,
      readLine bytes = .ok record) ↔
        ∃ publication ∈ publications, readLine bytes = .ok publication.record := by
    intro bytes
    simp only [List.mem_map, exists_exists_and_eq_and]
  simpa only [AllReadable, hmap, ne_eq, not_true_eq_false, false_implies, true_and,
    List.nil_append] using hiff

/-- Lines with no torn one among them end at a line start. -/
theorem output_of_not_torn (publications : List Publication)
    (h : ∀ publication ∈ publications, ¬publication.Torn) :
    output publications = [] ∨ ∃ start, output publications = start ++ lineEnd := by
  induction publications with
  | nil => exact Or.inl rfl
  | cons publication rest ih =>
      have hcons : output (publication :: rest) = publication.left ++ output rest := rfl
      rw [hcons]
      rcases ih fun later hlater => h later (List.mem_cons_of_mem publication hlater) with
        hnil | ⟨start, hstart⟩
      · rw [hnil, List.append_nil]
        by_cases hleft : publication.left = []
        · exact Or.inl hleft
        · have hwhole : publication.Whole := by
            by_contra hnot
            exact h publication List.mem_cons_self ⟨hleft, hnot⟩
          exact Or.inr ⟨body publication.record, by rw [hwhole, line_eq]⟩
      · exact Or.inr ⟨publication.left ++ start, by rw [hstart, List.append_assoc]⟩

/-- A whole line with no torn one before it stands alone. -/
theorem allStandAlone (publications : List Publication)
    (hsound : ∀ publication ∈ publications, publication.Sound)
    (hpairs : publications.Pairwise fun first second => first.Torn → ¬second.Whole) :
    AllStandAlone publications := by
  intro before publication after heq
  subst heq
  rcases (hsound publication (by simp)).whole with hlost | hwhole
  · exact Or.inl hlost
  · refine Or.inr ⟨hwhole, output_of_not_torn before ?_⟩
    intro earlier hearlier htorn
    rw [List.pairwise_append] at hpairs
    exact hpairs.2.2 earlier hearlier publication List.mem_cons_self htorn hwhole

/-- Whatever the tape does, every record leaves a first part of its line, and the whole line unless
its loss is told.  The lines of the records that are not lost stand alone, and every ended line is
read as one of the records, exactly when no whole line comes behind a torn one. -/
theorem intact_iff (tape : Tape World) (records : List Record) (world : World) :
    let publications := (publishEach tape records world).1
    publications.map Publication.record = records ∧
      tape.bytes (publishEach tape records world).2 =
        tape.bytes world ++ output publications ∧
      (∀ publication ∈ publications, publication.Sound) ∧
      ((AllStandAlone publications ∧ AllReadable publications) ↔
        publications.Pairwise fun first second => first.Torn → ¬second.Whole) := by
  intro publications
  obtain ⟨hrecords, hbytes, hsound⟩ := publishEach_spec tape records world
  refine ⟨hrecords, hbytes, hsound, ?_⟩
  have hreadable := allReadable_iff publications hsound
  constructor
  · rintro ⟨-, hread⟩
    exact hreadable.mp hread
  · intro hpairs
    exact ⟨allStandAlone publications hsound hpairs, hreadable.mpr hpairs⟩

/-- A tape that raises a fault inside the line of the first record and takes all of the second. -/
def tornRun : List Publication :=
  (publishEach (Memory.bounded { faultOn := some "boom" })
    [Record.new ⟨0, 0⟩ 0 .info "n" "boom", Record.new ⟨0, 0⟩ 1 .info "n" "b"] ([], 0)).1

/-- The record behind a torn one is not lost, has no line of its own and is not read. -/
theorem tornRun_harmed : ¬AllStandAlone tornRun ∧ ¬AllReadable tornRun := by
  have hsound : ∀ publication ∈ tornRun, publication.Sound := (publishEach_spec _ _ _).2.2
  constructor
  · intro halone
    obtain ⟨first, second, htwo⟩ := List.length_eq_two.mp (rfl : tornRun.length = 2)
    have hlost : tornRun.map (fun publication => decide publication.Lost) = [true, false] := by
      decide +kernel
    have hlast : (output (tornRun.take 1)).getLast? = some 0x22 := by decide +kernel
    rw [htwo] at hlost hlast
    have hlast : (output [first]).getLast? = some 0x22 := hlast
    rcases halone [first] second [] htwo with hsecond | ⟨-, hnil | ⟨start, hstart⟩⟩
    · simp [hsecond] at hlost
    · simp [hnil] at hlast
    · simp [hstart, lineEnd] at hlast
  · rw [allReadable_iff _ hsound]
    decide +kernel

end Logbook.JsonLines

/-
The wire form of records.  What is written for a record has no control character.  A record comes
back from every form in which its structures may come: objects whose members stand in any order and
among unknown ones, and arrays of the fields.  So what is written reads back as that record, with
blanks around it or without.
-/
import Logbook.Proofs.Json.Forms
import Logbook.Proofs.Json.RoundTrip
import Logbook.Record.Wire

namespace Logbook

open Json

theorem Stamp.proper_toJson (stamp : Stamp) : stamp.toJson.Proper :=
  ⟨NumberText.proper_ofInt _, NumberText.proper_ofInt _, trivial⟩

theorem Header.proper_toJson (header : Header) : header.toJson.Proper :=
  ⟨header.stamp.proper_toJson, NumberText.proper_ofInt _, trivial, trivial⟩

theorem Record.proper_toJson (record : Record) : record.toJson.Proper :=
  ⟨record.header.proper_toJson, NumberText.proper_ofInt _, trivial, trivial, trivial⟩

/-- No record is written with a control character. -/
theorem Record.printed_json (record : Record) : Printed record.json.toList := by
  have hprinted := record.toJson.printed_pieces record.proper_toJson
  rwa [Record.json, Value.text, String.toList_ofList]

theorem Json.Reader.text_ofString (s : String) :
    Reader.text (Value.ofString s).tree = .ok s := by
  simp [Value.ofString, Value.tree, Reader.text, Except.map]

theorem Stamp.strict_shape : Stamp.shape.Strict where
  apart := by
    simp only [Stamp.shape, List.pairwise_cons, List.forall_mem_cons, List.not_mem_nil,
      false_imp_iff, implies_true, List.Pairwise.nil, and_true]
    exact Field.apart_of (by decide) _ _ (fun _ _ => rfl) (fun _ _ => rfl) fun _ _ _ => rfl
  unset := by simp [Stamp.shape, Field.of]
  sets := by
    simp only [Stamp.shape, List.forall_mem_cons, List.not_mem_nil, false_imp_iff, implies_true,
      and_true]
    and_intros <;> exact Field.sets_of _ _ fun _ _ => rfl
  complete := by
    intro absence parts value h
    obtain ⟨_ | sec, _ | usec⟩ := parts <;> simp_all [Stamp.shape, Field.of]

theorem Header.strict_shape : Header.shape.Strict where
  apart := by
    simp only [Header.shape, List.pairwise_cons, List.forall_mem_cons, List.not_mem_nil,
      false_imp_iff, implies_true, List.Pairwise.nil, and_true]
    and_intros <;> exact Field.apart_of (by decide) _ _ (fun _ _ => rfl) (fun _ _ => rfl)
      fun _ _ _ => rfl
  unset := by simp [Header.shape, Field.of]
  sets := by
    simp only [Header.shape, List.forall_mem_cons, List.not_mem_nil, false_imp_iff, implies_true,
      and_true]
    and_intros <;> exact Field.sets_of _ _ fun _ _ => rfl
  complete := by
    intro absence parts value h
    obtain ⟨_ | stamp, _ | seq, _ | frameId⟩ := parts <;> simp_all [Header.shape, Field.of]

theorem Record.strict_shape : Record.shape.Strict where
  apart := by
    simp only [Record.shape, List.pairwise_cons, List.forall_mem_cons, List.not_mem_nil,
      false_imp_iff, implies_true, List.Pairwise.nil, and_true]
    and_intros <;> exact Field.apart_of (by decide) _ _ (fun _ _ => rfl) (fun _ _ => rfl)
      fun _ _ _ => rfl
  unset := by simp [Record.shape, Field.of]
  sets := by
    simp only [Record.shape, List.forall_mem_cons, List.not_mem_nil, false_imp_iff, implies_true,
      and_true]
    and_intros <;> exact Field.sets_of _ _ fun _ _ => rfl
  complete := by
    intro absence parts value h
    obtain ⟨_ | header, _ | level, _ | nodeName, _ | message⟩ := parts <;>
      simp_all [Record.shape, Field.of]

/-- The one tree of a value. -/
def Json.Value.form (value : Value) : Form :=
  fun tree => tree = value.tree

/-- The trees in which a stamp may come. -/
def Stamp.Presented (stamp : Stamp) : Form :=
  Json.Presented [("sec", (Value.ofInt stamp.sec.toInt).form),
    ("usec", (Value.ofInt stamp.usec.toNat).form)]

/-- The trees in which a header may come. -/
def Header.Presented (header : Header) : Form :=
  Json.Presented [("stamp", header.stamp.Presented), ("seq", (Value.ofInt header.seq.toNat).form),
    ("frame_id", (Value.ofString header.frameId).form)]

/-- The trees in which a record may come. -/
def Record.Presented (record : Record) : Form :=
  Json.Presented [("header", record.header.Presented),
    ("level", (Value.ofInt record.level.ordinal).form),
    ("node_name", (Value.ofString record.nodeName).form),
    ("message", (Value.ofString record.message).form)]

/-- A stamp comes back in whatever form it comes. -/
theorem Stamp.read_presented {stamp : Stamp} {tree : Tree} (h : stamp.Presented tree)
    (hwhole : tree.Whole) : Stamp.shape.read tree = .ok stamp := by
  have hsec := Reader.long_ofInt stamp.sec
  have husec := Reader.word_ofInt stamp.usec
  refine Stamp.strict_shape.read_presented rfl ⟨some stamp.sec, some stamp.usec⟩ ?_
    (fun _ => rfl) h hwhole
  rintro values hvalues -
  rcases hvalues with _ | ⟨rfl, _ | ⟨rfl, _ | _⟩⟩
  simp [Shape.takeItems, Stamp.shape, Field.of, Value.ofInt, Value.tree, hsec, husec, bind,
    Except.bind, Except.map]

/-- A header comes back in whatever form it comes. -/
theorem Header.read_presented {header : Header} {tree : Tree} (h : header.Presented tree)
    (hwhole : tree.Whole) : Header.shape.read tree = .ok header := by
  have hseq := Reader.word_ofInt header.seq
  have hframe := Reader.text_ofString header.frameId
  refine Header.strict_shape.read_presented rfl
    ⟨some header.stamp, some header.seq, some header.frameId⟩ ?_ (fun _ => rfl) h hwhole
  intro values hvalues hwhole
  rcases hvalues with _ | ⟨hpresented, _ | ⟨rfl, _ | ⟨rfl, _ | _⟩⟩⟩
  have hstamp := Stamp.read_presented hpresented hwhole.1
  simp [Shape.takeItems, Header.shape, Field.of, Value.ofInt, Value.tree, hstamp, hseq, hframe,
    bind, Except.bind, Except.map]

/-- A record comes back in whatever form it comes. -/
theorem Record.read_presented {record : Record} {tree : Tree} (h : record.Presented tree)
    (hwhole : tree.Whole) : Record.shape.read tree = .ok record := by
  have hlevel := Reader.levelOrdinal_ofInt record.level
  have hnode := Reader.text_ofString record.nodeName
  have hmessage := Reader.text_ofString record.message
  refine Record.strict_shape.read_presented rfl
    ⟨some record.header, some record.level, some record.nodeName, some record.message⟩ ?_
    (fun _ => rfl) h hwhole
  intro values hvalues hwhole
  rcases hvalues with _ | ⟨hpresented, _ | ⟨rfl, _ | ⟨rfl, _ | ⟨rfl, _ | _⟩⟩⟩⟩
  have hheader := Header.read_presented hpresented hwhole.1
  simp [Shape.takeItems, Record.shape, Field.of, Value.ofInt, Value.tree, hheader, hlevel, hnode,
    hmessage, bind, Except.bind, Except.map]

theorem Stamp.presented_toJson (stamp : Stamp) : stamp.Presented stamp.toJson.tree :=
  Presented.plain [(Value.ofInt stamp.sec.toInt).tree, (Value.ofInt stamp.usec.toNat).tree]
    (.cons rfl (.cons rfl .nil))

theorem Header.presented_toJson (header : Header) : header.Presented header.toJson.tree :=
  Presented.plain [header.stamp.toJson.tree, (Value.ofInt header.seq.toNat).tree,
    (Value.ofString header.frameId).tree]
    (.cons header.stamp.presented_toJson (.cons rfl (.cons rfl .nil)))

theorem Record.presented_toJson (record : Record) : record.Presented record.toJson.tree :=
  Presented.plain [record.header.toJson.tree, (Value.ofInt record.level.ordinal).tree,
    (Value.ofString record.nodeName).tree, (Value.ofString record.message).tree]
    (.cons record.header.presented_toJson (.cons rfl (.cons rfl (.cons rfl .nil))))

/-- The text that is written for a record is a writing of its members, also between blanks. -/
theorem Record.writes_json (record : Record) {before after : List Char} (hbefore : Blank before)
    (hafter : Blank after) :
    record.toJson.tree.Writes (String.ofList before ++ record.json ++ String.ofList after) :=
  Value.writes record.proper_toJson hbefore hafter

theorem Record.ofJson_writes {tree : Tree} {text : String} (h : tree.Writes text) :
    Record.ofJson text = Record.shape.read tree := by
  rw [Record.ofJson, Reader.ofText, h.ofText]
  exact bind_pure _

/-- A written record between blanks reads back as that record. -/
theorem Record.ofJson_json (record : Record) {before after : List Char}
    (hbefore : ∀ c ∈ before, isSpace c = true) (hafter : ∀ c ∈ after, isSpace c = true) :
    Record.ofJson (String.ofList before ++ record.json ++ String.ofList after) = .ok record := by
  have hwrites := record.writes_json hbefore hafter
  rw [Record.ofJson_writes hwrites]
  exact Record.read_presented record.presented_toJson hwrites.whole

end Logbook

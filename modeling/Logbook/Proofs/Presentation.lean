/-
The texts in which a record may come.  Blanks may stand between all tokens, and each of its three
structures may be an object or an array.  All these texts read as the record.  A structure in which
a field is missing or comes twice, and a level that is none, are refused wherever they stand.
-/
import Logbook.Proofs.RecordWire

namespace Logbook

open Json

/-- The trees of whole numbers that are no levels. -/
def Level.Marred : Form :=
  fun tree => ∃ i : Int, (i < 0 ∨ 4 < i) ∧ tree = (Value.ofInt i).tree

/-- The trees in which a field of a stamp is missing or comes twice. -/
def Stamp.Marred : Form :=
  Json.Marred ["sec", "usec"] []

/-- The trees in which a field of a header or of its stamp is missing or comes twice. -/
def Header.Marred : Form :=
  Json.Marred ["stamp", "seq", "frame_id"] [("stamp", Stamp.Marred)]

/-- The trees in which a field of a record, of its header or of its stamp is missing or comes
twice, or the level is none. -/
def Record.Marred : Form :=
  Json.Marred ["header", "level", "node_name", "message"]
    [("header", Header.Marred), ("level", Level.Marred)]

theorem Stamp.refuses_marred {tree : Tree} (h : Stamp.Marred tree) (stamp : Stamp) :
    Stamp.shape.read tree ≠ .ok stamp :=
  Stamp.strict_shape.refuses_marred (by simp) h stamp

theorem Header.refuses_marred {tree : Tree} (h : Header.Marred tree) (header : Header) :
    Header.shape.read tree ≠ .ok header := by
  refine Header.strict_shape.refuses_marred ?_ h header
  simp only [List.forall_mem_cons, List.not_mem_nil, false_imp_iff, implies_true, and_true]
  exact ⟨_, .head _, rfl, fun tree hstamp => Field.refuses_of _ _ _ (Stamp.refuses_marred hstamp)⟩

theorem Record.refuses_marred {tree : Tree} (h : Record.Marred tree) (record : Record) :
    Record.shape.read tree ≠ .ok record := by
  refine Record.strict_shape.refuses_marred ?_ h record
  simp only [List.forall_mem_cons, List.not_mem_nil, false_imp_iff, implies_true, and_true]
  constructor
  · exact ⟨_, .head _, rfl, fun tree hheader =>
      Field.refuses_of _ _ _ (Header.refuses_marred hheader)⟩
  · refine ⟨_, .tail _ (.head _), rfl, fun tree hlevel => Field.refuses_of _ _ _ ?_⟩
    obtain ⟨i, hi, rfl⟩ := hlevel
    exact Reader.levelOrdinal_ofInt_ne_ok hi

/-- The text written for a record is one of those in which it may come; every such text reads as
that record, and every text in which something is missing, comes twice or is no level is refused. -/
theorem Record.presentations (record : Record) :
    (∃ tree, record.Presented tree ∧ tree.Writes record.json) ∧
      (∀ tree text, record.Presented tree → tree.Writes text → Record.ofJson text = .ok record) ∧
      ∀ tree text, Record.Marred tree → tree.Writes text →
        ∃ problem, Record.ofJson text = .error problem := by
  refine ⟨?_, ?_, ?_⟩
  · have hwrites := record.writes_json blank_nil blank_nil
    exact ⟨_, record.presented_toJson, by simpa using hwrites⟩
  · intro tree text hpresented hwrites
    rw [Record.ofJson_writes hwrites]
    exact Record.read_presented hpresented hwrites.whole
  · intro tree text hmarred hwrites
    rw [Record.ofJson_writes hwrites]
    cases hread : Record.shape.read tree with
    | error problem => exact ⟨problem, rfl⟩
    | ok value => exact absurd hread (Record.refuses_marred hmarred value)

/-- Members in another order and among an unknown one, with a header that is an array. -/
example : Record.ofJson ("\x7b\"later\": [null, \x7b\x7d],\"message\":\"x\\n\\u0001é\"," ++
    " \"level\":3, \n\"node_name\":\"a\\u0022b\"," ++
    "\"header\":[[-1, 5], 4294967295,\"a\\\"b\"]\x7d") = .ok WireWitness.sample := by cbv

end Logbook

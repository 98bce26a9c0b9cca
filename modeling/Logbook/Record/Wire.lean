/-
The wire form of records: a JSON object of the header, the ordinal of the level, the node and the
message.  Main definitions: `Record.pieces`, the text in the pieces in which it is written, and
`Record.ofJson`, which reads it back.
-/
import Logbook.Json.Shape
import Logbook.Json.Value
import Logbook.Record

namespace Logbook

open Json

namespace Stamp

def toJson (stamp : Stamp) : Value :=
  .ofMembers [("sec", .ofInt stamp.sec.toInt), ("usec", .ofInt stamp.usec.toNat)]

/-- The fields of a stamp, as far as they are known. -/
structure Parts where
  sec : Option Int64 := none
  usec : Option UInt32 := none

def shape : Shape Parts Stamp where
  name := "Stamp"
  empty := {}
  fields := [
    .of "sec" Parts.sec (fun parts sec => { parts with sec }) Reader.long,
    .of "usec" Parts.usec (fun parts usec => { parts with usec }) Reader.word]
  build absent parts := do
    let some sec := parts.sec | .error (absent 0 "sec")
    let some usec := parts.usec | .error (absent 1 "usec")
    return ⟨sec, usec⟩

end Stamp

namespace Header

def toJson (header : Header) : Value :=
  .ofMembers [("stamp", header.stamp.toJson), ("seq", .ofInt header.seq.toNat),
    ("frame_id", .ofString header.frameId)]

/-- The fields of a header, as far as they are known. -/
structure Parts where
  stamp : Option Stamp := none
  seq : Option UInt32 := none
  frameId : Option String := none

def shape : Shape Parts Header where
  name := "RecordHeader"
  empty := {}
  fields := [
    .of "stamp" Parts.stamp (fun parts stamp => { parts with stamp }) Stamp.shape.read,
    .of "seq" Parts.seq (fun parts seq => { parts with seq }) Reader.word,
    .of "frame_id" Parts.frameId (fun parts frameId => { parts with frameId }) Reader.text]
  build absent parts := do
    let some stamp := parts.stamp | .error (absent 0 "stamp")
    let some seq := parts.seq | .error (absent 1 "seq")
    let some frameId := parts.frameId | .error (absent 2 "frame_id")
    return ⟨stamp, seq, frameId⟩

end Header

namespace Record

def toJson (record : Record) : Value :=
  .ofMembers [("header", record.header.toJson), ("level", .ofInt record.level.ordinal),
    ("node_name", .ofString record.nodeName), ("message", .ofString record.message)]

/-- The text of a record in the pieces in which it is written. -/
def pieces (record : Record) : List (List Char) :=
  record.toJson.pieces

def json (record : Record) : String :=
  record.toJson.text

/-- The fields of a record, as far as they are known. -/
structure Parts where
  header : Option Header := none
  level : Option Level := none
  nodeName : Option String := none
  message : Option String := none

def shape : Shape Parts Record where
  name := "LogRecord"
  empty := {}
  fields := [
    .of "header" Parts.header (fun parts header => { parts with header }) Header.shape.read,
    .of "level" Parts.level (fun parts level => { parts with level }) Reader.levelOrdinal,
    .of "node_name" Parts.nodeName (fun parts nodeName => { parts with nodeName }) Reader.text,
    .of "message" Parts.message (fun parts message => { parts with message }) Reader.text]
  build absent parts := do
    let some header := parts.header | .error (absent 0 "header")
    let some level := parts.level | .error (absent 1 "level")
    let some nodeName := parts.nodeName | .error (absent 2 "node_name")
    let some message := parts.message | .error (absent 3 "message")
    return ⟨header, level, nodeName, message⟩

def ofJson (text : String) : Except Json.Error Record :=
  Reader.ofText shape.read text

end Record

namespace WireWitness

/-- A record whose texts need escapes. -/
def sample : Record :=
  Record.new ⟨-1, 5⟩ 4294967295 .error "a\"b" "x\n\x01é"

example : sample.json = "\x7b\"header\":\x7b\"stamp\":\x7b\"sec\":-1,\"usec\":5\x7d," ++
    "\"seq\":4294967295,\"frame_id\":\"a\\\"b\"\x7d,\"level\":3,\"node_name\":\"a\\\"b\"," ++
    "\"message\":\"x\\n\\u0001é\"\x7d" := by decide +kernel

example : Record.ofJson sample.json = .ok sample := by cbv

end WireWitness

end Logbook

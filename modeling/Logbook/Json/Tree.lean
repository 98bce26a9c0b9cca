/-
JSON trees.  A text is read as far as it is JSON, and the tree holds all that could be read: where
the text went wrong, the containers still open end with the problem.  So a reader of the tree
meets a wrong value and a broken text in the order in which they stand in the text.

The tree is built by one step for each token.  The state holds the open containers, innermost
first, so deep nesting needs no deep recursion.
-/
import Logbook.Json.Token

namespace Logbook.Json

/-- How a container ends.  A broken end remembers whether a comma was just read. -/
inductive Ending where
  | closed
  | broken (problem : Problem) (afterComma : Bool)
  deriving DecidableEq, Repr

/-- What could be read of a value. -/
inductive Tree where
  | null
  | boolean (b : Bool)
  | number (n : NumberText)
  | string (s : StringText)
  | array (items : List Tree) (ending : Ending)
  | object (members : List (StringText × Tree)) (ending : Ending)
  | broken (problem : Problem)

/-- The containers around a place where a value is due, with what they hold so far, last first. -/
inductive Context where
  | root
  | item (before : List Tree) (outer : Context)
  | member (before : List (StringText × Tree)) (key : StringText) (outer : Context)

/-- What may come next. -/
inductive Reading where
  /-- A value. -/
  | value (context : Context)
  /-- The first item of an array, or its end. -/
  | firstItem (outer : Context)
  /-- A comma, or the end of an array. -/
  | afterItem (items : List Tree) (outer : Context)
  /-- The first key of an object, or its end. -/
  | firstKey (outer : Context)
  /-- A key. -/
  | nextKey (members : List (StringText × Tree)) (outer : Context)
  /-- A colon. -/
  | colon (members : List (StringText × Tree)) (key : StringText) (outer : Context)
  /-- A comma, or the end of an object. -/
  | afterMember (members : List (StringText × Tree)) (outer : Context)
  /-- Nothing: the value is read. -/
  | complete (tree : Tree)
  /-- Anything: more than a value was read. -/
  | surplus (tree : Tree)
  /-- Anything: the text was no JSON. -/
  | failed (tree : Tree)

namespace Context

def put (tree : Tree) : Context → Reading
  | .root => .complete tree
  | .item before outer => .afterItem (tree :: before) outer
  | .member before key outer => .afterMember ((key, tree) :: before) outer

/-- Closes all containers at a problem, with what is left of a value in its place. -/
def abandon (problem : Problem) (tree : Tree) : Context → Tree
  | .root => tree
  | .item before outer =>
      outer.abandon problem (.array (tree :: before).reverse (.broken problem false))
  | .member before key outer =>
      outer.abandon problem (.object ((key, tree) :: before).reverse (.broken problem false))

/-- Closes all containers at a problem that stands in the place of a value. -/
def abandonValue (problem : Problem) : Context → Tree
  | .root => .broken problem
  | .item before outer =>
      outer.abandon problem (.array before.reverse (.broken problem (!before.isEmpty)))
  | .member before key outer =>
      outer.abandon problem
        (.object ((key, .broken problem) :: before).reverse (.broken problem false))

end Context

namespace Reading

/-- What was read when a problem stands next. -/
def abandon (problem : Problem) : Reading → Tree
  | .value context => context.abandonValue problem
  | .firstItem outer => outer.abandon problem (.array [] (.broken problem false))
  | .afterItem items outer =>
      outer.abandon problem (.array items.reverse (.broken problem false))
  | .firstKey outer => outer.abandon problem (.object [] (.broken problem false))
  | .nextKey members outer =>
      outer.abandon problem (.object members.reverse (.broken problem true))
  | .colon members key outer =>
      outer.abandon problem
        (.object ((key, .broken problem) :: members).reverse (.broken problem false))
  | .afterMember members outer =>
      outer.abandon problem (.object members.reverse (.broken problem false))
  | .complete tree => tree
  | .surplus tree => tree
  | .failed tree => tree

/-- Takes a token where a value is due. -/
def stepValue (context : Context) : Token → Reading
  | .null => context.put .null
  | .boolean b => context.put (.boolean b)
  | .number n => context.put (.number n)
  | .string s => context.put (.string s)
  | .openArray => .firstItem context
  | .openObject => .firstKey context
  | .closeArray => .failed (context.abandonValue .malformed)
  | .closeObject => .failed (context.abandonValue .malformed)
  | .comma => .failed (context.abandonValue .malformed)
  | .colon => .failed (context.abandonValue .malformed)

def step (reading : Reading) (token : Token) : Reading :=
  match reading, token with
  | .value context, token => stepValue context token
  | .firstItem outer, .closeArray => outer.put (.array [] .closed)
  | .firstItem outer, token => stepValue (.item [] outer) token
  | .afterItem items outer, .closeArray => outer.put (.array items.reverse .closed)
  | .afterItem items outer, .comma => .value (.item items outer)
  | .firstKey outer, .closeObject => outer.put (.object [] .closed)
  | .firstKey outer, .string key => .colon [] key outer
  | .nextKey members outer, .string key => .colon members key outer
  | .colon members key outer, .colon => .value (.member members key outer)
  | .afterMember members outer, .closeObject => outer.put (.object members.reverse .closed)
  | .afterMember members outer, .comma => .nextKey members outer
  | .complete tree, _ => .surplus tree
  | .surplus tree, _ => .surplus tree
  | .failed tree, _ => .failed tree
  | reading, _ => .failed (reading.abandon .malformed)

/-- The problem that a stop is in this place.  Only the first character counts where no value
and no key may stand. -/
def problemAt (reading : Reading) (stop : Stop) : Problem :=
  match reading with
  | .value _ => stop.problem
  | .firstItem _ => stop.problem
  | .firstKey _ => if stop.quoted then stop.problem else .malformed
  | .nextKey _ _ => if stop.quoted then stop.problem else .malformed
  | _ => .malformed

end Reading

/-- A text that was read: its value, and whether anything follows it. -/
structure Document where
  root : Tree
  surplus : Bool

/-- What was read when the tokens end. -/
def Reading.finish (reading : Reading) (stop : Option Stop) : Document :=
  match reading, stop with
  | .complete tree, none => ⟨tree, false⟩
  | .complete tree, some _ => ⟨tree, true⟩
  | .surplus tree, _ => ⟨tree, true⟩
  | reading, none => ⟨reading.abandon .cutShort, false⟩
  | reading, some stop => ⟨reading.abandon (reading.problemAt stop), false⟩

/-- Reads a text as far as it is JSON. -/
def Document.ofText (text : String) : Document :=
  let tokens := lex text.toList
  (tokens.list.foldl Reading.step (.value .root)).finish tokens.stop

namespace Tree

mutual

/-- Passes over a value that nobody reads.  It must be JSON, but its numbers may be too great
and its strings may hold halves of surrogate pairs. -/
def skip : Tree → Except Error Unit
  | .array items ending => do
      skipItems items
      skipEnding ending
  | .object members ending => do
      skipMembers members
      skipEnding ending
  | .broken problem => .error problem.skipped
  | _ => .ok ()

/-- Passes over the end of a container. -/
def skipEnding : Ending → Except Error Unit
  | .closed => .ok ()
  | .broken problem _ => .error problem.skipped

def skipItems : List Tree → Except Error Unit
  | [] => .ok ()
  | tree :: rest => do
      skip tree
      skipItems rest

/-- Passes over members and their keys. -/
def skipMembers : List (StringText × Tree) → Except Error Unit
  | [] => .ok ()
  | (_, tree) :: rest => do
      skip tree
      skipMembers rest

end

/-- What a value is, for a reader that expected something else. -/
def found : Tree → Except Error Found
  | .null => .ok .null
  | .boolean b => .ok (.boolean b)
  | .number n => n.value.map .number
  | .string s => s.map fun s => .string (String.ofList s)
  | .array _ _ => .ok .sequence
  | .object _ _ => .ok .map
  | .broken problem => .error problem.read

end Tree

end Logbook.Json

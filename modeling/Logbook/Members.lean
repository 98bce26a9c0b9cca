/-
Members of tables and objects: values under keys, in the order in which the keys came.  Main
statement: `get?_put`, a written member is read back and the others stay.
-/
namespace Logbook

abbrev Members (α : Type) := List (String × α)

namespace Members

variable {α : Type}

/-- The value under a key. -/
def get? (members : Members α) (key : String) : Option α :=
  match members with
  | [] => none
  | (k, value) :: rest => if k = key then some value else get? rest key

/-- The members with another value under a key.  A known key keeps its place, a new one comes
last. -/
def put (members : Members α) (key : String) (value : α) : Members α :=
  match members with
  | [] => [(key, value)]
  | (k, v) :: rest => if k = key then (k, value) :: rest else (k, v) :: put rest key value

theorem get?_put (members : Members α) (key other : String) (value : α) :
    (members.put key value).get? other = if key = other then some value else members.get? other := by
  induction members with
  | nil => simp [put, get?]
  | cons head rest ih =>
      obtain ⟨k, v⟩ := head
      unfold put
      split
      · rename_i hk
        subst hk
        simp only [get?]
        split <;> simp_all
      · rename_i hk
        simp only [get?, ih]
        split
        · rename_i hother
          subst hother
          simp [Ne.symm hk]
        · rfl

/-- Members written one after the other, so that of several with one key the last counts. -/
def ofList (list : List (String × α)) : Members α :=
  list.foldl (fun members member => members.put member.1 member.2) []

end Members

end Logbook

/-
The lines of an input.  A line feed ends a line, the last line may lack it, and one carriage return
right before a line feed goes with it.  The command takes its input byte by byte, so it does not
matter how the input is cut into chunks, and what it does is to take one line after the other.  Since
a byte of ASCII is never a part of another character, an input is a text exactly when all its lines
are.  Main statements: `serve_chunks`, `takeInput_append` and `isText_iff_forall_inputLines`.
-/
import Logbook.Command
import Logbook.Proofs.Utf8

namespace Logbook

namespace Command

open Text

/-- The bytes of a line that a line feed ends, without a carriage return before that. -/
def dropReturn (line : List UInt8) : List UInt8 :=
  if line.getLast? = some 13 then line.dropLast else line

/-- The lines of an input, cut at its line feeds.  Behind the last line feed there is a line only
when there is something. -/
def inputLines (input : List UInt8) : List (List UInt8) :=
  let pieces := input.splitOn 10
  pieces.dropLast.map dropReturn ++ (pieces.getLast?.filter (· ≠ [])).toList

theorem inputLines_append {line : List UInt8} (h : 10 ∉ line) (rest : List UInt8) :
    inputLines (line ++ 10 :: rest) = dropReturn line :: inputLines rest := by
  have hne := List.splitOn_ne_nil 10 rest
  rw [inputLines, List.splitOn_append_cons_self_of_not_mem h, List.dropLast_cons_of_ne_nil hne,
    List.getLast?_cons_of_ne_nil hne]
  rfl

theorem inputLines_of_not_mem {line : List UInt8} (h : 10 ∉ line) :
    inputLines line = if line = [] then [] else [line] := by
  rw [inputLines, List.splitOn_eq_singleton h]
  by_cases hline : line = [] <;> simp [hline]

theorem trimLineEnd_append (line : List UInt8) :
    trimLineEnd (line ++ [10]) = dropReturn line := by
  rcases List.eq_nil_or_concat line with rfl | ⟨front, b, rfl⟩
  · rfl
  · by_cases hb : b = 13 <;> simp [trimLineEnd, dropReturn, hb]

theorem trimLineEnd_of_not_mem {line : List UInt8} (h : 10 ∉ line) :
    trimLineEnd line = line := by
  rcases List.eq_nil_or_concat line with rfl | ⟨front, b, rfl⟩
  · rfl
  · have hb : b ≠ 10 := fun hsame => h (by simp [hsame])
    simp [trimLineEnd, hb]

/-- An input is gone through line by line. -/
theorem line_induction {motive : List UInt8 → Prop}
    (last : ∀ line, 10 ∉ line → motive line)
    (more : ∀ line rest, 10 ∉ line → motive rest → motive (line ++ 10 :: rest))
    (input : List UInt8) : motive input := by
  induction hlength : input.length using Nat.strongRecOn generalizing input with
  | ind length ih =>
      by_cases hmem : 10 ∈ input
      · obtain ⟨line, rest, rfl, hline⟩ := List.eq_append_cons_of_mem hmem
        refine more line rest hline (ih rest.length ?_ rest rfl)
        simp only [List.length_append, List.length_cons] at hlength
        omega
      · exact last input hmem

section Bytes

variable {m : Type → Type} [Monad m] [LawfulMonad m] (host : Host m) (run : Run)

/-- Takes a whole input. -/
def Run.takeInput (input : List UInt8) : ExceptT Failure m Run := do
  let reading ← input.foldlM (Reading.takeByte host) { run }
  reading.takeRest host

/-- It does not matter where the chunks of an input end. -/
theorem serve_chunks (chunks : List (List UInt8)) :
    run.serve host chunks = run.takeInput host chunks.flatten := by
  have hfold : ∀ reading : Reading,
      chunks.foldlM (fun reading chunk => chunk.foldlM (Reading.takeByte host) reading) reading =
        chunks.flatten.foldlM (Reading.takeByte host) reading := by
    induction chunks with
    | nil => exact fun reading => rfl
    | cons chunk rest ih =>
        intro reading
        rw [List.foldlM_cons, List.flatten_cons, List.foldlM_append]
        exact bind_congr fun middle => ih middle
  simp only [Run.serve, Run.takeInput, ← hfold]
  simp

/-- The bytes of a line that no line feed ends wait for the rest of the line. -/
theorem foldlM_takeByte {line : List UInt8} (h : 10 ∉ line) (reading : Reading) :
    line.foldlM (Reading.takeByte host) reading =
      pure { reading with line := line.reverse ++ reading.line } := by
  induction line generalizing reading with
  | nil => rfl
  | cons b line ih =>
      obtain ⟨hb, hline⟩ : b ≠ 10 ∧ 10 ∉ line := by
        simpa [eq_comm] using h
      rw [List.foldlM_cons, Reading.takeByte, if_neg hb, pure_bind, ih hline]
      simp

theorem takeInput_of_not_mem {line : List UInt8} (h : 10 ∉ line) :
    run.takeInput host line = if line = [] then pure run else run.takeLine host line := by
  rw [Run.takeInput, foldlM_takeByte host h, pure_bind, Reading.takeRest]
  cases line <;> simp

/-- A line feed has the line before it taken. -/
theorem takeInput_append {line : List UInt8} (h : 10 ∉ line) (rest : List UInt8) :
    run.takeInput host (line ++ 10 :: rest) =
      run.takeLine host (line ++ [10]) >>= fun run => run.takeInput host rest := by
  rw [Run.takeInput, List.foldlM_append, foldlM_takeByte host h, pure_bind, List.foldlM_cons,
    Reading.takeByte, if_pos rfl]
  simp [Run.takeInput]

end Bytes

theorem isText_dropReturn (line : List UInt8) : IsText (dropReturn line) ↔ IsText line := by
  rcases List.eq_nil_or_concat line with rfl | ⟨front, b, rfl⟩
  · rfl
  · by_cases hb : b = 13
    · have hcut := isText_append_cons (b := 13) (by decide) front []
      have hnil : IsText [] := ⟨"", rfl⟩
      simpa [dropReturn, hb, hnil] using hcut.symm
    · simp [dropReturn, hb]

/-- An input is a text exactly when every line of it is. -/
theorem isText_iff_forall_inputLines (input : List UInt8) :
    IsText input ↔ ∀ line ∈ inputLines input, IsText line := by
  induction input using line_induction with
  | last line h =>
      rw [inputLines_of_not_mem h]
      by_cases hline : line = []
      · have hnil : IsText [] := ⟨"", rfl⟩
        simp [hline, hnil]
      · simp [hline]
  | more line rest h ih =>
      rw [inputLines_append h, isText_append_cons (by decide), ih]
      simp [isText_dropReturn]

/-- The text of some bytes is the one with these bytes. -/
theorem text?_eq_some_iff {bytes : List UInt8} {s : String} :
    text? bytes = some s ↔ utf8 s.toList = bytes := by
  have hs : s.toByteArray.data.toList = utf8 s.toList := by
    conv_lhs => rw [← String.ofList_toList (s := s)]
    rw [String.toByteArray_ofList]
    simp [List.utf8Encode, utf8]
  unfold text? String.fromUTF8?
  constructor
  · intro h
    split at h
    · obtain rfl := Option.some.inj h
      rw [← hs]
      rfl
    · simp at h
  · intro h
    have hbytes : (⟨bytes.toArray⟩ : ByteArray) = s.toByteArray := by
      rw [← h, ← hs]
    simp only [hbytes, s.isValidUTF8, dif_pos]
    rfl

theorem isSome_text? (bytes : List UInt8) : (text? bytes).isSome ↔ IsText bytes := by
  rw [Option.isSome_iff_exists]
  exact exists_congr fun _ => text?_eq_some_iff

end Command

namespace InputWitness

/-- Of two carriage returns the first one stays, and so does one that no line feed follows. -/
example : Command.inputLines [97, 13, 13, 10, 10, 98, 13] = [[97, 13], [], [98, 13]] := by
  decide

end InputWitness

end Logbook

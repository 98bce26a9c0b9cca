/-
Texts as bytes.  Writers take bytes and may stop inside a character, so what they hold is shown
with every broken character replaced: each longest part that starts a character without ending
it, and each byte that starts none, becomes one replacement mark.
-/
namespace Logbook.Text

def utf8 (s : List Char) : List UInt8 :=
  s.flatMap String.utf8EncodeChar

/-- The bytes that may stand second in a character with a given first byte.  The ranges leave out
overlong forms, surrogates and numbers beyond the last character. -/
def secondRange (first : Nat) : Nat × Nat :=
  if first = 0xe0 then (0xa0, 0xbf)
  else if first = 0xed then (0x80, 0x9f)
  else if first = 0xf0 then (0x90, 0xbf)
  else if first = 0xf4 then (0x80, 0x8f)
  else (0x80, 0xbf)

/-- The number of bytes in a character with a given first byte, if it can be a first byte. -/
def widthOfFirst? (first : Nat) : Option Nat :=
  if first < 0x80 then some 1
  else if 0xc2 ≤ first ∧ first ≤ 0xdf then some 2
  else if 0xe0 ≤ first ∧ first ≤ 0xef then some 3
  else if 0xf0 ≤ first ∧ first ≤ 0xf4 then some 4
  else none

/-- The bits of a first byte that belong to the number of its character. -/
def firstBits (width first : Nat) : Nat :=
  match width with
  | 1 => first
  | 2 => first % 0x20
  | 3 => first % 0x10
  | _ => first % 0x8

/-- A character that is read up to some byte. -/
structure PartialChar where
  /-- The number its bytes make so far. -/
  value : Nat
  /-- The number of bytes that are missing. -/
  missing : Nat
  /-- What the next byte may be. -/
  next : Nat × Nat

/-- What stands for a broken character. -/
def replacement : Char := '\ufffd'

/-- Takes a byte as the first of a character. -/
def decodeStart (b : UInt8) : List Char × Option PartialChar :=
  let n := b.toNat
  match widthOfFirst? n with
  | none => ([replacement], none)
  | some 1 => ([Char.ofNat n], none)
  | some width => ([], some ⟨firstBits width n, width - 1, secondRange n⟩)

/-- Takes a byte: the characters that it completes, and the character it leaves unfinished.  A
byte that does not continue the character before it is looked at again as a first byte. -/
def decodeStep (pending : Option PartialChar) (b : UInt8) : List Char × Option PartialChar :=
  match pending with
  | none => decodeStart b
  | some p =>
      let n := b.toNat
      if p.next.1 ≤ n ∧ n ≤ p.next.2 then
        let value := p.value * 0x40 + n % 0x40
        if p.missing ≤ 1 then ([Char.ofNat value], none)
        else ([], some ⟨value, p.missing - 1, (0x80, 0xbf)⟩)
      else
        let (decoded, pending) := decodeStart b
        (replacement :: decoded, pending)

/-- The characters of bytes, behind a character that may be unfinished. -/
def decodeFrom (pending : Option PartialChar) : List UInt8 → List Char
  | [] => if pending.isSome then [replacement] else []
  | b :: rest =>
      let (decoded, pending) := decodeStep pending b
      decoded ++ decodeFrom pending rest

/-- The text of bytes, with marks for what is no text. -/
def ofBytes (bytes : List UInt8) : String :=
  String.ofList (decodeFrom none bytes)

namespace Utf8Witness

example : ofBytes (utf8 "aé€😀".toList) = "aé€😀" := by decide +kernel

example : ofBytes ((utf8 "a€".toList).take 3) = "a\ufffd" := by decide +kernel

example : ofBytes [0xe0, 0x80, 0x41, 0xff] = "\ufffd\ufffdA\ufffd" := by decide +kernel

end Utf8Witness

end Logbook.Text

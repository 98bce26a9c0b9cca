/-
Quoted text.  A text inside a message is written between double quotes so that the reader sees
where it starts and ends: quotes and backslashes are escaped, the common controls have names,
and every other character that would not show as itself is written by its number.
-/
import Logbook.Text.Unprinted

namespace Logbook.Text

/-- The lower case hexadecimal digits of a number, without leading zeros. -/
def hexDigits (n : Nat) : List Char :=
  Nat.toDigits 16 n

/-- The characters that stand for one character inside quotes. -/
def quotedChar (c : Char) : List Char :=
  match c with
  | '"' => ['\\', '"']
  | '\\' => ['\\', '\\']
  | '\n' => ['\\', 'n']
  | '\r' => ['\\', 'r']
  | '\t' => ['\\', 't']
  | '\x00' => ['\\', '0']
  | c => if isUnprinted c then ['\\', 'u', '\x7b'] ++ hexDigits c.toNat ++ ['\x7d'] else [c]

/-- The text between double quotes. -/
def quoted (s : String) : String :=
  String.ofList ('"' :: s.toList.flatMap quotedChar ++ ['"'])

namespace QuotedWitness

example : quoted "a\"b\\\n\u001b" = "\"a\\\"b\\\\\\n\\u\x7b1b\x7d\"" := by decide +kernel

end QuotedWitness

end Logbook.Text

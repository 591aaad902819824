/-
  Scaffold/Text/Quoted.lean
  =========================
  **Texts between double quotes.**

  Inside the quotes, a quote and a backslash take a backslash before them, the line controls have
  letters of their own, and every other character that cannot be printed by itself is shown by its
  number, as in `\u{7f}`.
-/
import Scaffold.Text
import Scaffold.Text.Letter.Unprintable

namespace Scaffold.Text

open Scaffold

/-- A number below 16 as a small hexadecimal digit. -/
def hexDigit (n : Nat) : Char := if n < 10 then Char.ofNat (48 + n) else Char.ofNat (87 + n)

/-- A number in small hexadecimal digits, without leading zeros. -/
def hex (n : Nat) : List Char :=
  if n < 16 then [hexDigit n] else hex (n / 16) ++ [hexDigit (n % 16)]

/-- Whether a character can stand by itself in a line of text. -/
def isPrintable (c : Char) : Bool :=
  if Letter.isAscii c then 32 ≤ c.toNat && c.toNat < 127
  else !Letter.onRuns c.toNat Letter.unprintableRuns

/-- A character as it stands between double quotes. -/
def quotedChar (c : Char) : List Char :=
  match c with
  | '"' => ['\\', '"']
  | '\\' => ['\\', '\\']
  | '\n' => ['\\', 'n']
  | '\r' => ['\\', 'r']
  | '\t' => ['\\', 't']
  | '\x00' => ['\\', '0']
  | c => if isPrintable c then [c] else "\\u\x7b".toList ++ hex c.toNat ++ ['\x7d']

/-- A text between double quotes. -/
def quoted (s : String) : String :=
  String.ofList (['"'] ++ s.toList.flatMap quotedChar ++ ['"'])

end Scaffold.Text

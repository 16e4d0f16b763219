import Admission.Unicode.Visible

/-!
# Quoted texts — a text shown between quotation marks

  A quoted text tells every character apart: quotation marks and backslashes are
  escaped, the usual control characters have letters, and every other character that is
  not visible is given by its number. A second form is the string of a JSON document,
  which escapes only what it must.
-/

namespace Admission.Text

open Admission.Unicode

/-! ### Hexadecimal numbers -/

/-- A hexadecimal digit. -/
def hexDigit (n : Nat) : Char :=
  if n < 10 then Char.ofNat (48 + n) else Char.ofNat (87 + n)

/-- The hexadecimal digits of a number in front of others; `fuel` bounds their number. -/
def hexDigits : Nat → Nat → List Char → List Char
  | 0, _, digits => digits
  | fuel + 1, n, digits =>
    let digits := hexDigit (n % 16) :: digits
    if n < 16 then digits else hexDigits fuel (n / 16) digits

/-- A number in hexadecimal digits, without leading zeros. -/
def hex (n : Nat) : List Char := hexDigits 8 n []

/-! ### For people -/

/-- A character between quotation marks. -/
def quotedChar : Char → List Char
  | '\t' => ['\\', 't']
  | '\r' => ['\\', 'r']
  | '\n' => ['\\', 'n']
  | '\x00' => ['\\', '0']
  | '\\' => ['\\', '\\']
  | '"' => ['\\', '"']
  | c => if Visible.isVisible c then [c] else ['\\', 'u', '\x7b'] ++ hex c.toNat ++ ['\x7d']

/-- A text in quotation marks. -/
def quoted (s : String) : String :=
  String.ofList ('"' :: s.toList.flatMap quotedChar ++ ['"'])

/-! ### For documents -/

/-- A character of a JSON string. -/
def jsonChar : Char → List Char
  | '"' => ['\\', '"']
  | '\\' => ['\\', '\\']
  | '\x08' => ['\\', 'b']
  | '\x0c' => ['\\', 'f']
  | '\n' => ['\\', 'n']
  | '\r' => ['\\', 'r']
  | '\t' => ['\\', 't']
  | c =>
    if c.toNat < 0x20 then
      ['\\', 'u', '0', '0', hexDigit (c.toNat / 16), hexDigit (c.toNat % 16)]
    else [c]

/-- A text as a JSON string. -/
def jsonString (s : String) : String :=
  String.ofList ('"' :: s.toList.flatMap jsonChar ++ ['"'])

end Admission.Text

import Admission.Toml.Cursor

/-!
# Texts of a TOML document — between quotation marks and apostrophes

  Between quotation marks a backslash begins an escape; between apostrophes every
  character stands for itself. Tripled marks hold a text of several lines: a line end
  right after the opening is not part of the text, every other one is a line feed, and
  up to two marks may stand before the closing ones. There a backslash at the end of a
  line joins it to the next character that is not blank.
-/

namespace Admission.Toml.Reader

/-! ### Escapes -/

/-- The value of a hexadecimal digit. -/
def hexDigit? (c : Char) : Option Nat :=
  if c.isDigit then some (c.toNat - 48)
  else if 'a' ≤ c && c ≤ 'f' then some (c.toNat - 87)
  else if 'A' ≤ c && c ≤ 'F' then some (c.toNat - 55)
  else none

/-- A number of hexadecimal digits, after those that spell a given number. -/
def hexDigits : Nat → Nat → Reader Nat
  | 0, n => return n
  | count + 1, n => do
    match (← peek).bind hexDigit? with
    | none => failure
    | some d =>
      advance
      hexDigits count (n * 16 + d)

/-- The character with a number of hexadecimal digits. -/
def codePoint (digits : Nat) : Reader Char := do
  let n ← hexDigits digits 0
  require (decide n.isValidChar)
  return Char.ofNat n

/-- An escape, after its backslash. -/
def escape : Reader Char := do
  match ← one fun _ => true with
  | 'b' => return '\x08'
  | 't' => return '\t'
  | 'n' => return '\n'
  | 'f' => return '\x0c'
  | 'r' => return '\r'
  | '"' => return '"'
  | '\\' => return '\\'
  | 'u' => codePoint 4
  | 'U' => codePoint 8
  | _ => failure

/-! ### Texts within a line -/

/-- The characters up to a quotation mark, after those that were found, last first. -/
def quotedChars : Nat → List Char → Reader (List Char)
  | 0, _ => failure
  | fuel + 1, found => do
    match ← one isPlain with
    | '"' => return found.reverse
    | '\\' => quotedChars fuel ((← escape) :: found)
    | c => quotedChars fuel (c :: found)

/-- A text between quotation marks, after the first one. -/
def quotedText : Reader String := do
  return String.ofList (← quotedChars ((← rest).length + 1) [])

/-- A text between apostrophes, after the first one. -/
def literalText : Reader String := do
  let cs ← span fun c => c != '\x27' && isPlain c
  expect ['\x27']
  return String.ofList cs

/-! ### Texts of several lines -/

/-- What a backslash in a text of several lines stands for: nothing, if only blanks are
between it and the end of the line; then line ends and blanks after it do not count. -/
def joinOrEscape : Reader (List Char) := do
  let cs ← rest
  spaces
  if ← lineEnd then
    let passed := (← rest).length
    skipBlank (passed + 1)
    return []
  else
    set cs
    return [← escape]
where
  /-- Passes over blanks and line ends. -/
  skipBlank : Nat → Reader Unit
    | 0 => pure ()
    | fuel + 1 => do
      spaces
      if ← lineEnd then skipBlank fuel

/-- The characters up to three marks, after those that were found, last first. -/
def longChars (mark : Char) (escapes : Bool) : Nat → List Char → Reader (List Char)
  | 0, _ => failure
  | fuel + 1, found => do
    if ← lineEnd then longChars mark escapes fuel ('\n' :: found)
    else
      match ← peek with
      | none => failure
      | some c =>
        if c == mark then
          let marks := ((← rest).takeWhile (· == mark)).length
          if marks < 3 then
            modify (List.drop marks)
            longChars mark escapes fuel (List.replicate marks mark ++ found)
          else
            let inside := Nat.min (marks - 3) 2
            modify (List.drop (inside + 3))
            return (List.replicate inside mark ++ found).reverse
        else if c == '\\' && escapes then
          advance
          longChars mark escapes fuel ((← joinOrEscape).reverse ++ found)
        else
          longChars mark escapes fuel ((← one isPlain) :: found)

/-- A text of several lines, after its three opening marks. -/
def longText (mark : Char) (escapes : Bool) : Reader String := do
  discard lineEnd
  return String.ofList (← longChars mark escapes ((← rest).length + 1) [])

/-- A text of any kind, at its first mark. -/
def text : Reader String := do
  if ← accept ['"', '"', '"'] then longText '"' true
  else if ← accept ['\x27', '\x27', '\x27'] then longText '\x27' false
  else if ← accept ['"'] then quotedText
  else do
    expect ['\x27']
    literalText

end Admission.Toml.Reader

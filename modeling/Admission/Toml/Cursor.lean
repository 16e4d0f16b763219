/-!
# Cursor — reading a TOML document from left to right

  A reader takes characters from the front of what is left of a document. It has no
  result where the document is malformed. This module holds the steps that all parts of
  a document share: characters, blanks, comments and line ends.
-/

namespace Admission.Toml

/-- Reading a part of a document. -/
abbrev Reader := StateT (List Char) Option

namespace Reader

/-! ### Characters -/

/-- What is left of the document. -/
def rest : Reader (List Char) := get

/-- The next character, if there is one. -/
def peek : Reader (Option Char) := do return (← get).head?

/-- Passes over one character. -/
def advance : Reader Unit := modify (List.drop 1)

/-- Passes over the characters that belong to a class, and gives them. -/
def span (p : Char → Bool) : Reader (List Char) := do
  let cs ← get
  set (cs.dropWhile p)
  return cs.takeWhile p

/-- Passes over a given text if it stands here. -/
def accept (expected : List Char) : Reader Bool := do
  let cs ← get
  if expected.isPrefixOf cs then
    set (cs.drop expected.length)
    return true
  else return false

/-- Passes over a given text; without it the document is malformed. -/
def expect (expected : List Char) : Reader Unit := do
  if ← accept expected then return () else failure

/-- A condition without which the document is malformed. -/
def require (b : Bool) : Reader Unit := if b then pure () else failure

/-- One character of a class. -/
def one (p : Char → Bool) : Reader Char := do
  match ← get with
  | [] => failure
  | c :: cs =>
    require (p c)
    set cs
    return c

/-! ### Between the parts -/

/-- Whether a character is a blank within a line. -/
def isSpace (c : Char) : Bool := c == ' ' || c == '\t'

/-- Whether a character may stand in a comment, and within a line in any text. -/
def isPlain (c : Char) : Bool := c == '\t' || (0x20 ≤ c.toNat && c.toNat != 0x7f)

/-- Passes over blanks within a line. -/
def spaces : Reader Unit := discard (span isSpace)

/-- Passes over a line end, if one stands here. -/
def lineEnd : Reader Bool := do
  if ← accept ['\n'] then return true else accept ['\r', '\n']

/-- Passes over a comment, if one stands here. -/
def comment : Reader Unit := do
  if (← peek) == some '#' then discard (span isPlain)

/-- Passes over what may stand after the last part of a line, and over the line's end. -/
def endLine : Reader Unit := do
  spaces
  comment
  if !(← lineEnd) then require (← get).isEmpty

/-- Passes over blanks, comments and line ends. -/
def skipLines : Nat → Reader Unit
  | 0 => pure ()
  | fuel + 1 => do
    spaces
    comment
    if ← lineEnd then skipLines fuel

/-- Passes over blanks, comments and line ends, however many there are. -/
def skip : Reader Unit := do skipLines ((← get).length + 1)

end Reader

end Admission.Toml

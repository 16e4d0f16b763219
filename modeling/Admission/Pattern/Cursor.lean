import Admission.Pattern.Expr
import Admission.Text.Blank

/-!
# Cursor — the state in which a written pattern is read

  A pattern is read from left to right. The cursor holds what is still to be read,
  the flags in force, the group names given so far and the number of groups that were
  opened. In verbose mode blanks and comments between the parts of a pattern do not
  count; `skipIgnored` passes over them.
-/

namespace Admission.Pattern

/-! ### Flags -/

/-- The switches that a pattern may set for the rest of a group. -/
structure Flags where
  /-- Both cases of a letter match (`i`). -/
  ignoreCase : Bool := false
  /-- The anchors match at line ends (`m`). -/
  multiLine : Bool := false
  /-- The dot matches line feeds (`s`). -/
  dotAll : Bool := false
  /-- Repetitions prefer few turns (`U`); this changes no language. -/
  lazy : Bool := false
  /-- Classes, letters and words are those of Unicode (`u`). -/
  unicode : Bool := true
  /-- Lines may end in a carriage return (`R`). -/
  returnLines : Bool := false
  /-- Blanks and comments are ignored (`x`). -/
  verbose : Bool := false
  deriving DecidableEq, Repr

/-- The flags with the one that a letter names switched, if there is one. -/
def Flags.switch (f : Flags) (on : Bool) : Char → Option Flags
  | 'i' => some { f with ignoreCase := on }
  | 'm' => some { f with multiLine := on }
  | 's' => some { f with dotAll := on }
  | 'U' => some { f with lazy := on }
  | 'u' => some { f with unicode := on }
  | 'R' => some { f with returnLines := on }
  | 'x' => some { f with verbose := on }
  | _ => none

/-- The flags after a list of letters in which a hyphen turns switching on into
switching off. -/
def Flags.switchAll (f : Flags) (on : Bool) : List Char → Option Flags
  | [] => some f
  | '-' :: cs => f.switchAll false cs
  | c :: cs => (f.switch on c).bind fun g => g.switchAll on cs

/-- The flags after a list of letters; each letter and the hyphen may stand there once,
and the hyphen not at the end. -/
def Flags.apply (f : Flags) (letters : List Char) : Option Flags :=
  if letters.Nodup && letters.getLast? != some '-' then f.switchAll true letters else none

/-! ### The cursor -/

/-- What is known in the middle of reading a pattern. -/
structure Cursor where
  /-- What is still to be read. -/
  rest : List Char
  /-- The flags in force. -/
  flags : Flags := {}
  /-- The group names given so far. -/
  names : List (List Char) := []
  /-- How many groups have been opened whose extent is recorded. -/
  groups : Nat := 0

/-- Reading a part of a pattern; there is no result when the pattern is malformed. -/
abbrev Reader := StateT Cursor Option

namespace Reader

/-- The next character, if there is one. -/
def peek : Reader (Option Char) := do return (← get).rest.head?

/-- The next character; a pattern that ends here is malformed. -/
def current : Reader Char := do
  match (← get).rest with
  | [] => failure
  | c :: _ => return c

/-- Puts what is still to be read. -/
def setRest (cs : List Char) : Reader Unit := modify fun s => { s with rest := cs }

/-- Passes over one character. -/
def advance : Reader Unit := modify fun s => { s with rest := s.rest.drop 1 }

/-- Passes over a given text if it stands here. -/
def accept (expected : List Char) : Reader Bool := do
  let s ← get
  if expected.isPrefixOf s.rest then
    setRest (s.rest.drop expected.length)
    return true
  else return false

/-- Passes over a given character; without it the pattern is malformed. -/
def expect (c : Char) : Reader Unit := do
  if (← current) = c then advance else failure

/-- The flags in force. -/
def flags : Reader Flags := do return (← get).flags

/-- Puts other flags in force. -/
def setFlags (f : Flags) : Reader Unit := modify fun s => { s with flags := f }

/-- A number of turns that is enough for a loop which takes a character in each. -/
def turnsLeft : Reader Nat := do return (← get).rest.length + 1

/-- A result, or a malformed pattern. -/
def orRefuse {α : Type} : Option α → Reader α
  | some a => pure a
  | none => failure

/-- A condition without which the pattern is malformed. -/
def require (b : Bool) : Reader Unit := if b then pure () else failure

end Reader

/-! ### What verbose mode ignores -/

/-- What remains after blanks and comments; a comment reaches from `#` to the end of its
line. -/
def dropIgnored (inComment : Bool) : List Char → List Char
  | [] => []
  | c :: cs =>
    if inComment then dropIgnored (c != '\n') cs
    else if Text.isBlank c then dropIgnored false cs
    else if c = '#' then dropIgnored true cs
    else c :: cs

theorem dropIgnored_length (inComment : Bool) (cs : List Char) :
    (dropIgnored inComment cs).length ≤ cs.length := by
  induction cs generalizing inComment with
  | nil => simp [dropIgnored]
  | cons c cs ih =>
    unfold dropIgnored
    split
    · exact Nat.le_succ_of_le (ih _)
    · split
      · exact Nat.le_succ_of_le (ih _)
      · split
        · exact Nat.le_succ_of_le (ih _)
        · exact Nat.le_refl _

/-- What remains after that which the flags tell to ignore. -/
def Flags.drop (f : Flags) (cs : List Char) : List Char :=
  if f.verbose then dropIgnored false cs else cs

theorem Flags.drop_length (f : Flags) (cs : List Char) : (f.drop cs).length ≤ cs.length := by
  unfold Flags.drop
  split
  · exact dropIgnored_length _ _
  · exact Nat.le_refl _

namespace Reader

/-- Passes over what verbose mode ignores. -/
def skipIgnored : Reader Unit := modify fun s => { s with rest := s.flags.drop s.rest }

/-- Passes over one character and what is ignored after it. -/
def step : Reader Unit := do
  advance
  skipIgnored

end Reader

end Admission.Pattern

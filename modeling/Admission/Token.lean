import Admission.Fault
import Admission.Pattern.Body

/-!
# Tokens — what a store records about a key

  A token is a minimum severity with an optional value pattern, written
  `SEVERITY` or `SEVERITY:pattern`. An event passes when its severity reaches the
  minimum and, if there is a pattern, when its value is there and matches it.

  The pattern is read inside of anchors at both ends of a value, and two tokens are the
  same token when they are written the same.
-/

namespace Admission

/-- A rule for the events of one key. -/
structure Token where
  /-- The severity that an event must reach. -/
  minimum : Severity
  /-- What the value of an event must match, if anything. -/
  pattern : Option Pattern.Expr
  /-- The token as it was written, without blanks around it. -/
  raw : String
  deriving Repr, Inhabited

namespace Token

/-! ### Reading -/

/-- The parts of a text before and after its first colon. -/
def divide : List Char → List Char × Option (List Char)
  | [] => ([], none)
  | ':' :: cs => ([], some cs)
  | c :: cs =>
    let (before, after) := divide cs
    (c :: before, after)

/-- A value pattern between anchors, so that it has to match the whole value. -/
def anchored (pattern : List Char) : List Char :=
  ['^', '(', '?', ':'] ++ pattern ++ [')', '$']

/-- The pattern part of a token; an empty one says nothing. -/
def readPattern (pattern : Option (List Char)) : Except Fault (Option Pattern.Expr) :=
  match pattern with
  | none | some [] => .ok none
  | some p =>
    match Pattern.Expr.ofText? (anchored p) with
    | some e => .ok (some e)
    | none => .error (.invalidPattern (String.ofList p))

/-- The token that a text spells. -/
def parse (s : String) : Except Fault Token :=
  let raw := Text.trimBoth s.toList
  let (level, pattern) := divide raw
  match Severity.ofName? (String.ofList level) with
  | none => .error (.unknownSeverity (Text.trim (String.ofList level)))
  | some minimum =>
    -- the text was trimmed as a whole, so a pattern keeps the blanks before it
    (readPattern pattern).map fun pattern => ⟨minimum, pattern, String.ofList raw⟩

/-- The token that a text spells, if it spells one. -/
def parse? (s : String) : Option Token := (parse s).toOption

/-! ### Writing -/

/-- The written form of a severity with an optional value pattern. -/
def render (severity : Severity) : Option String → String
  | none => severity.name
  | some value => severity.name ++ ":" ++ value

/-! ### Deciding -/

/-- Whether a token restricts the value of an event. -/
def hasPattern (t : Token) : Bool := t.pattern.isSome

/-- Whether an event passes. -/
def admits (t : Token) (severity : Severity) (value : Option String) : Bool :=
  severity.atLeast t.minimum &&
    match t.pattern, value with
    | none, _ => true
    | some e, some v => e.search v.toList
    -- an event without a value matches no pattern, not even one that matches everything
    | some _, none => false

/-- Two tokens are the same when they are written the same. -/
instance : BEq Token := ⟨fun a b => a.raw == b.raw⟩

end Token

end Admission

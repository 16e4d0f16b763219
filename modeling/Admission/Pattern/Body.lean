import Admission.Pattern.Bracket
import Admission.Pattern.Footprint
import Admission.Pattern.Search
import Admission.Unicode.Alphanumeric

/-!
# Bodies — from the written form of a pattern to its expression

  A pattern is a choice of sequences of parts. A part is a character, a class, a dot,
  an anchor, a set in brackets or a group, and a repetition sign belongs to the part
  before it. Flags hold from where they are set to the end of the group, across its
  bars.

  Beside what it says each part carries its plan, from which its size is counted, and
  its depth, the number of groups, choices, sequences, repetitions and brackets that
  are nested in it. A pattern is refused when it is malformed, when it nests too deeply
  or when it takes too much room.
-/

namespace Admission.Pattern

open Admission.Unicode

/-! ### Parts -/

/-- A part of a sequence. -/
structure Part where
  /-- What the part says. -/
  expr : Expr
  /-- The plain form of the part. -/
  plan : Plan
  /-- How deeply the part nests. -/
  depth : Nat := 0
  /-- Whether a repetition sign may follow; none may follow flags. -/
  repeatable : Bool := true

/-- How often a part is taken. -/
structure Quantity where
  /-- The least number of turns. -/
  least : Nat
  /-- The greatest number of turns, if there is one. -/
  most : Option Nat
  /-- Whether few turns are preferred, which decides nothing about what matches. -/
  lazy : Bool

namespace Part

/-- The part that flags are in a sequence. -/
def flags : Part := { expr := .empty, plan := .nothing, repeatable := false }

/-- A part that takes a character of a set, which was written with a given depth. -/
def set (s : CharSet) (depth : Nat) : Part := { expr := .chars s, plan := .ofSet s, depth }

/-- A part that is a condition on a place. -/
def look (l : Look) : Part := { expr := .look l, plan := .look l }

/-- The greatest depth of several parts. -/
def maxDepth (parts : List Part) : Nat := (parts.map depth).foldl Nat.max 0

/-- Parts one after the other; two or more nest once more. -/
def sequence : List Part → Part
  | [] => { expr := .empty, plan := .nothing }
  | [p] => p
  | ps =>
    { expr := .seqAll ((ps.filter repeatable).map expr), plan := .sequence (ps.map plan)
      depth := maxDepth ps + 1 }

/-- A choice between parts; two or more nest once more. -/
def choice : List Part → Part
  | [p] => p
  | ps =>
    { expr := .altAll (ps.map expr), plan := .choose (ps.map plan), depth := maxDepth ps + 1 }

/-- A part repeated. -/
def repeated (p : Part) (q : Quantity) : Part :=
  { expr := .repeated p.expr q.least q.most, plan := .repeated p.plan q.least q.most q.lazy
    depth := p.depth + 1 }

/-- A group; it is recorded if it has a number. -/
def group (inner : Part) : Option Nat → Part
  | some n =>
    { expr := .capture inner.expr, plan := .group n inner.plan, depth := inner.depth + 1 }
  | none => { expr := inner.expr, plan := inner.plan, depth := inner.depth + 1 }

end Part

/-! ### Characters -/

/-- The set of a character as the flags read it; without Unicode a character written as a
byte above the ASCII range means that byte, and no text holds it alone. -/
def literalSet (f : Flags) (c : Char) (byte : Bool) : Option CharSet :=
  if !f.unicode && byte && 0x80 ≤ c.toNat then none
  else some (Reader.folded f (CharSet.single c))

/-- What the dot stands for. Without Unicode it would stand for any byte, which no text
holds alone. -/
def dotSet (f : Flags) : Option CharSet :=
  if !f.unicode then none
  else if f.dotAll then some CharSet.full
  else if f.returnLines then some (CharSet.ofCodes [10, 13]).complement
  else some (CharSet.single '\n').complement

/-- What the caret stands for. -/
def caretLook (f : Flags) : Look :=
  if !f.multiLine then .start else if f.returnLines then .returnLineStart else .lineStart

/-- What the dollar sign stands for. -/
def dollarLook (f : Flags) : Look :=
  if !f.multiLine then .finish else if f.returnLines then .returnLineFinish else .lineFinish

/-- The part of a primitive as the flags read it. -/
def Primitive.part? (f : Flags) : Primitive → Option Part
  | .literal c byte => (literalSet f c byte).map (Part.set · 0)
  | .set s => some (.set s 0)
  | .look l => some (.look l)

/-! ### Group heads -/

/-- What follows an opening parenthesis. -/
inductive GroupHead where
  /-- Flags for the rest of the group in which they stand. -/
  | switches (f : Flags)
  /-- A group of its own, whose extent may be recorded. -/
  | group (f : Flags) (recorded : Bool)

/-- Whether a character may stand in a group name. -/
def isNameChar (first : Bool) (c : Char) : Bool :=
  c == '_' || Alphanumeric.alphabetic.contains c ||
    (!first && (c == '.' || c == '[' || c == ']' || Alphanumeric.numeric.contains c))

/-- Whether a text may be a group name. -/
def isGroupName : List Char → Bool
  | [] => false
  | c :: cs => isNameChar true c && cs.all (isNameChar false)

/-- The beginnings of groups that look around without taking characters, which no
expression can say. -/
def lookAroundHeads : List (List Char) :=
  [['?', '='], ['?', '!'], ['?', '<', '='], ['?', '<', '!']]

namespace Reader

/-- The rest of a named group's head, after the opening angle bracket. -/
def groupName : Reader Unit := do
  let s ← get
  let p ← orRefuse (aroundChar '>' s.rest)
  require (isGroupName p.1 && !s.names.contains p.1)
  set { s with rest := p.2, names := p.1 :: s.names }

/-- The letters of flags, which end before a colon or a parenthesis. -/
def flagLetters (cs : List Char) : List Char := cs.takeWhile fun c => c != ':' && c != ')'

/-- Passes over the letters of flags. -/
def takeLetters : Reader (List Char) := do
  let s ← get
  let letters := flagLetters s.rest
  setRest (s.rest.drop letters.length)
  return letters

/-- The rest of a head with flags, after the question mark. -/
def flagHead : Reader GroupHead := do
  let letters ← takeLetters
  let f ← orRefuse ((← flags).apply letters)
  if (← current) = ':' then
    advance
    return .group f false
  else
    require !letters.isEmpty
    advance
    return .switches f

/-- Whether a group that looks around begins here, after its parenthesis. -/
def looksAround : Reader Bool := do
  let s ← get
  return lookAroundHeads.any fun head => head.isPrefixOf s.rest

/-- The head of a group, at its parenthesis. -/
def groupHead : Reader GroupHead := do
  step
  require !(← looksAround)
  let f ← flags
  if ← (accept ['?', 'P', '<'] <||> accept ['?', '<']) then
    groupName
    return .group f true
  else if ← accept ['?'] then flagHead
  else return .group f true

/-- The number of a group that opens here, if its extent is recorded; such groups are
numbered in the order in which they open. -/
def groupNumber (recorded : Bool) : Reader (Option Nat) := do
  if !recorded then return none
  let s ← get
  set { s with groups := s.groups + 1 }
  return some s.groups

/-! ### Repetition signs -/

/-- The digits of a number, with what is ignored between them. -/
def decimalDigits : Nat → List Char → Reader (List Char)
  | 0, _ => failure
  | fuel + 1, found => do
    match ← peek with
    | some c =>
      if c.isDigit then
        step
        decimalDigits fuel (c :: found)
      else return found.reverse
    | none => return found.reverse

/-- Passes over blanks. -/
def skipBlanks : Reader Unit := modify fun s => { s with rest := Text.trimLeft s.rest }

/-- Passes over the blanks after a number, and over what is ignored after them. -/
def skipAfterNumber : Reader Unit := do
  if (← peek).any Text.isBlank then
    skipBlanks
    skipIgnored

/-- The greatest number of turns that may be written. -/
def turnLimit : Nat := 0xffffffff

/-- The number of turns that digits spell. -/
def turnsOfDigits (digits : List Char) : Reader (Option Nat) := do
  if digits.isEmpty then return none
  let n := digits.foldl (fun n c => n * 10 + (c.toNat - 48)) 0
  require (n ≤ turnLimit)
  return some n

/-- A number of turns, with blanks around it. -/
def decimal : Reader (Option Nat) := do
  skipBlanks
  let digits ← decimalDigits (← turnsLeft) []
  skipAfterNumber
  turnsOfDigits digits

/-- Whether the repetition that was read prefers few turns; a question mark after it says
so, or the opposite where the flags say so already. -/
def laziness : Reader Bool := do
  let marked ← accept ['?']
  return marked != (← flags).lazy

/-- A number of turns that has to be there. -/
def numberOfTurns : Reader Nat := do orRefuse (← decimal)

/-- The greatest number of turns after the least one: the same without a comma, and none if
nothing follows the comma. -/
def mostTurns (least : Nat) : Reader (Option Nat) := do
  if (← current) = ',' then
    step
    if (← current) = '\x7d' then return none
    else return some (← numberOfTurns)
  else return some least

/-- The numbers of turns in braces, at the opening one. -/
def turns : Reader Quantity := do
  step
  let least ← numberOfTurns
  let most ← mostTurns least
  expect '\x7d'
  skipIgnored
  let lazy ← laziness
  require (most.all fun most => least ≤ most)
  return ⟨least, most, lazy⟩

/-- A repetition sign of one character. -/
def sign (least : Nat) (most : Option Nat) : Reader Quantity := do
  advance
  return ⟨least, most, ← laziness⟩

/-- The repetition that a character begins, if it begins one. -/
def signOf : Char → Option (Reader Quantity)
  | '?' => some (sign 0 (some 1))
  | '*' => some (sign 0 none)
  | '+' => some (sign 1 none)
  | '\x7b' => some turns
  | _ => none

/-- What may be read, if there is a reader for it. -/
def offered {α : Type} : Option (Reader α) → Reader (Option α)
  | some x => do return some (← x)
  | none => return none

/-- The repetition sign that stands here, if one does. -/
def repetition : Reader (Option Quantity) := do offered ((← peek).bind signOf)

/-! ### Bodies -/

/-- A part that holds no other parts, at its first character. -/
def atomAt (f : Flags) : Char → Reader Part
  | '[' => do
    let (s, depth) ← bracket
    return .set s depth
  | '\\' => do orRefuse ((← escape).part? f)
  | '.' => do
    advance
    return .set (← orRefuse (dotSet f)) 0
  | '^' => do
    advance
    return .look (caretLook f)
  | '$' => do
    advance
    return .look (dollarLook f)
  | c => do
    advance
    return .set (← orRefuse (literalSet f c false)) 0

/-- A part that holds no other parts. -/
def atom : Reader Part := do
  let f ← flags
  atomAt f (← current)

/-- A body up to its closing parenthesis or to the end of the pattern; `branches` are the
branches that are complete and `parts` the parts of the present one, last first. -/
def body : Nat → List Part → List Part → Reader Part
  | 0, _, _ => failure
  | fuel + 1, branches, parts => do
    skipIgnored
    match ← peek with
    | none | some ')' => return .choice (.sequence parts.reverse :: branches).reverse
    | some '|' =>
      advance
      body fuel (.sequence parts.reverse :: branches) []
    | some '(' =>
      match ← groupHead with
      | .switches f =>
        setFlags f
        body fuel branches (.flags :: parts)
      | .group f recorded =>
        let number ← groupNumber recorded
        let outer ← flags
        setFlags f
        let inner ← body fuel [] []
        expect ')'
        setFlags outer
        body fuel branches (inner.group number :: parts)
    | some _ =>
      match ← repetition, parts with
      | none, _ => body fuel branches ((← atom) :: parts)
      | some q, last :: before =>
        require last.repeatable
        body fuel branches (last.repeated q :: before)
      | some _, [] => failure

end Reader

/-! ### Patterns -/

/-- How deeply a pattern may nest. -/
def depthLimit : Nat := 250

/-- The part that a whole text spells. -/
def Part.ofText? (text : List Char) : Option Part := do
  let (part, s) ← (Reader.body (text.length + 1) [] []).run { rest := text }
  if s.rest.isEmpty then some part else none

/-- The expression that a text spells, unless it is malformed, too deep or too large. -/
def Expr.ofText? (text : List Char) : Option Expr := do
  let part ← Part.ofText? text
  if part.depth ≤ depthLimit && part.plan.isSmallEnough then some part.expr else none

/-- Whether a text is a pattern. -/
def isPattern (text : List Char) : Bool := (Expr.ofText? text).isSome

end Admission.Pattern

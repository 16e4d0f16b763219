import Admission.Pattern.Escape

/-!
# Brackets — character sets spelled out

  Between brackets stand characters, ranges, classes and further brackets, whose
  union is meant, and between such unions the operators `&&` (both), `--` (the first
  only) and `~~` (one of the two), which bind from left to right. A caret after the
  opening bracket negates the whole.

  Beside the set each part carries its depth, the number of brackets, unions and
  operators that are nested in it, since a pattern may not nest too deeply.
-/

namespace Admission.Pattern

open Admission.Unicode

/-! ### Operators and unions -/

/-- An operator between two unions. -/
inductive SetOperator where
  /-- Members of both sides. -/
  | both
  /-- Members of the left side only. -/
  | leftOnly
  /-- Members of one side only. -/
  | oneOnly

/-- What an operator makes of its two sides. -/
def SetOperator.apply : SetOperator → CharSet → CharSet → CharSet
  | .both => CharSet.inter
  | .leftOnly => CharSet.diff
  | .oneOnly => CharSet.symmDiff

/-- The union of the items read so far between two operators. -/
structure ItemUnion where
  /-- The members of the items. -/
  set : CharSet := CharSet.empty
  /-- The number of items. -/
  count : Nat := 0
  /-- The greatest depth of an item. -/
  depth : Nat := 0

/-- The union with one more item. -/
def ItemUnion.add (u : ItemUnion) (s : CharSet) (depth : Nat) : ItemUnion :=
  ⟨u.set.union s, u.count + 1, Nat.max u.depth depth⟩

/-- The depth of a union: a union of two or more items nests them once more. -/
def ItemUnion.totalDepth (u : ItemUnion) : Nat := if u.count < 2 then u.depth else u.depth + 1

/-- The left side of an operator that waits for its right side. -/
structure Pending where
  /-- The operator. -/
  operator : SetOperator
  /-- Its left side. -/
  left : CharSet
  /-- The depth of the left side. -/
  depth : Nat

/-- The set of a union and of the operator before it, with its depth. -/
def ItemUnion.finish (f : Flags) (before : Option Pending) (u : ItemUnion) : CharSet × Nat :=
  match before with
  | none => (u.set, u.totalDepth)
  | some p =>
    (p.operator.apply (Reader.folded f p.left) (Reader.folded f u.set),
      Nat.max p.depth u.totalDepth + 1)

/-! ### Items -/

/-- The named ASCII classes. -/
def asciiClassRanges : String → Option (List (Nat × Nat))
  | "alnum" => some [(48, 57), (65, 90), (97, 122)]
  | "alpha" => some [(65, 90), (97, 122)]
  | "ascii" => some [(0, 127)]
  | "blank" => some [(9, 9), (32, 32)]
  | "cntrl" => some [(0, 31), (127, 127)]
  | "digit" => some [(48, 57)]
  | "graph" => some [(33, 126)]
  | "lower" => some [(97, 122)]
  | "print" => some [(32, 126)]
  | "punct" => some [(33, 47), (58, 64), (91, 96), (123, 126)]
  | "space" => some [(9, 13), (32, 32)]
  | "upper" => some [(65, 90)]
  | "word" => some [(48, 57), (65, 90), (95, 95), (97, 122)]
  | "xdigit" => some [(48, 57), (65, 70), (97, 102)]
  | _ => none

/-- The ranges of the ASCII class whose name stands here, with what follows its closing
bracket. -/
def asciiClassNamed (cs : List Char) : Option (List (Nat × Nat) × List Char) :=
  match Reader.aroundChar ':' cs with
  | some (name, ']' :: left) =>
    (asciiClassRanges (String.ofList name)).map fun ranges => (ranges, left)
  | _ => none

/-- A named ASCII class at its opening bracket: whether it is negated, its ranges, and what
follows its closing bracket. -/
def asciiClassAt (cs : List Char) : Option (Bool × List (Nat × Nat) × List Char) :=
  if ['[', ':', '^'].isPrefixOf cs then (asciiClassNamed (cs.drop 3)).map fun p => (true, p)
  else if ['[', ':'].isPrefixOf cs then (asciiClassNamed (cs.drop 2)).map fun p => (false, p)
  else none

/-- The next character that counts after the present one, as a hyphen looks for it: blanks
do not count in verbose mode, nor does the sign that begins a comment. -/
def nextCounting (f : Flags) : List Char → Option Char
  | [] => none
  | _ :: rest =>
    if f.verbose then
      match rest.dropWhile Text.isBlank with
      | '#' :: more => (more.dropWhile Text.isBlank).head?.or ('#' :: more).head?
      | more => more.head?
    else rest.head?

/-- Whether the character after a hyphen keeps it from making a range. -/
def endsRange (next : Option Char) : Bool := next == some ']' || next == some '-'

namespace Reader

/-- A named ASCII class, if one stands here. -/
def asciiClass : Reader (Option CharSet) := do
  let s ← get
  match asciiClassAt s.rest with
  | none => return none
  | some (negated, ranges, left) =>
    let set ← orRefuse (negatedIf s.flags negated (folded s.flags (CharSet.ofRanges ranges)))
    setRest left
    return some set

/-- A single character or escape between brackets. -/
def bracketPrimitive : Reader Primitive := do
  let c ← current
  if c = '\\' then escape
  else
    advance
    return .literal c false

/-- The code point of a literal that may stand between brackets; without Unicode only
ASCII characters may. -/
def literalCode (f : Flags) (c : Char) : Reader Nat := do
  require (f.unicode || c.toNat < 0x80)
  return c.toNat

/-- The set of a character or class between brackets that does not begin a range. -/
def singleItem (f : Flags) : Primitive → Reader CharSet
  | .literal c _ => do
    let n ← literalCode f c
    return CharSet.range n n
  | .set s => return s
  | .look _ => failure

/-- The set of a range between two characters. -/
def rangeItem (f : Flags) : Primitive → Primitive → Reader CharSet
  | .literal lo _, .literal hi _ => do
    require (lo ≤ hi)
    return CharSet.range (← literalCode f lo) (← literalCode f hi)
  | _, _ => failure

/-- Whether the hyphen of a range stands here. -/
def atRange : Reader Bool := do
  let c ← current
  let s ← get
  return c == '-' && !endsRange (nextCounting s.flags s.rest)

/-- What a character or class begins between brackets: a range, or an item by itself. -/
def itemFrom (f : Flags) (first : Primitive) : Reader CharSet := do
  skipIgnored
  if ← atRange then
    expect '-'
    skipIgnored
    discard current
    rangeItem f first (← bracketPrimitive)
  else singleItem f first

/-- A character, class or range between brackets. -/
def bracketItem : Reader CharSet := do
  let f ← flags
  itemFrom f (← bracketPrimitive)

/-- The hyphens after an opening bracket, which stand for themselves. -/
def leadingHyphens : Nat → ItemUnion → Reader ItemUnion
  | 0, _ => failure
  | fuel + 1, u => do
    if (← current) = '-' then
      step
      leadingHyphens fuel (u.add (CharSet.single '-') 0)
    else return u

/-- Whether a caret after an opening bracket negates the set. -/
def negation : Reader Bool := do
  if (← current) = '^' then
    step
    return true
  else return false

/-- The beginning of brackets, at the opening one: whether they are negated, and the items
that only there stand for themselves. -/
def openBracket : Reader (Bool × ItemUnion) := do
  step
  let negated ← negation
  let u ← leadingHyphens (← turnsLeft) {}
  if u.count = 0 && (← current) = ']' then
    step
    discard current
    return (negated, u.add (CharSet.single ']') 0)
  else return (negated, u)

/-- The operator that stands here, if one does. -/
def setOperator : Reader (Option SetOperator) := do
  if ← accept ['&', '&'] then return some .both
  else if ← accept ['-', '-'] then return some .leftOnly
  else if ← accept ['~', '~'] then return some .oneOnly
  else return none

/-- The set of what stands between brackets, with their negation. -/
def closed (negated : Bool) (inner : CharSet × Nat) : Reader (CharSet × Nat) := do
  let f ← flags
  return (← orRefuse (negatedIf f negated (folded f inner.1)), inner.2 + 1)

/-- What stands between brackets up to the closing one; `before` is an operator that waits
for its right side and `u` the union read since. -/
def bracketItems : Nat → Option Pending → ItemUnion → Reader (CharSet × Nat)
  | 0, _, _ => failure
  | fuel + 1, before, u => do
    skipIgnored
    let f ← flags
    match ← current with
    | '[' =>
      match ← asciiClass with
      | some s => bracketItems fuel before (u.add s 0)
      | none =>
        let (negated, start) ← openBracket
        let (s, depth) ← closed negated (← bracketItems fuel none start)
        bracketItems fuel before (u.add s depth)
    | ']' =>
      advance
      return u.finish f before
    | _ =>
      match ← setOperator with
      | some operator =>
        let (left, depth) := u.finish f before
        bracketItems fuel (some ⟨operator, left, depth⟩) {}
      | none => bracketItems fuel before (u.add (← bracketItem) 0)

/-- A set in brackets, at the opening one, with its depth. -/
def bracket : Reader (CharSet × Nat) := do
  let fuel ← turnsLeft
  let (negated, start) ← openBracket
  closed negated (← bracketItems fuel none start)

end Reader

end Admission.Pattern

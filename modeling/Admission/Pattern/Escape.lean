import Admission.Pattern.Cursor
import Admission.Unicode.CaseFolding

/-!
# Escapes — what a backslash makes of the characters after it

  An escape is a character that stands for itself or for a control character, a
  character given by its number, a class of characters, or a condition on a place.
  Letters and digits without a meaning are refused, so that they may be given one;
  every other ASCII character may be escaped without need.
-/

namespace Admission.Pattern

open Admission.Unicode

/-- A part of a pattern that is read as a unit, inside or outside of brackets. -/
inductive Primitive where
  /-- A character; `byte` tells that it was written as two hexadecimal digits. -/
  | literal (c : Char) (byte : Bool)
  /-- A character of a set. -/
  | set (s : CharSet)
  /-- A condition on a place. -/
  | look (l : Look)

/-! ### Characters given by their number -/

/-- The value of a hexadecimal digit. -/
def hexValue? (c : Char) : Option Nat :=
  if c.isDigit then some (c.toNat - 48)
  else if 'a' ≤ c && c ≤ 'f' then some (c.toNat - 87)
  else if 'A' ≤ c && c ≤ 'F' then some (c.toNat - 55)
  else none

/-- The number written in hexadecimal digits. -/
def hexNumber? : Nat → List Char → Option Nat
  | n, [] => some n
  | n, c :: cs => (hexValue? c).bind fun d => hexNumber? (n * 16 + d) cs

/-- The character of a number, unless it is a surrogate or too large. -/
def charOfCode? (n : Nat) : Option Char :=
  if n.isValidChar then some (Char.ofNat n) else none

namespace Reader

/-- A given number of hexadecimal digits. -/
def hexDigits : Nat → Nat → Reader Nat
  | 0, n => pure n
  | k + 1, n => do
    let d ← orRefuse (hexValue? (← current))
    step
    hexDigits k (n * 16 + d)

/-- The characters up to a closing brace, without those that are ignored; what follows
the brace is left over. -/
def untilBrace (f : Flags) : Nat → List Char → Option (List Char × List Char)
  | 0, _ => none
  | fuel + 1, cs =>
    match f.drop cs with
    | [] => none
    | '\x7d' :: rest => some ([], rest)
    | c :: rest => (untilBrace f fuel rest).map fun (name, left) => (c :: name, left)

/-- The characters between braces, at the opening brace. -/
def braced : Reader (List Char) := do
  advance
  let s ← get
  let p ← orRefuse (untilBrace s.flags (s.rest.length + 1) s.rest)
  setRest p.2
  return p.1

/-- A character given by its number, after the letter that tells how many digits it has
when it is not in braces. -/
def numbered (digits : Nat) : Reader Primitive := do
  step
  if (← current) = '\x7b' then
    let name ← braced
    require !name.isEmpty
    return .literal (← orRefuse ((hexNumber? 0 name).bind charOfCode?)) false
  else
    let n ← hexDigits digits 0
    return .literal (← orRefuse (charOfCode? n)) (digits = 2)

/-! ### Classes -/

/-- The set as the flags read it: with the other case of its letters if they ignore
case. -/
def folded (f : Flags) (s : CharSet) : CharSet :=
  if !f.ignoreCase then s
  else if f.unicode then CaseFolding.close s
  else CaseFolding.closeAscii s

/-- The set, or what is not in it. Without Unicode there is no such thing, since it
would hold bytes that are not characters. -/
def negatedIf (f : Flags) (negated : Bool) (s : CharSet) : Option CharSet :=
  if !negated then some s else if f.unicode then some s.complement else none

/-- The class of a letter: digits, spaces or word characters. -/
def letterClass (f : Flags) : Char → CharSet
  | 'd' => if f.unicode then Names.digits else CharSet.range 48 57
  | 's' => if f.unicode then Names.spaces else CharSet.ofRanges [(9, 13), (32, 32)]
  | _ => if f.unicode then Names.wordCharacters else asciiWord

/-- What stands before and after the first unequal sign. -/
def aroundUnequal : List Char → Option (List Char × List Char)
  | [] => none
  | '!' :: '=' :: rest => some ([], rest)
  | c :: rest => (aroundUnequal rest).map fun (a, b) => (c :: a, b)

/-- What stands before and after the first occurrence of a character. -/
def aroundChar (mark : Char) : List Char → Option (List Char × List Char)
  | [] => none
  | c :: rest =>
    if c = mark then some ([], rest) else (aroundChar mark rest).map fun (a, b) => (c :: a, b)

/-- What is asked for between the braces of a class. -/
inductive ClassQuery where
  /-- The class of one name. -/
  | named (name : List Char)
  /-- The class of a property's value. -/
  | valued (property value : List Char)
  /-- What does not belong to the class of a property's value. -/
  | otherwise (property value : List Char)

/-- The query that a text between braces spells. It is divided into the names of a property
and of a value at an unequal sign, else at a colon, else at an equal sign, of each the first
one. -/
def ClassQuery.ofText (cs : List Char) : ClassQuery :=
  match aroundUnequal cs, (aroundChar ':' cs).or (aroundChar '=' cs) with
  | some (property, value), _ => .otherwise property value
  | none, some (property, value) => .valued property value
  | none, none => .named cs

/-- The class that a query names. -/
def ClassQuery.set? : ClassQuery → Option CharSet
  | .named name => Names.ofName name
  | .valued property value => Names.ofValue property value
  | .otherwise property value => Names.ofValue property value

/-- Whether a query asks for what does not belong to the class that it names. -/
def ClassQuery.isNegated : ClassQuery → Bool
  | .otherwise _ _ => true
  | _ => false

/-- A class given by its name, after the letter `p` or `P`. An unequal sign negates the class
as the capital letter does, and both together leave it as it is. -/
def propertyClass (negated : Bool) : Reader Primitive := do
  step
  let c ← current
  let text ← if c = '\x7b' then braced else do
    require (c != '\\')
    step
    pure [c]
  let query := if c = '\x7b' then ClassQuery.ofText text else .named text
  let f ← flags
  require f.unicode
  return .set (← orRefuse (query.set?.bind fun s =>
    negatedIf f (negated != query.isNegated) (folded f s)))

/-! ### Conditions -/

/-- The condition of a name between braces after the letter `b`. -/
def wordLookOfName (name : List Char) : Option WordLook :=
  match String.ofList name with
  | "start" => some .start
  | "end" => some .finish
  | "start-half" => some .startHalf
  | "end-half" => some .finishHalf
  | _ => none

/-- Whether a character may begin the name of a condition. -/
def isConditionChar (c : Char) : Bool := c.isAlpha || c == '-'

/-- The condition whose name stands between braces, at the opening one. -/
def namedLook : Reader WordLook := do
  let name ← braced
  require (name.all isConditionChar)
  orRefuse (wordLookOfName name)

/-- The condition of the letter `b`: braces after it hold the name of another condition,
unless their first character cannot be one; then they are a repetition. -/
def wordLook : Reader WordLook := do
  let s ← get
  match s.rest with
  | '\x7b' :: rest =>
    match s.flags.drop rest with
    | [] => failure
    | c :: _ => if isConditionChar c then namedLook else return .boundary
  | _ => return .boundary

/-! ### All escapes -/

/-- Whether an ASCII character may be escaped to stand for itself. -/
def isEscapable (c : Char) : Bool :=
  c.toNat < 0x80 && !c.isAlphanum && c != '<' && c != '>'

/-- An escape after its backslash, at its character. -/
def escaped (c : Char) : Reader Primitive := do
  let f ← flags
  match c with
  | 'x' => numbered 2
  | 'u' => numbered 4
  | 'U' => numbered 8
  | 'p' => propertyClass false
  | 'P' => propertyClass true
  | 'd' | 's' | 'w' =>
    advance
    return .set (letterClass f c)
  | 'D' | 'S' | 'W' =>
    advance
    return .set (← orRefuse (negatedIf f true (letterClass f c.toLower)))
  | _ =>
    advance
    if isEscapable c then return .literal c false
    match c with
    | 'a' => return .literal '\x07' false
    | 'f' => return .literal '\x0c' false
    | 't' => return .literal '\t' false
    | 'n' => return .literal '\n' false
    | 'r' => return .literal '\r' false
    | 'v' => return .literal '\x0b' false
    | 'A' => return .look .start
    | 'z' => return .look .finish
    | 'b' => return .look (.word f.unicode (← wordLook))
    | 'B' => return .look (.word f.unicode .inside)
    | '<' => return .look (.word f.unicode .start)
    | '>' => return .look (.word f.unicode .finish)
    | _ => failure

/-- An escape, at its backslash. -/
def escape : Reader Primitive := do
  advance
  escaped (← current)

end Reader

end Admission.Pattern

import Admission.Unicode.Names

/-!
# Pattern expressions — what a value pattern says

  An expression is built from character sets and conditions on the place between two
  characters by sequence, choice and repetition. All abbreviations of the written
  form (classes, flags, dots, anchors) are resolved here: a set is a set, and each
  condition looks at nothing but the characters on both sides of its place.

  `spans` is the meaning of an expression: between which places of a text it
  matches. It is stated without any search.
-/

namespace Admission.Pattern

open Admission.Unicode

/-! ### Conditions on a place -/

/-- Conditions on a place that concern the words around it. -/
inductive WordLook where
  /-- A word begins or ends here. -/
  | boundary
  /-- No word begins or ends here. -/
  | inside
  /-- A word begins here. -/
  | start
  /-- A word ends here. -/
  | finish
  /-- No word character stands before. -/
  | startHalf
  /-- No word character stands after. -/
  | finishHalf
  deriving DecidableEq, Repr

/-- Conditions on a place in a text. -/
inductive Look where
  /-- The beginning of the text. -/
  | start
  /-- The end of the text. -/
  | finish
  /-- The beginning of a line ended by a line feed. -/
  | lineStart
  /-- The end of a line ended by a line feed. -/
  | lineFinish
  /-- The beginning of a line ended by a carriage return, a line feed or both. -/
  | returnLineStart
  /-- The end of a line ended by a carriage return, a line feed or both. -/
  | returnLineFinish
  /-- A condition on words, made of Unicode or of ASCII word characters. -/
  | word (unicode : Bool) (kind : WordLook)
  deriving DecidableEq, Repr

/-- The ASCII word characters: letters, digits and the underscore. -/
def asciiWord : CharSet := CharSet.ofRanges [(48, 57), (65, 90), (95, 95), (97, 122)]

/-- Whether a character, if there is one, is a word character. -/
def isWordAt (unicode : Bool) (c : Option Char) : Bool :=
  c.any (if unicode then Names.wordCharacters else asciiWord).contains

/-- Whether a condition holds between two characters; at an end of the text one of them
is missing. -/
def Look.holds (before after : Option Char) : Look → Bool
  | .start => before.isNone
  | .finish => after.isNone
  | .lineStart => before.isNone || before == some '\n'
  | .lineFinish => after.isNone || after == some '\n'
  | .returnLineStart =>
    before.isNone || before == some '\n' || (before == some '\r' && after != some '\n')
  | .returnLineFinish =>
    after.isNone || after == some '\r' || (after == some '\n' && before != some '\r')
  | .word u kind =>
    let b := isWordAt u before
    let a := isWordAt u after
    match kind with
    | .boundary => b != a
    | .inside => b == a
    | .start => !b && a
    | .finish => b && !a
    | .startHalf => !b
    | .finishHalf => !a

/-! ### Expressions -/

/-- What a value pattern says. -/
inductive Expr where
  /-- The empty text. -/
  | empty
  /-- One character of a set. -/
  | chars (set : CharSet)
  /-- Nothing, where a condition holds. -/
  | look (condition : Look)
  /-- Two expressions, one after the other. -/
  | seq (first second : Expr)
  /-- Either of two expressions. -/
  | alt (left right : Expr)
  /-- At least `min` and at most `max` times the same expression. -/
  | rep (body : Expr) (min : Nat) (max : Option Nat)
  /-- A group whose extent is recorded; it matches what its body matches. -/
  | capture (body : Expr)
  deriving Repr, Inhabited

namespace Expr

/-- Whether an expression can match nothing but the empty text, by its form. -/
def onlyEmpty : Expr → Bool
  | .empty => true
  | .chars _ => false
  | .look _ => true
  | .seq a b => a.onlyEmpty && b.onlyEmpty
  | .alt a b => a.onlyEmpty && b.onlyEmpty
  | .rep e _ max => e.onlyEmpty || max == some 0
  | .capture e => e.onlyEmpty

/-- Whether an expression always takes at least one character, by its form. -/
def takesSome : Expr → Bool
  | .empty => false
  | .chars _ => true
  | .look _ => false
  | .seq a b => a.takesSome || b.takesSome
  | .alt a b => a.takesSome && b.takesSome
  | .rep e min _ => e.takesSome && 0 < min
  | .capture e => e.takesSome

/-- A repetition in its plainest form: of an expression that matches only the empty text
one turn says as much as many, no turns are the empty text, and one turn is the
expression itself. -/
def repeated (e : Expr) (min : Nat) (max : Option Nat) : Expr :=
  let (min, max) :=
    if e.onlyEmpty then (Nat.min min 1, some ((max.map fun m => Nat.min m 1).getD 1)) else (min, max)
  if max = some 0 then .empty
  else if min = 1 && max = some 1 then e
  else .rep e min max

/-- Expressions one after the other. -/
def seqAll : List Expr → Expr
  | [] => .empty
  | [e] => e
  | e :: es => .seq e (seqAll es)

/-- Any of several expressions. -/
def altAll : List Expr → Expr
  | [] => .chars CharSet.empty
  | [e] => e
  | e :: es => .alt e (altAll es)

end Expr

/-! ### Meaning -/

/-- The character before a place of a text. -/
def charBefore (text : List Char) : Nat → Option Char
  | 0 => none
  | i + 1 => text[i]?

/-- The character after a place of a text. -/
def charAfter (text : List Char) (i : Nat) : Option Char := text[i]?

/-- A relation between places applied a number of times. -/
def Turns (step : Nat → Nat → Prop) : Nat → Nat → Nat → Prop
  | 0, i, j => i = j
  | n + 1, i, j => ∃ k, step i k ∧ Turns step n k j

/-- An expression matches a text from one place to another. -/
def Expr.spans (text : List Char) : Expr → Nat → Nat → Prop
  | .empty, i, j => i ≤ text.length ∧ i = j
  | .chars s, i, j => ∃ c, text[i]? = some c ∧ s.contains c = true ∧ j = i + 1
  | .look l, i, j =>
    i ≤ text.length ∧ l.holds (charBefore text i) (charAfter text i) = true ∧ i = j
  | .seq a b, i, j => ∃ k, a.spans text i k ∧ b.spans text k j
  | .alt a b, i, j => a.spans text i j ∨ b.spans text i j
  | .rep e min max, i, j =>
    i ≤ text.length ∧ ∃ n, min ≤ n ∧ (∀ m, max = some m → n ≤ m) ∧ Turns (e.spans text) n i j
  | .capture e, i, j => e.spans text i j

/-- An expression matches somewhere in a text. -/
def Expr.occursIn (text : List Char) (e : Expr) : Prop := ∃ i j, e.spans text i j

/-- The language of an expression: the texts that it matches from end to end. -/
def Expr.matchesWhole (e : Expr) (text : List Char) : Prop := e.spans text 0 text.length

end Admission.Pattern

import Admission.Pattern.Expr

/-!
# Plans — the form in which a pattern is built

  Before automata are made of a pattern it is brought into a plainer form, which says
  the same with fewer parts. Neighbouring characters are joined to a text and empty
  parts are left out; a choice inside a choice is part of the outer one, a choice
  between single characters is one set, and what all branches of a choice begin with
  is moved in front of it.

  How large the automata become depends on this form alone, so a plan keeps what
  makes no difference to the texts that match but can tell two parts apart: whether a
  repetition prefers few turns, and which group it is whose extent is recorded.
-/

namespace Admission.Pattern

open Admission.Unicode

/-- A pattern in its plain form. -/
inductive Plan where
  /-- The empty text. -/
  | nothing
  /-- A condition on a place. -/
  | look (condition : Look)
  /-- Some given characters, one after the other. -/
  | text (chars : List Char)
  /-- One character of a set. -/
  | set (set : CharSet)
  /-- Several parts, one after the other. -/
  | seq (parts : List Plan)
  /-- Any of several branches. -/
  | choice (branches : List Plan)
  /-- At least `min` and at most `max` times the same plan. -/
  | rep (body : Plan) (min : Nat) (max : Option Nat) (lazy : Bool)
  /-- A group whose extent is recorded; no two groups have the same number. -/
  | group (number : Nat) (body : Plan)
  deriving Inhabited

namespace Plan

/-! ### Equality -/

mutual

/-- Whether two plans are the same. -/
def same : Plan → Plan → Bool
  | .nothing, .nothing => true
  | .look a, .look b => a == b
  | .text a, .text b => a == b
  | .set a, .set b => a == b
  | .seq a, .seq b => sameAll a b
  | .choice a, .choice b => sameAll a b
  | .rep a min max lazy, .rep b min' max' lazy' =>
    min == min' && max == max' && lazy == lazy' && same a b
  | .group m a, .group n b => m == n && same a b
  | _, _ => false

/-- Whether two lists of plans are the same. -/
def sameAll : List Plan → List Plan → Bool
  | [], [] => true
  | a :: as, b :: bs => same a b && sameAll as bs
  | _, _ => false

end

/-! ### Measures -/

mutual

/-- Whether a plan can match nothing but the empty text, by its form. -/
def onlyEmpty : Plan → Bool
  | .nothing => true
  | .look _ => true
  | .text _ => false
  | .set _ => false
  | .seq parts => onlyEmptyAll parts
  | .choice branches => onlyEmptyAll branches
  | .rep body _ _ _ => body.onlyEmpty
  | .group _ body => body.onlyEmpty

/-- Whether none of several plans can match more than the empty text, by their form. -/
def onlyEmptyAll : List Plan → Bool
  | [] => true
  | p :: ps => p.onlyEmpty && onlyEmptyAll ps

end

mutual

/-- The least number of characters that a plan takes; it is not known for a plan one of
whose parts can match nothing at all. -/
def least : Plan → Option Nat
  | .nothing => some 0
  | .look _ => some 0
  | .text chars => some chars.length
  | .set s => if s.isEmpty then none else some 1
  | .seq parts => leastInSequence parts
  | .choice branches => leastInChoice branches
  | .rep body min _ _ => body.least.map (· * min)
  | .group _ body => body.least

/-- The sum of what several plans take. -/
def leastInSequence : List Plan → Option Nat
  | [] => some 0
  | p :: ps => p.least.bind fun m => (leastInSequence ps).map (m + ·)

/-- The least of what several plans take. -/
def leastInChoice : List Plan → Option Nat
  | [] => none
  | [p] => p.least
  | p :: ps => p.least.bind fun m => (leastInChoice ps).map (Nat.min m)

end

mutual

/-- Whether every match of a plan begins where a condition holds, by its form. -/
def opensWith (l : Look) : Plan → Bool
  | .look k => k == l
  | .seq parts => sequenceOpensWith l parts
  | .choice branches => eachOpensWith l branches
  | .rep body min _ _ => 0 < min && body.opensWith l
  | .group _ body => body.opensWith l
  | _ => false

/-- Whether one of several parts begins where a condition holds, with nothing before it. -/
def sequenceOpensWith (l : Look) : List Plan → Bool
  | [] => false
  | p :: ps => p.opensWith l || (p.onlyEmpty && sequenceOpensWith l ps)

/-- Whether each of several branches begins where a condition holds. -/
def eachOpensWith (l : Look) : List Plan → Bool
  | [] => true
  | p :: ps => p.opensWith l && eachOpensWith l ps

end

mutual

/-- Whether every match of a plan ends where a condition holds, by its form. -/
def closesWith (l : Look) : Plan → Bool
  | .look k => k == l
  | .seq parts => sequenceClosesWith l parts
  | .choice branches => eachClosesWith l branches
  | .rep body min _ _ => 0 < min && body.closesWith l
  | .group _ body => body.closesWith l
  | _ => false

/-- Whether one of several parts ends where a condition holds, with nothing after it. -/
def sequenceClosesWith (l : Look) : List Plan → Bool
  | [] => false
  | p :: ps => sequenceClosesWith l ps || (onlyEmptyAll ps && p.closesWith l)

/-- Whether each of several branches ends where a condition holds. -/
def eachClosesWith (l : Look) : List Plan → Bool
  | [] => true
  | p :: ps => p.closesWith l && eachClosesWith l ps

end

/-! ### Sets -/

/-- The plan of a set. A set of one character is a text. -/
def ofSet (s : CharSet) : Plan :=
  let s := s.diff (CharSet.range 0xd800 0xdfff)
  match s.ranges with
  | [(lo, hi)] => if lo = hi then .text [Char.ofNat lo] else .set s
  | _ => .set s

/-- The set of a plan that takes exactly one character. -/
def set? : Plan → Option CharSet
  | .set s => some s
  | .text [c] => some (CharSet.single c)
  | _ => none

/-! ### Sequences -/

/-- The parts of a plan that stand one after the other. -/
def parts : Plan → List Plan
  | .nothing => []
  | .seq ps => ps
  | p => [p]

/-- Parts with neighbouring texts joined. -/
def joinTexts : List Plan → List Plan
  | [] => []
  | .text a :: rest =>
    match joinTexts rest with
    | .text b :: more => .text (a ++ b) :: more
    | joined => .text a :: joined
  | p :: rest => p :: joinTexts rest

/-- Plans one after the other. -/
def sequence (plans : List Plan) : Plan :=
  match joinTexts (plans.flatMap parts) with
  | [] => .nothing
  | [p] => p
  | ps => .seq ps

/-! ### Choices -/

/-- The branches of a plan between which it chooses. -/
def branches : Plan → List Plan
  | .choice bs => bs
  | p => [p]

/-- The parts with which both of two sequences begin. -/
def commonStart : List Plan → List Plan → List Plan
  | p :: ps, q :: qs => if p.same q then p :: commonStart ps qs else []
  | _, _ => []

/-- The parts of a plan that has two or more. -/
def sequence? : Plan → Option (List Plan)
  | .seq ps => some ps
  | _ => none

/-- The parts with which all of several branches begin; there are none unless all branches
have two or more parts. -/
def sharedStart (branches : List Plan) : List Plan :=
  match branches.mapM sequence? with
  | some (first :: others) => others.foldl commonStart first
  | _ => []

/-- A choice between branches that are no choices themselves, where `otherwise` makes the
choice between two or more of them that are not all single characters. -/
def chooseAmong (otherwise : List Plan → Plan) (branches : List Plan) : Plan :=
  match branches with
  | [] => .set CharSet.empty
  | [p] => p
  | ps =>
    match ps.mapM set? with
    | some sets => ofSet (sets.foldl CharSet.union CharSet.empty)
    | none => otherwise ps

/-- A choice between plans. What all branches begin with is moved in front; what is left of
them has nothing in common any more. -/
def choose (plans : List Plan) : Plan :=
  chooseAmong
    (fun ps =>
      match sharedStart ps with
      | [] => .choice ps
      | shared =>
        let rests := ps.map fun p => sequence (p.parts.drop shared.length)
        sequence (shared ++ [chooseAmong .choice (rests.flatMap branches)]))
    (plans.flatMap branches)

/-! ### Repetitions -/

/-- A plan repeated. Of a plan that matches only the empty text one turn says as much as
many, no turns are the empty text, and one turn is the plan itself. -/
def repeated (p : Plan) (min : Nat) (max : Option Nat) (lazy : Bool) : Plan :=
  let (min, max) :=
    if p.onlyEmpty then (Nat.min min 1, some ((max.map fun m => Nat.min m 1).getD 1)) else (min, max)
  if max = some 0 then .nothing
  else if min = 1 && max = some 1 then p
  else .rep p min max lazy

end Plan

end Admission.Pattern

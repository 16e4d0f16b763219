import Admission.Pattern.Expr

/-!
# Search — whether an expression matches somewhere in a text

  The places of a text of `n` characters are the numbers from 0 to `n`, and a set of
  places is one natural number whose bits tell its members. An expression laid over a
  text (`Scan`) carries such a number wherever the expression speaks of characters:
  the places at which the next character belongs to the set, or at which the
  condition holds.

  `Scan.finish` maps the places from which a match may start to the places at which
  it may end, for all of them at once. One character is a mask and a shift; sequence
  is composition and choice is union. A repetition follows only the places it has not
  reached before, so it takes at most `n + 1` turns, and no text makes the search
  take more than a number of steps bounded by the sizes of text and expression.
-/

namespace Admission.Pattern

/-! ### Sets of places -/

/-- The number whose bits are the answers of a list, first answer lowest. -/
def bitsOf : List Bool → Nat
  | [] => 0
  | b :: bs => 2 * bitsOf bs + b.toNat

/-- The characters around each place of a text, the character before the first place
being given. -/
def gaps (before : Option Char) : List Char → List (Option Char × Option Char)
  | [] => [(before, none)]
  | c :: cs => (before, some c) :: gaps (some c) cs

/-- All places of a text. -/
def allPlaces (text : List Char) : Nat := (1 <<< (text.length + 1)) - 1

/-- The places whose next character belongs to a set. -/
def placesBefore (text : List Char) (s : Unicode.CharSet) : Nat :=
  bitsOf (text.map s.contains)

/-- The places at which a condition holds. -/
def placesWhere (text : List Char) (l : Look) : Nat :=
  bitsOf ((gaps none text).map fun g => l.holds g.1 g.2)

/-! ### Expressions over a text -/

/-- An expression laid over a text. -/
inductive Scan where
  /-- Stays where it is. -/
  | stay
  /-- Takes one character from the marked places. -/
  | advance (places : Nat)
  /-- Stays at the marked places. -/
  | hold (places : Nat)
  /-- One scan after the other. -/
  | seq (first second : Scan)
  /-- Either of two scans. -/
  | alt (left right : Scan)
  /-- At least `min` and at most `max` times the same scan. -/
  | rep (body : Scan) (min : Nat) (max : Option Nat)
  deriving Repr, Inhabited

/-- An expression with its sets and conditions looked up in a text. -/
def Expr.over (text : List Char) : Expr → Scan
  | .empty => .stay
  | .chars s => .advance (placesBefore text s)
  | .look l => .hold (placesWhere text l)
  | .seq a b => .seq (a.over text) (b.over text)
  | .alt a b => .alt (a.over text) (b.over text)
  | .rep e min max => .rep (e.over text) min max
  | .capture e => e.over text

/-! ### Following a scan -/

/-- Exactly `n` turns. -/
def exactTurns (turn : Nat → Nat) : Nat → Nat → Nat
  | 0, places => places
  | n + 1, places => if places = 0 then 0 else exactTurns turn n (turn places)

/-- The places reached by at most `n` turns: `seen` holds those reached so far and `fresh`
those of them from which no turn was followed yet. -/
def reach (turn : Nat → Nat) : Nat → Nat → Nat → Nat
  | 0, seen, _ => seen
  | n + 1, seen, fresh =>
    let next := turn fresh
    let new := next ^^^ (next &&& seen)
    if new = 0 then seen else reach turn n (seen ||| new) new

/-- The number of turns that may follow the `min` turns of a repetition over a text of `n`
characters; more than `n + 1` lead nowhere new. There is none if fewer than `min` turns are
allowed. -/
def furtherTurns (n min : Nat) : Option Nat → Option Nat
  | none => some (n + 1)
  | some max => if max < min then none else some (max - min)

/-- The places reached by the turns that may follow, if any number of them may. -/
def reachFurther (turn : Nat → Nat) (start : Nat) : Option Nat → Nat
  | none => 0
  | some turns => reach turn turns start start

/-- The places at which a scan of a text of `n` characters may end when it starts at one
of the given places. -/
def Scan.finish (n : Nat) : Scan → Nat → Nat
  | .stay, places => places
  | .advance marked, places => (places &&& marked) <<< 1
  | .hold marked, places => places &&& marked
  | .seq a b, places => b.finish n (a.finish n places)
  | .alt a b, places => a.finish n places ||| b.finish n places
  | .rep e min max, places =>
    reachFurther (e.finish n) (exactTurns (e.finish n) min places) (furtherTurns n min max)

/-- Whether an expression matches somewhere in a text. -/
def Expr.search (e : Expr) (text : List Char) : Bool :=
  (e.over text).finish text.length (allPlaces text) != 0

end Admission.Pattern

import Admission.Pattern.Plan
import Std.Data.HashMap

/-!
# Footprint — how much room a plan takes

  A pattern is refused when the automata that it would be turned into are too large.
  They work on the bytes of UTF-8, one automaton reading a text forwards and one
  backwards, and a state takes 32 bytes besides its lists of targets and transitions.
  Repetitions are unrolled, so `a{1000}` takes a thousand times what `a` takes. The
  states are counted here in the order in which they are made; none is kept.

  A set of characters is the costly part: its ranges are cut into sequences of byte
  ranges. Forwards these share their endings and backwards their beginnings, as far as
  a table of limited size remembers that a state has been made. Since places in the
  table are found by the numbers of states, the count depends on how many states have
  been made before.

  Counting stops soon after the limit is passed, however often a part is repeated.
-/

namespace Admission.Pattern

open Admission.Unicode

/-! ### Tallies -/

/-- The states made so far. -/
structure Tally where
  /-- The number of states, which is the number of the next one. -/
  states : Nat := 0
  /-- The bytes that they take. -/
  bytes : Nat := 0
  deriving DecidableEq, Repr, Inhabited

/-- The tally with one more state, which has lists of a number of bytes. -/
def Tally.state (t : Tally) (lists : Nat) : Tally := ⟨t.states + 1, t.bytes + 32 + lists⟩

/-- The tally with a number of states without lists. -/
def Tally.plain (t : Tally) (n : Nat) : Tally := ⟨t.states + n, t.bytes + 32 * n⟩

/-- The tally with a state that leads to a number of others. -/
def Tally.fork (t : Tally) (targets : Nat) : Tally := t.state (4 * targets)

/-- The tally with a state that has a number of transitions. -/
def Tally.step (t : Tally) (transitions : Nat) : Tally := t.state (8 * transitions)

/-- The greatest number of bytes that an automaton may take. -/
def sizeLimit : Nat := 10 * 1024 * 1024

/-- A tally after something is made a number of times; nothing more is made above the
limit. -/
def Tally.repeated (make : Tally → Tally) : Nat → Tally → Tally
  | 0, t => t
  | n + 1, t => if sizeLimit < t.bytes then t else Tally.repeated make n (make t)

/-! ### Tables of states -/

/-- A number that spreads lists of numbers evenly: each number is joined to the bits so far,
which then are multiplied by a large prime. -/
def mixed (numbers : List Nat) : UInt64 :=
  numbers.foldl (fun h n => (h ^^^ n.toUInt64) * 0x100000001b3) 0xcbf29ce484222325

/-- A table of states, in which every key has one place; a state is forgotten when another
one takes its place. -/
structure Places (κ : Type) where
  /-- The keys and numbers of the states by their places. -/
  taken : Std.HashMap Nat (κ × Nat) := {}

namespace Places

variable {κ : Type} [DecidableEq κ]

/-- The state at a place, if it is the one of a key. -/
def find? (table : Places κ) (place : Nat) (key : κ) : Option Nat :=
  match table.taken[place]? with
  | some (k, n) => if k = key then some n else none
  | none => none

/-- The table with a state at a place. -/
def put (table : Places κ) (place : Nat) (key : κ) (n : Nat) : Places κ :=
  ⟨table.taken.insert place (key, n)⟩

end Places

/-! ### Sequences of byte ranges -/

/-- A range of bytes. -/
abbrev ByteRange := Nat × Nat

/-- The bytes of a code point in UTF-8, of which there are `n`. -/
def utf8Bytes (n code : Nat) : List Nat :=
  match n with
  | 1 => [code]
  | 2 => [0xc0 + code / 64, 0x80 + code % 64]
  | 3 => [0xe0 + code / 4096, 0x80 + code / 64 % 64, 0x80 + code % 64]
  | _ => [0xf0 + code / 262144, 0x80 + code / 4096 % 64, 0x80 + code / 64 % 64,
      0x80 + code % 64]

/-- Cuts a range of code points of equal length where their leading bytes differ and the
range does not fill the bytes that follow; `level` is the number of bytes still to be
looked at. -/
def cutAtBytes : Nat → Nat → Nat × Nat → List (Nat × Nat)
  | 0, _, r => [r]
  | _, 0, r => [r]
  | fuel + 1, level + 1, (lo, hi) =>
    let step := Nat.pow 64 (level + 1)
    if lo / step = hi / step then cutAtBytes fuel level (lo, hi)
    else
      if lo % step ≠ 0 then
        let border := lo / step * step + step
        cutAtBytes fuel level (lo, border - 1) ++ cutAtBytes fuel (level + 1) (border, hi)
      else if hi % step ≠ step - 1 then
        let border := hi / step * step
        cutAtBytes fuel (level + 1) (lo, border - 1) ++ cutAtBytes fuel level (border, hi)
      else [(lo, hi)]

/-- The parts of a range with code points of one, two, three and four bytes, without the
surrogates, each with its number of bytes. -/
def byLength (r : Nat × Nat) : List (Nat × Nat × Nat) :=
  [(1, 0, 0x7f), (2, 0x80, 0x7ff), (3, 0x800, 0xd7ff), (3, 0xe000, 0xffff),
    (4, 0x10000, 0x10ffff)].filterMap fun (n, lo, hi) =>
      let lo := Nat.max lo r.1
      let hi := Nat.min hi r.2
      if lo ≤ hi then some (n, lo, hi) else none

/-- The sequences of byte ranges that spell exactly the code points of a range. -/
def byteSequences (r : Nat × Nat) : List (List ByteRange) :=
  (byLength r).flatMap fun (n, lo, hi) =>
    (cutAtBytes 16 (n - 1) (lo, hi)).map fun (a, b) => (utf8Bytes n a).zip (utf8Bytes n b)

/-- The sequences of byte ranges of a set. -/
def setSequences (s : CharSet) : List (List ByteRange) := s.ranges.flatMap byteSequences

/-! ### Sets forwards -/

/-- Groups neighbours that begin with the same byte range. -/
def groupByFirst : List (List ByteRange) → List (ByteRange × List (List ByteRange))
  | [] => []
  | [] :: rest => groupByFirst rest
  | (r :: tail) :: rest =>
    match groupByFirst rest with
    | (q, tails) :: groups =>
      if q = r then (r, tail :: tails) :: groups else (r, [tail]) :: (q, tails) :: groups
    | [] => [(r, [tail])]

/-- The transitions of a state: byte ranges with the states to which they lead. -/
abbrev Transitions := List (ByteRange × Nat)

/-- The number of places for states that are reached by several byte ranges. -/
def forwardPlaces : Nat := 10000

/-- The place of a state with given transitions. -/
def forwardPlace (ts : Transitions) : Nat :=
  (mixed (ts.flatMap fun (r, target) => [r.1, r.2, target])).toNat % forwardPlaces

/-- The state from which given sequences lead to a last state; a state with the same
transitions that is remembered is taken instead of a new one. -/
def forwardNode (last : Nat) :
    Nat → List (List ByteRange) → Tally × Places Transitions → Nat × Tally × Places Transitions
  | 0, _, made => (last, made)
  | depth + 1, sequences, made =>
    let groups := groupByFirst sequences
    if groups.isEmpty then (last, made)
    else
      let (reversed, made) :=
        groups.foldl (fun (done, made) (r, tails) =>
          let (target, made) := forwardNode last depth tails made
          ((r, target) :: done, made)) ([], made)
      let ts := reversed.reverse
      let place := forwardPlace ts
      match made.2.find? place ts with
      | some n => (n, made)
      | none => (made.1.states, made.1.step ts.length, made.2.put place ts made.1.states)

/-- Makes the states of sequences of byte ranges, read forwards. -/
def Tally.forwardSet (t : Tally) (sequences : List (List ByteRange)) : Tally :=
  (forwardNode t.states 5 sequences (t.plain 1, {})).2.1

/-! ### Sets backwards -/

/-- The number of places for states that precede another one by a byte range. -/
def backwardPlaces : Nat := 1000

/-- The place of the state that precedes another one by a byte range. -/
def backwardPlace (key : Nat × ByteRange) : Nat :=
  (mixed [key.1, key.2.1, key.2.2]).toNat % backwardPlaces

/-- Makes the chain of one sequence, from its last state on. -/
def backwardChain (last : Nat) (made : Tally × Places (Nat × ByteRange))
    (sequence : List ByteRange) : Tally × Places (Nat × ByteRange) :=
  (sequence.foldl (fun (target, made) r =>
    let key := (target, r)
    let place := backwardPlace key
    match made.2.find? place key with
    | some n => (n, made)
    | none => (made.1.states, made.1.plain 1, made.2.put place key made.1.states))
    (last, made)).2

/-- Makes the states of sequences of byte ranges, read backwards: a state that leads to all
chains, the one in which they end, and the chains. -/
def Tally.backwardSet (t : Tally) (sequences : List (List ByteRange)) : Tally :=
  let forked := t.fork sequences.length
  (sequences.foldl (backwardChain forked.states) (forked.plain 1, {})).1

/-- Makes the states of a set. Of ASCII characters alone it is one state with all
transitions and the one to which they lead. -/
def Tally.set (t : Tally) (backward : Bool) (s : CharSet) : Tally :=
  if s.isAscii then (t.plain 1).step s.ranges.length
  else if backward then t.backwardSet (setSequences s)
  else t.forwardSet (setSequences s)

/-! ### Choices between texts -/

/-- The bytes of a text. -/
def textBytes (chars : List Char) : List Nat :=
  chars.flatMap fun c => utf8Bytes c.utf8Size c.toNat

/-- Words with their first byte set apart, those with the same first byte together. -/
def groupByHead : List (List Nat) → List (Nat × List (List Nat))
  | [] => []
  | [] :: words => groupByHead words
  | (b :: tail) :: words => insert b tail (groupByHead words)
where
  /-- Puts a word in front of those with the same first byte. -/
  insert (b : Nat) (tail : List Nat) :
      List (Nat × List (List Nat)) → List (Nat × List (List Nat))
    | [] => [(b, [tail])]
    | (c, tails) :: groups =>
      if c = b then (c, (tail :: tails)) :: groups else (c, tails) :: insert b tail groups

/-- Cuts a list of words at its empty words. -/
def stretches : List (List Nat) → List (List (List Nat))
  | [] => [[]]
  | [] :: words => [] :: stretches words
  | word :: words =>
    match stretches words with
    | first :: others => (word :: first) :: others
    | [] => [[word]]

/-- A list of words without the empty words that follow an empty first word. -/
def endOnce : List (List Nat) → List (List Nat)
  | [] :: words => [] :: words.dropWhile List.isEmpty
  | words => words

/-- Makes the states that tell words apart byte by byte. Where a word ends that is not the
last one, the words before it are preferred to it and it to the words after it, so each
stretch of words between two ends has a state of its own. -/
def Tally.words : Nat → List (List Nat) → Tally → Tally
  | 0, _, t => t
  | fuel + 1, words, t =>
    let chunks := (stretches (endOnce words)).map groupByHead
    let t := chunks.foldl (fun t groups =>
      let t := groups.foldl (fun t (_, tails) =>
        if tails.all List.isEmpty then t else Tally.words fuel tails t) t
      match groups with
      | [] => t
      | [_] => t.plain 1
      | _ => t.step groups.length) t
    t.fork ((chunks.filter fun groups => !groups.isEmpty).length + (chunks.length - 1))

/-- Makes the states of a choice between texts: the one in which they end and those that
tell them apart. -/
def Tally.texts (t : Tally) (backward : Bool) (texts : List (List Char)) : Tally :=
  let words := texts.map fun chars =>
    if backward then (textBytes chars).reverse else textBytes chars
  (t.plain 1).words ((words.map List.length).foldl Nat.max 0 + 1) words

/-! ### Plans -/

/-- The characters of a plan that is a text. -/
def Plan.text? : Plan → Option (List Char)
  | .text chars => some chars
  | _ => none

mutual

/-- Makes the states of a plan. A choice takes a state where it parts and one where it
meets; a repetition takes its body as often as it may be needed and a state for each turn
that may be left out. The ends of a group are marked when reading forwards. -/
def Plan.tally (backward : Bool) : Plan → Tally → Tally
  | .nothing, t => t.plain 1
  | .look _, t => t.plain 1
  | .text chars, t => t.plain (textBytes chars).length
  | .set s, t => t.set backward s
  | .seq parts, t => if backward then tallyLast backward parts t else tallyFirst backward parts t
  | .choice branches, t =>
    match branches.mapM Plan.text? with
    | some texts => t.texts backward texts
    | none => tallyBranches backward branches.length branches t
  | .rep body min max _, t =>
    match max with
    | none =>
      if 0 < min then (t.repeated (body.tally backward) min).fork 2
      else if body.least.any (0 < ·) then body.tally backward (t.fork 2)
      else (((body.tally backward t).fork 2).fork 2).plain 1
    | some m =>
      if m ≤ min then t.repeated (body.tally backward) min
      else if m = 1 then (body.tally backward (t.fork 2)).plain 1
      else
        let t := if min = 0 then t.plain 1 else t.repeated (body.tally backward) min
        (t.plain 1).repeated (fun t => body.tally backward (t.fork 2)) (m - min)
  | .group _ body, t =>
    if backward then body.tally backward t else (body.tally backward (t.plain 1)).plain 1

/-- Makes the states of parts, the first one first. -/
def Plan.tallyFirst (backward : Bool) : List Plan → Tally → Tally
  | [], t => t
  | p :: ps, t => tallyFirst backward ps (p.tally backward t)

/-- Makes the states of parts, the last one first. -/
def Plan.tallyLast (backward : Bool) : List Plan → Tally → Tally
  | [], t => t
  | p :: ps, t => p.tally backward (tallyLast backward ps t)

/-- Makes the states of the branches of a choice that has a given number of them; the
states in which it parts and meets are made after its second branch. -/
def Plan.tallyBranches (backward : Bool) (total : Nat) : List Plan → Tally → Tally
  | [], t => t
  | [p], t => ((p.tally backward t).fork total).plain 1
  | p :: q :: ps, t =>
    tallyFirst backward ps (((q.tally backward (p.tally backward t)).fork total).plain 1)

end

/-- The bytes that the automaton of a plan takes. It begins with a state of its own or,
unless every match begins where the text does, with a loop over all bytes. Reading
forwards, it marks the ends of the match. -/
def Plan.footprint (backward : Bool) (p : Plan) : Nat :=
  let bound := if backward then p.closesWith .finish else p.opensWith .start
  let start : Tally := {}
  let start := if bound then start.plain 1 else ((start.fork 2).plain 1).step 1
  let whole := if backward then p.tally backward start
    else (p.tally backward (start.plain 1)).plain 1
  (whole.plain 1).bytes

/-- Whether both automata of a plan keep within the limit. -/
def Plan.isSmallEnough (p : Plan) : Bool :=
  p.footprint false ≤ sizeLimit && p.footprint true ≤ sizeLimit

end Admission.Pattern

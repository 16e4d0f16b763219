/-!
# Character sets — sorted points of change

  A set of code points is written as the ascending list of the points at which
  membership changes: below the first point nothing belongs to the set, from the
  first to the second everything does, and so on. A set that reaches to the end of
  the code space has an odd number of points.

  In this form every Boolean operation is the same sweep over two lists, so union,
  intersection, difference and complement differ only in the table of truth values
  they are given.

  Large sets are kept in the library as packed text: the distances between the
  points, each in base 32, least digit first, where a digit above 31 says that
  another one follows.
-/

namespace Admission.Unicode

/-- A set of code points. -/
structure CharSet where
  /-- The points at which membership changes, ascending. -/
  changes : List Nat
  deriving DecidableEq, Repr, Inhabited

namespace CharSet

/-! ### Membership -/

/-- Membership of `n`, where `here` tells it for what lies below all the points. -/
def inside (here : Bool) : List Nat → Nat → Bool
  | [], _ => here
  | k :: ks, n => if n < k then here else inside (!here) ks n

/-- Whether a code point belongs to the set. -/
def hasCode (s : CharSet) (n : Nat) : Bool := inside false s.changes n

/-- Whether a character belongs to the set. -/
def contains (s : CharSet) (c : Char) : Bool := s.hasCode c.toNat

/-! ### Construction -/

/-- The set without characters. -/
def empty : CharSet := ⟨[]⟩

/-- The set of all characters. -/
def full : CharSet := ⟨[0]⟩

/-- The code points from `lo` to `hi`. -/
def range (lo hi : Nat) : CharSet := if hi < lo then empty else ⟨[lo, hi + 1]⟩

/-- The set of one character. -/
def single (c : Char) : CharSet := range c.toNat c.toNat

@[simp] theorem contains_empty (c : Char) : empty.contains c = false := rfl

@[simp] theorem contains_full (c : Char) : full.contains c = true := by
  simp [contains, hasCode, full, inside]

theorem hasCode_range (lo hi n : Nat) :
    (range lo hi).hasCode n = decide (lo ≤ n ∧ n ≤ hi) := by
  unfold range
  split
  · simp only [hasCode, empty, inside]
    exact (decide_eq_false (by omega)).symm
  · simp only [hasCode, inside]
    by_cases h1 : n < lo
    · have below : ¬ lo ≤ n := by omega
      simp [h1, below]
    · have above : lo ≤ n := by omega
      by_cases h2 : n < hi + 1
      · have inside : n ≤ hi := by omega
        simp [h1, h2, above, inside]
      · have outside : ¬ n ≤ hi := by omega
        simp [h1, h2, above, outside]

/-- A one-character set holds that character only. -/
theorem contains_single (c d : Char) : (single c).contains d = decide (d = c) := by
  simp only [single, contains, hasCode_range, decide_eq_decide]
  constructor
  · intro h
    exact Char.toNat_inj.1 (by omega)
  · rintro rfl
    omega

/-! ### Boolean operations -/

/-- Sweeps two lists of points; `a` and `b` tell the memberships so far and `out` the
membership written so far. -/
def sweep (op : Bool → Bool → Bool) : Bool → Bool → Bool → List Nat → List Nat → List Nat
  | _, _, _, [], [] => []
  | a, b, out, x :: xs, [] =>
    let now := op (!a) b
    if now = out then sweep op (!a) b out xs [] else x :: sweep op (!a) b now xs []
  | a, b, out, [], y :: ys =>
    let now := op a (!b)
    if now = out then sweep op a (!b) out [] ys else y :: sweep op a (!b) now [] ys
  | a, b, out, x :: xs, y :: ys =>
    if x < y then
      let now := op (!a) b
      if now = out then sweep op (!a) b out xs (y :: ys)
      else x :: sweep op (!a) b now xs (y :: ys)
    else if y < x then
      let now := op a (!b)
      if now = out then sweep op a (!b) out (x :: xs) ys
      else y :: sweep op a (!b) now (x :: xs) ys
    else
      let now := op (!a) (!b)
      if now = out then sweep op (!a) (!b) out xs ys
      else x :: sweep op (!a) (!b) now xs ys
termination_by _ _ _ xs ys => xs.length + ys.length

/-- The set of code points whose memberships in two sets the operation joins to true.
What belongs to neither set must not belong to the result. -/
def combine (op : Bool → Bool → Bool) (s t : CharSet) : CharSet :=
  ⟨sweep op false false false s.changes t.changes⟩

/-- Members of either set. -/
def union (s t : CharSet) : CharSet := combine (· || ·) s t

/-- Members of both sets. -/
def inter (s t : CharSet) : CharSet := combine (· && ·) s t

/-- Members of the first set that are not in the second. -/
def diff (s t : CharSet) : CharSet := combine (fun a b => a && !b) s t

/-- Members of exactly one of the sets. -/
def symmDiff (s t : CharSet) : CharSet := combine Bool.xor s t

/-- What does not belong to the set. -/
def complement (s : CharSet) : CharSet :=
  match s.changes with
  | 0 :: rest => ⟨rest⟩
  | points => ⟨0 :: points⟩

theorem inside_not (here : Bool) (ks : List Nat) (n : Nat) :
    inside (!here) ks n = !inside here ks n := by
  induction ks generalizing here with
  | nil => rfl
  | cons k ks ih =>
    unfold inside
    split
    · rfl
    · exact ih (!here)

/-- The complement holds exactly what the set does not. -/
theorem hasCode_complement (s : CharSet) (n : Nat) :
    s.complement.hasCode n = !s.hasCode n := by
  obtain ⟨points⟩ := s
  unfold complement hasCode
  match points with
  | [] => rfl
  | 0 :: rest =>
    change inside false rest n = !inside false (0 :: rest) n
    have : inside false (0 :: rest) n = inside true rest n := by simp [inside]
    rw [this, ← inside_not true rest n]
    rfl
  | (k + 1) :: rest =>
    change inside false (0 :: (k + 1) :: rest) n = !inside false ((k + 1) :: rest) n
    have : inside false (0 :: (k + 1) :: rest) n = inside true ((k + 1) :: rest) n := by
      simp [inside]
    rw [this, ← inside_not false ((k + 1) :: rest) n]
    rfl

/-! ### Ranges and points -/

/-- The last code point. -/
def lastCode : Nat := 0x10ffff

/-- The maximal runs of consecutive points of change, as inclusive ranges. -/
def rangesOf : List Nat → List (Nat × Nat)
  | [] => []
  | [lo] => [(lo, lastCode)]
  | lo :: hi :: rest => (lo, hi - 1) :: rangesOf rest

/-- The ranges of the set, ascending. -/
def ranges (s : CharSet) : List (Nat × Nat) := rangesOf s.changes

/-- Whether the set holds ASCII characters only. -/
def isAscii (s : CharSet) : Bool := s.ranges.all (fun r => r.2 < 0x80)

/-- Whether the set holds no character. -/
def isEmpty (s : CharSet) : Bool := s.changes.isEmpty

/-- The points of change of a set given by its ascending members. -/
def changesOf : List Nat → List Nat
  | [] => []
  | n :: ns =>
    match changesOf ns with
    | m :: rest =>
      if m = n + 1 then n :: rest
      else if m = n then m :: rest
      else n :: (n + 1) :: m :: rest
    | [] => [n, n + 1]

/-- The set with the given members, in any order. -/
def ofCodes (ns : List Nat) : CharSet := ⟨changesOf (ns.mergeSort (· ≤ ·))⟩

/-- The set made of the given ranges, in any order. -/
def ofRanges (rs : List (Nat × Nat)) : CharSet :=
  rs.foldl (fun s r => s.union (range r.1 r.2)) empty

/-! ### Packed text -/

/-- The value of one digit of packed text: the ten digits, the small letters, the
capital letters, the point and the underscore, in this order. -/
def digitValue (c : Char) : Nat :=
  if c.isDigit then c.toNat - 48
  else if c.isLower then c.toNat - 97 + 10
  else if c.isUpper then c.toNat - 65 + 36
  else if c = '.' then 62 else 63

/-- Reads packed numbers; `scale` and `sum` belong to the number under way. -/
def unpackFrom (scale sum : Nat) : List Char → List Nat
  | [] => []
  | c :: cs =>
    let d := digitValue c
    if d < 32 then (sum + d * scale) :: unpackFrom 1 0 cs
    else unpackFrom (scale * 32) (sum + (d - 32) * scale) cs

/-- The numbers of a packed text. -/
def unpack (lines : List String) : List Nat :=
  unpackFrom 1 0 (lines.flatMap String.toList)

/-- Running totals. -/
def totals (start : Nat) : List Nat → List Nat
  | [] => []
  | d :: ds => (start + d) :: totals (start + d) ds

/-- The set whose distances between points of change are packed in the lines. -/
def packed (lines : List String) : CharSet := ⟨totals 0 (unpack lines)⟩

end CharSet

end Admission.Unicode

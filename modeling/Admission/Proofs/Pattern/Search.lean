import Admission.Pattern.Search
import Mathlib.Data.Nat.Bitwise

/-!
# Search — the places that are found are those that are meant

  `Scan.finish` works on sets of places kept as the bits of numbers, while `Expr.spans`
  says between which two places an expression matches. The two agree: from a set of
  places, `finish` leads exactly to the places to which the expression leads from one of
  them (`mem_finish`), so a search finds an expression exactly if it occurs
  (`search_iff_occursIn`).

  The case with an argument in it is the repetition. It follows only places that are new
  and stops after `n + 1` turns. Nothing is lost by that, since what was reached stays
  reached (`mem_reach`), and since no expression leads backwards, so the turns that stay
  where they are can be left out (`Turns.shorten`).
-/

namespace Admission.Pattern

open Admission.Unicode

/-! ### Turns -/

section Turns

variable {step : Nat → Nat → Prop} {i j k m n : Nat}

theorem Turns.add (h : Turns step m i k) (h' : Turns step n k j) : Turns step (m + n) i j := by
  induction m generalizing i with
  | zero =>
    have hik : i = k := h
    rw [Nat.zero_add, hik]
    exact h'
  | succ m ih =>
    obtain ⟨l, hl, hrest⟩ := h
    rw [Nat.succ_add]
    exact ⟨l, hl, ih hrest⟩

theorem Turns.split (h : Turns step (m + n) i j) : ∃ k, Turns step m i k ∧ Turns step n k j := by
  induction m generalizing i with
  | zero =>
    rw [Nat.zero_add] at h
    exact ⟨i, rfl, h⟩
  | succ m ih =>
    rw [Nat.succ_add] at h
    obtain ⟨l, hl, hrest⟩ := h
    obtain ⟨k, hk, hkj⟩ := ih hrest
    exact ⟨k, ⟨l, hl, hk⟩, hkj⟩

/-- Turns that never lead backwards lead forwards. -/
theorem Turns.le (hstep : ∀ i j, step i j → i ≤ j) (h : Turns step n i j) : i ≤ j := by
  induction n generalizing i with
  | zero => exact Nat.le_of_eq h
  | succ n ih =>
    obtain ⟨k, hk, hrest⟩ := h
    exact Nat.le_trans (hstep i k hk) (ih hrest)

/-- Turns that do not lead beyond a place from inside do not get there. -/
theorem Turns.end_le {last : Nat} (hstep : ∀ i j, step i j → j ≤ last) (hi : i ≤ last)
    (h : Turns step n i j) : j ≤ last := by
  induction n generalizing i with
  | zero =>
    have hij : i = j := h
    rw [← hij]
    exact hi
  | succ n ih =>
    obtain ⟨k, hk, hrest⟩ := h
    exact ih (hstep i k hk) hrest

/-- Turns that stay where they are can be left out, and then each of the others gets further. -/
theorem Turns.shorten (hstep : ∀ i j, step i j → i ≤ j) (h : Turns step n i j) :
    ∃ m, m ≤ j - i ∧ Turns step m i j := by
  induction n generalizing i with
  | zero =>
    have hij : i = j := h
    exact ⟨0, Nat.zero_le _, hij⟩
  | succ n ih =>
    obtain ⟨k, hk, hrest⟩ := h
    obtain ⟨m, hm, hturns⟩ := ih hrest
    have hik := hstep i k hk
    have hkj := hrest.le hstep
    by_cases heq : i = k
    · rw [heq]
      exact ⟨m, hm, hturns⟩
    · refine ⟨m + 1, ?_, k, hk, hturns⟩
      omega

end Turns

/-- An expression leads forwards and not out of the text. -/
theorem Expr.spans_bounds {text : List Char} (e : Expr) {i j : Nat} (h : e.spans text i j) :
    i ≤ j ∧ j ≤ text.length := by
  induction e generalizing i j with
  | empty =>
    obtain ⟨hi, rfl⟩ := h
    exact ⟨Nat.le_refl i, hi⟩
  | chars s =>
    obtain ⟨c, hc, -, rfl⟩ := h
    obtain ⟨hi, -⟩ := List.getElem?_eq_some_iff.1 hc
    exact ⟨Nat.le_succ i, hi⟩
  | look l =>
    obtain ⟨hi, -, rfl⟩ := h
    exact ⟨Nat.le_refl i, hi⟩
  | seq a b iha ihb =>
    obtain ⟨k, hk, hkj⟩ := h
    exact ⟨Nat.le_trans (iha hk).1 (ihb hkj).1, (ihb hkj).2⟩
  | alt a b iha ihb =>
    rcases h with h | h
    · exact iha h
    · exact ihb h
  | rep e min max ih =>
    obtain ⟨hi, n, -, -, hturns⟩ := h
    exact ⟨hturns.le fun _ _ hs => (ih hs).1, hturns.end_le (fun _ _ hs => (ih hs).2) hi⟩
  | capture e ih => exact ih h

/-! ### Places as bits -/

/-- A place is in a set of places. -/
abbrev In (places i : Nat) : Prop := places.testBit i = true

theorem testBit_bitsOf (bs : List Bool) (i : Nat) :
    (bitsOf bs).testBit i = (bs[i]?).getD false := by
  induction bs generalizing i with
  | nil => simp [bitsOf]
  | cons b bs ih =>
    have hbit : bitsOf (b :: bs) = Nat.bit b (bitsOf bs) := by
      rw [Nat.bit_val]
      rfl
    rw [hbit]
    cases i with
    | zero => simp
    | succ i => rw [Nat.testBit_bit_succ, ih, List.getElem?_cons_succ]

theorem in_allPlaces {text : List Char} {i : Nat} : In (allPlaces text) i ↔ i ≤ text.length := by
  unfold In allPlaces
  rw [Nat.one_shiftLeft, Nat.testBit_two_pow_sub_one, decide_eq_true_iff]
  omega

theorem in_placesBefore {text : List Char} {s : CharSet} {i : Nat} :
    In (placesBefore text s) i ↔ ∃ c, text[i]? = some c ∧ s.contains c = true := by
  unfold In placesBefore
  rw [testBit_bitsOf, List.getElem?_map]
  cases text[i]? with
  | none => simp
  | some c => simp

/-- The gap at a place has the characters on both sides of it. -/
theorem getElem?_gaps (before : Option Char) (text : List Char) (i : Nat) :
    (gaps before text)[i]? =
      if i ≤ text.length then some (if i = 0 then before else text[i - 1]?, text[i]?)
      else none := by
  induction text generalizing before i with
  | nil =>
    cases i with
    | zero => rfl
    | succ i => simp [gaps]
  | cons c cs ih =>
    cases i with
    | zero => simp [gaps]
    | succ i =>
      rw [gaps, List.getElem?_cons_succ, ih]
      cases i with
      | zero => simp
      | succ i => simp

theorem in_placesWhere {text : List Char} {l : Look} {i : Nat} :
    In (placesWhere text l) i ↔
      i ≤ text.length ∧ l.holds (charBefore text i) (charAfter text i) = true := by
  unfold In placesWhere
  rw [testBit_bitsOf, List.getElem?_map, getElem?_gaps]
  have hbefore : charBefore text i = if i = 0 then none else text[i - 1]? := by
    cases i with
    | zero => rfl
    | succ i => rfl
  rw [hbefore]
  by_cases hi : i ≤ text.length
  · simp [hi, charAfter]
  · simp [hi]

/-- A set with no places is zero. -/
theorem ne_zero_iff_in {places : Nat} : places ≠ 0 ↔ ∃ i, In places i := by
  constructor
  · exact Nat.exists_testBit_of_ne_zero
  · rintro ⟨i, hi⟩ rfl
    simp [In] at hi

/-- All places of a set are places of the text. -/
def Within (text : List Char) (places : Nat) : Prop := ∀ i, In places i → i ≤ text.length

/-! ### Following a scan -/

/-- A function on sets of places leads to where a relation leads. -/
def Leads (text : List Char) (turn : Nat → Nat) (step : Nat → Nat → Prop) : Prop :=
  ∀ places, Within text places → ∀ j, In (turn places) j ↔ ∃ i, In places i ∧ step i j

section Turn

variable {text : List Char} {turn : Nat → Nat} {step : Nat → Nat → Prop} {places : Nat}

theorem Leads.within (h : Leads text turn step) (hstep : ∀ i j, step i j → j ≤ text.length)
    (hp : Within text places) : Within text (turn places) := by
  intro j hj
  obtain ⟨i, -, hij⟩ := (h places hp j).1 hj
  exact hstep i j hij

theorem Leads.exactTurns (h : Leads text turn step) (hstep : ∀ i j, step i j → j ≤ text.length)
    (n : Nat) : Leads text (exactTurns turn n) (Turns step n) := by
  induction n with
  | zero =>
    intro places _ j
    constructor
    · intro hj
      exact ⟨j, hj, rfl⟩
    · rintro ⟨i, hi, hij⟩
      have hij : i = j := hij
      rw [← hij]
      exact hi
  | succ n ih =>
    intro places hp j
    have hnext : ∀ k, In (turn places) k ↔ ∃ i, In places i ∧ step i k := h places hp
    unfold Pattern.exactTurns
    by_cases hz : places = 0
    · have hnone : ∀ i, ¬ In places i := fun i hi => ne_zero_iff_in.2 ⟨i, hi⟩ hz
      rw [if_pos hz]
      constructor
      · intro hj
        exact absurd hj (by simp [In])
      · rintro ⟨i, hi, -⟩
        exact absurd hi (hnone i)
    · rw [if_neg hz, ih (turn places) (h.within hstep hp) j]
      constructor
      · rintro ⟨k, hk, hkj⟩
        obtain ⟨i, hi, hik⟩ := (hnext k).1 hk
        exact ⟨i, hi, k, hik, hkj⟩
      · rintro ⟨i, hi, k, hik, hkj⟩
        exact ⟨k, (hnext k).2 ⟨i, hi, hik⟩, hkj⟩

/-- What is known of a set of places that have been reached, of which some are fresh: from the
others no turn leads out of the set. -/
structure Followed (text : List Char) (step : Nat → Nat → Prop) (seen fresh : Nat) : Prop where
  /-- The fresh places have been reached. -/
  fresh_seen : ∀ i, In fresh i → In seen i
  /-- All places are places of the text. -/
  within : Within text seen
  /-- The other places have been followed. -/
  closed : ∀ i j, In seen i → ¬ In fresh i → step i j → In seen j

/-- The places of a set that are not in another one. -/
theorem in_new {next seen i : Nat} : In (next ^^^ (next &&& seen)) i ↔ In next i ∧ ¬ In seen i := by
  unfold In
  rw [Nat.testBit_xor, Nat.testBit_and]
  cases next.testBit i <;> cases seen.testBit i <;> simp

theorem in_or {a b i : Nat} : In (a ||| b) i ↔ In a i ∨ In b i := by
  unfold In
  rw [Nat.testBit_or, Bool.or_eq_true]

/-- What has been reached stays reached. -/
theorem in_reach_of_seen {n seen fresh i : Nat} (h : In seen i) :
    In (reach turn n seen fresh) i := by
  induction n generalizing seen fresh with
  | zero => exact h
  | succ n ih =>
    unfold reach
    simp only
    split
    · exact h
    · exact ih (in_or.2 (.inl h))

/-- One more turn is followed. -/
theorem Followed.advance (h : Leads text turn step) (hstep : ∀ i j, step i j → j ≤ text.length)
    {seen fresh : Nat} (hf : Followed text step seen fresh) :
    Followed text step (seen ||| (turn fresh ^^^ (turn fresh &&& seen)))
      (turn fresh ^^^ (turn fresh &&& seen)) := by
  have hfresh : Within text fresh := fun i hi => hf.within i (hf.fresh_seen i hi)
  have hnext := h fresh hfresh
  refine ⟨fun i hi => in_or.2 (.inr hi), ?_, ?_⟩
  · intro i hi
    rcases in_or.1 hi with hi | hi
    · exact hf.within i hi
    · exact h.within hstep hfresh i (in_new.1 hi).1
  · intro i j hi hnew hij
    -- a place that is not new was seen before, and now has been followed
    have hseen : In seen i := (in_or.1 hi).resolve_right hnew
    by_cases hif : In fresh i
    · have hj : In (turn fresh) j := (hnext j).2 ⟨i, hif, hij⟩
      by_cases hjs : In seen j
      · exact in_or.2 (.inl hjs)
      · exact in_or.2 (.inr (in_new.2 ⟨hj, hjs⟩))
    · exact in_or.2 (.inl (hf.closed i j hseen hif hij))

/-- Every place that is reached was seen, or is some turns away from a fresh one. -/
theorem turns_of_in_reach (h : Leads text turn step) (hstep : ∀ i j, step i j → j ≤ text.length)
    {n seen fresh j : Nat} (hf : Followed text step seen fresh)
    (hj : In (reach turn n seen fresh) j) :
    In seen j ∨ ∃ i m, In fresh i ∧ m ≤ n ∧ Turns step m i j := by
  induction n generalizing seen fresh with
  | zero => exact .inl hj
  | succ n ih =>
    unfold reach at hj
    simp only at hj
    split at hj
    · exact .inl hj
    · have hfresh : Within text fresh := fun i hi => hf.within i (hf.fresh_seen i hi)
      have hstart : ∀ k, In (turn fresh ^^^ (turn fresh &&& seen)) k →
          ∃ i, In fresh i ∧ step i k := by
        intro k hk
        exact (h fresh hfresh k).1 (in_new.1 hk).1
      rcases ih (hf.advance h hstep) hj with hj | ⟨k, m, hk, hm, hkj⟩
      · rcases in_or.1 hj with hj | hj
        · exact .inl hj
        · obtain ⟨i, hi, hij⟩ := hstart j hj
          exact .inr ⟨i, 1, hi, by omega, j, hij, rfl⟩
      · obtain ⟨i, hi, hik⟩ := hstart k hk
        exact .inr ⟨i, m + 1, hi, by omega, k, hik, hkj⟩

/-- Every place that is at most `n` turns away from one that was seen is reached. -/
theorem in_reach_of_turns (h : Leads text turn step) (hstep : ∀ i j, step i j → j ≤ text.length)
    {n seen fresh i m j : Nat} (hf : Followed text step seen fresh) (hi : In seen i) (hm : m ≤ n)
    (hturns : Turns step m i j) : In (reach turn n seen fresh) j := by
  induction n generalizing seen fresh i m with
  | zero =>
    have hm0 : m = 0 := Nat.le_zero.1 hm
    rw [hm0] at hturns
    have hij : i = j := hturns
    rw [← hij]
    exact hi
  | succ n ih =>
    have hfresh : Within text fresh := fun i hi => hf.within i (hf.fresh_seen i hi)
    have hadvance := hf.advance h hstep
    -- a path that does not leave what was seen is no progress, and one that does is shorter
    -- from where it leaves
    induction m generalizing i with
    | zero =>
      have hij : i = j := hturns
      rw [← hij]
      exact in_reach_of_seen hi
    | succ m ihm =>
      obtain ⟨k, hik, hkj⟩ := hturns
      by_cases hk : In seen k
      · exact ihm hk (by omega) hkj
      · have hif : In fresh i := by
          by_contra hnot
          exact hk (hf.closed i k hi hnot hik)
        have hnew : In (turn fresh ^^^ (turn fresh &&& seen)) k :=
          in_new.2 ⟨(h fresh hfresh k).2 ⟨i, hif, hik⟩, hk⟩
        unfold reach
        simp only
        rw [if_neg (ne_zero_iff_in.2 ⟨k, hnew⟩)]
        exact ih hadvance (in_or.2 (.inr hnew)) (by omega) hkj

/-- From a set of places, what is reached are the places at most `n` turns away. -/
theorem Leads.reach (h : Leads text turn step) (hstep : ∀ i j, step i j → j ≤ text.length)
    (n : Nat) : Leads text (fun places => reach turn n places places)
      (fun i j => ∃ m, m ≤ n ∧ Turns step m i j) := by
  intro places hp j
  have hf : Followed text step places places := ⟨fun _ hi => hi, hp, fun _ _ hi hn => absurd hi hn⟩
  constructor
  · intro hj
    rcases turns_of_in_reach h hstep hf hj with hj | ⟨i, m, hi, hm, hij⟩
    · exact ⟨j, hj, 0, Nat.zero_le n, rfl⟩
    · exact ⟨i, hi, m, hm, hij⟩
  · rintro ⟨i, hi, m, hm, hij⟩
    exact in_reach_of_turns h hstep hf hi hm hij

end Turn

/-! ### Expressions -/

/-- The numbers of turns that are followed lead to the places to which all allowed numbers of
turns lead. -/
theorem turns_iff_furtherTurns {text : List Char} {step : Nat → Nat → Prop}
    (hstep : ∀ i j, step i j → i ≤ j ∧ j ≤ text.length) {min : Nat} {max : Option Nat} {i j : Nat}
    (hi : i ≤ text.length) :
    (∃ n, min ≤ n ∧ (∀ m, max = some m → n ≤ m) ∧ Turns step n i j) ↔
      ∃ turns, furtherTurns text.length min max = some turns ∧
        ∃ k, Turns step min i k ∧ ∃ m, m ≤ turns ∧ Turns step m k j := by
  unfold furtherTurns
  constructor
  · rintro ⟨n, hmin, hmax, hturns⟩
    obtain ⟨m, rfl⟩ := Nat.exists_eq_add_of_le hmin
    obtain ⟨k, hik, hkj⟩ := hturns.split
    cases max with
    | none =>
      -- any number of turns can be made as small as the way is long
      obtain ⟨m', hm', hkj'⟩ := hkj.shorten fun _ _ hs => (hstep _ _ hs).1
      have hj : j ≤ text.length :=
        (hik.add hkj).end_le (fun _ _ hs => (hstep _ _ hs).2) hi
      exact ⟨text.length + 1, rfl, k, hik, m', by omega, hkj'⟩
    | some max =>
      have hle := hmax max rfl
      have hmin' : ¬ max < min := by omega
      simp only [hmin', if_false]
      exact ⟨max - min, rfl, k, hik, m, by omega, hkj⟩
  · rintro ⟨turns, hfurther, k, hik, m, hm, hkj⟩
    refine ⟨min + m, Nat.le_add_right _ _, ?_, hik.add hkj⟩
    rintro max rfl
    simp only at hfurther
    split at hfurther
    · cases hfurther
    · cases hfurther
      omega

/-- Turns that are made as often as is allowed lead to where that many steps lead. -/
theorem Leads.rep {text : List Char} {turn : Nat → Nat} {step : Nat → Nat → Prop}
    (h : Leads text turn step) (hbounds : ∀ i j, step i j → i ≤ j ∧ j ≤ text.length)
    (min : Nat) (max : Option Nat) :
    Leads text
      (fun places => reachFurther turn (Pattern.exactTurns turn min places)
        (furtherTurns text.length min max))
      (fun i j => i ≤ text.length ∧
        ∃ n, min ≤ n ∧ (∀ m, max = some m → n ≤ m) ∧ Turns step n i j) := by
  intro places hp j
  have hend : ∀ i j, step i j → j ≤ text.length := fun i j hij => (hbounds i j hij).2
  -- the turns that have to be made come first, and the other ones start from where they end
  have hexact := h.exactTurns hend min
  have hstart : Within text (Pattern.exactTurns turn min places) := by
    intro k hk
    obtain ⟨i, hi, hik⟩ := (hexact places hp k).1 hk
    exact hik.end_le hend (hp i hi)
  simp only
  cases hf : furtherTurns text.length min max with
  | none =>
    constructor
    · intro hj
      exact absurd hj (by simp [In, reachFurther])
    · rintro ⟨i, -, hi, hn⟩
      obtain ⟨turns, hturns, -⟩ := (turns_iff_furtherTurns hbounds hi).1 hn
      rw [hf] at hturns
      cases hturns
  | some turns =>
    unfold reachFurther
    rw [h.reach hend turns _ hstart j]
    constructor
    · rintro ⟨k, hk, m, hm, hkj⟩
      obtain ⟨i, hi, hik⟩ := (hexact places hp k).1 hk
      refine ⟨i, hi, hp i hi, (turns_iff_furtherTurns hbounds (hp i hi)).2 ?_⟩
      exact ⟨turns, hf, k, hik, m, hm, hkj⟩
    · rintro ⟨i, hi, hle, hn⟩
      obtain ⟨turns', hturns, k, hik, hkj⟩ := (turns_iff_furtherTurns hbounds hle).1 hn
      rw [hf] at hturns
      cases hturns
      exact ⟨k, (hexact places hp k).2 ⟨i, hi, hik⟩, hkj⟩

/-- A scan leads to where its expression leads. -/
theorem Expr.leads (e : Expr) (text : List Char) :
    Leads text ((e.over text).finish text.length) (e.spans text) := by
  induction e with
  | empty =>
    intro places hp j
    constructor
    · intro hj
      exact ⟨j, hj, hp j hj, rfl⟩
    · rintro ⟨i, hi, -, rfl⟩
      exact hi
  | chars s =>
    intro places _ j
    show In ((places &&& placesBefore text s) <<< 1) j ↔ _
    unfold In
    rw [Nat.testBit_shiftLeft, Bool.and_eq_true, decide_eq_true_iff, Nat.testBit_and,
      Bool.and_eq_true]
    constructor
    · rintro ⟨hj, hplace, hset⟩
      obtain ⟨c, hc, hs⟩ := in_placesBefore.1 hset
      exact ⟨j - 1, hplace, c, hc, hs, by omega⟩
    · rintro ⟨i, hi, c, hc, hs, rfl⟩
      rw [Nat.add_sub_cancel]
      exact ⟨by omega, hi, in_placesBefore.2 ⟨c, hc, hs⟩⟩
  | look l =>
    intro places _ j
    show In (places &&& placesWhere text l) j ↔ _
    unfold In
    rw [Nat.testBit_and, Bool.and_eq_true]
    constructor
    · rintro ⟨hplace, hwhere⟩
      obtain ⟨hj, hl⟩ := in_placesWhere.1 hwhere
      exact ⟨j, hplace, hj, hl, rfl⟩
    · rintro ⟨i, hi, hle, hl, rfl⟩
      exact ⟨hi, in_placesWhere.2 ⟨hle, hl⟩⟩
  | seq a b iha ihb =>
    intro places hp j
    show In ((b.over text).finish text.length ((a.over text).finish text.length places)) j ↔ _
    have hmid := iha.within (fun _ _ h => (a.spans_bounds h).2) hp
    rw [ihb _ hmid j]
    constructor
    · rintro ⟨k, hk, hkj⟩
      obtain ⟨i, hi, hik⟩ := (iha places hp k).1 hk
      exact ⟨i, hi, k, hik, hkj⟩
    · rintro ⟨i, hi, k, hik, hkj⟩
      exact ⟨k, (iha places hp k).2 ⟨i, hi, hik⟩, hkj⟩
  | alt a b iha ihb =>
    intro places hp j
    show In ((a.over text).finish text.length places ||| (b.over text).finish text.length places) j
      ↔ _
    rw [in_or, iha places hp j, ihb places hp j]
    constructor
    · rintro (⟨i, hi, hij⟩ | ⟨i, hi, hij⟩)
      · exact ⟨i, hi, .inl hij⟩
      · exact ⟨i, hi, .inr hij⟩
    · rintro ⟨i, hi, hij | hij⟩
      · exact .inl ⟨i, hi, hij⟩
      · exact .inr ⟨i, hi, hij⟩
  | rep e min max ih => exact ih.rep (fun _ _ h => e.spans_bounds h) min max
  | capture e ih => exact ih

/-- A search finds an expression exactly if it matches somewhere. -/
theorem Expr.search_iff_occursIn (e : Expr) (text : List Char) :
    e.search text = true ↔ e.occursIn text := by
  unfold search occursIn
  have hall : Within text (allPlaces text) := fun i hi => in_allPlaces.1 hi
  rw [bne_iff_ne, ne_zero_iff_in]
  constructor
  · rintro ⟨j, hj⟩
    obtain ⟨i, -, hij⟩ := (e.leads text _ hall j).1 hj
    exact ⟨i, j, hij⟩
  · rintro ⟨i, j, hij⟩
    have hbounds := e.spans_bounds hij
    have hi : In (allPlaces text) i := in_allPlaces.2 (by omega)
    exact ⟨j, (e.leads text _ hall j).2 ⟨i, hi, hij⟩⟩

/-! ### Anchors -/

theorem holds_start_iff {text : List Char} {i : Nat} (hi : i ≤ text.length) :
    Look.start.holds (charBefore text i) (charAfter text i) = true ↔ i = 0 := by
  cases i with
  | zero => simp [Look.holds, charBefore]
  | succ i =>
    have hc : text[i]? = some text[i] := List.getElem?_eq_getElem hi
    simp [Look.holds, charBefore, hc]

theorem holds_finish_iff {text : List Char} {i : Nat} (hi : i ≤ text.length) :
    Look.finish.holds (charBefore text i) (charAfter text i) = true ↔ i = text.length := by
  simp only [Look.holds, charAfter, Option.isNone_iff_eq_none, List.getElem?_eq_none_iff]
  omega

/-- Between the two ends of a text an expression is found exactly if it matches all of it. -/
theorem Expr.search_anchored_iff (e : Expr) (text : List Char) :
    (Expr.seq (.look .start) (.seq e (.look .finish))).search text = true ↔
      e.matchesWhole text := by
  rw [search_iff_occursIn]
  unfold occursIn matchesWhole
  constructor
  · rintro ⟨i, j, k, ⟨hi, hstart, rfl⟩, l, hl, hle, hfinish, rfl⟩
    rw [holds_start_iff hi] at hstart
    rw [holds_finish_iff hle] at hfinish
    rw [← hstart, ← hfinish]
    exact hl
  · intro h
    refine ⟨0, text.length, 0, ⟨Nat.zero_le _, ?_, rfl⟩, text.length, h, Nat.le_refl _, ?_, rfl⟩
    · exact (holds_start_iff (Nat.zero_le _)).2 rfl
    · exact (holds_finish_iff (Nat.le_refl _)).2 rfl

end Admission.Pattern

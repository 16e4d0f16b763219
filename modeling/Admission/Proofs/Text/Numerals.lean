import Admission.Text.Number
import Admission.Proofs.Text.Variation

/-!
# Numerals — which texts spell a number of 64 bits

  A number is spelled by decimal digits, at least one, and a plus sign may stand before
  them; zeros at the beginning do not count, however many there are. `Numeral` says so
  with the value of the digits as a whole. Reading goes digit by digit and gives up at the
  first number that has more than 64 bits. Since every further digit makes the number
  greater, that is as good as looking at the whole (`readNumber_eq_ok_iff`).
-/

namespace Admission.Text

/-- A text of decimal digits, with a plus sign before them or without, and the number that it
denotes. -/
inductive Numeral : List Char → Nat → Prop where
  /-- Nothing but digits. -/
  | plain {digits : List Char} (hne : digits ≠ []) (hdigits : ∀ c ∈ digits, c.isDigit = true) :
      Numeral digits (Nat.ofDigitChars 10 digits 0)
  /-- A plus sign and digits. -/
  | plus {digits : List Char} (hne : digits ≠ []) (hdigits : ∀ c ∈ digits, c.isDigit = true) :
      Numeral ('+' :: digits) (Nat.ofDigitChars 10 digits 0)

/-! ### Digit by digit -/

/-- More digits never make a number less. -/
theorem le_ofDigitChars (digits : List Char) (n : Nat) : n ≤ Nat.ofDigitChars 10 digits n := by
  induction digits generalizing n with
  | nil => exact Nat.le_refl n
  | cons c digits ih =>
    rw [Nat.ofDigitChars_cons]
    have hrest := ih (10 * n + (c.toNat - '0'.toNat))
    omega

/-- Digits are read exactly if all are digits and the number that they denote is not too great. -/
theorem readDigits_eq_ok_iff {cs : List Char} {n m : Nat} (hn : n < numberLimit) :
    readDigits n cs = .ok m ↔
      (∀ c ∈ cs, c.isDigit = true) ∧ Nat.ofDigitChars 10 cs n = m ∧ m < numberLimit := by
  induction cs generalizing n with
  | nil =>
    rw [readDigits, Except.ok.injEq, Nat.ofDigitChars_nil]
    constructor
    · rintro rfl
      exact ⟨nofun, rfl, hn⟩
    · exact fun h => h.2.1
  | cons c cs ih =>
    have hnext : 10 * n + (c.toNat - '0'.toNat) = n * 10 + (c.toNat - 48) := by
      rw [Nat.mul_comm]
      rfl
    rw [readDigits, List.forall_mem_cons, Nat.ofDigitChars_cons, hnext]
    by_cases hc : c.isDigit = true
    · have hgo : ¬ (!c.isDigit) = true := by simp [hc]
      rw [if_neg hgo]
      by_cases hlimit : n * 10 + (c.toNat - 48) < numberLimit
      · simp only [if_pos hlimit]
        rw [ih hlimit, and_iff_right hc]
      · -- the number is too great already, and it does not become less
        simp only [if_neg hlimit]
        constructor
        · nofun
        · rintro ⟨-, hm, hless⟩
          have hle := le_ofDigitChars cs (n * 10 + (c.toNat - 48))
          omega
    · have hstop : (!c.isDigit) = true := by simp [hc]
      rw [if_pos hstop]
      constructor
      · nofun
      · rintro ⟨⟨hdigit, -⟩, -⟩
        exact absurd hdigit hc

theorem readNumber_plus {digits : List Char} (h : digits ≠ []) :
    readNumber ('+' :: digits) = readDigits 0 digits := by
  cases digits with
  | nil => exact absurd rfl h
  | cons c digits => rfl

theorem readNumber_of_ne_plus {cs : List Char} (hne : cs ≠ []) (hplus : cs.head? ≠ some '+') :
    readNumber cs = readDigits 0 cs := by
  unfold readNumber
  split
  · exact absurd rfl hne
  · exact absurd rfl hplus
  · exact absurd rfl hplus
  · rfl

/-- A text is read as a number exactly if it is a numeral of that number, and the number has no
more than 64 bits. -/
theorem readNumber_eq_ok_iff {cs : List Char} {n : Nat} :
    readNumber cs = .ok n ↔ Numeral cs n ∧ n < numberLimit := by
  have hzero : 0 < numberLimit := by decide
  constructor
  · intro h
    cases cs with
    | nil => cases h
    | cons c cs =>
      by_cases hplus : c = '+'
      · subst hplus
        -- a plus sign alone is refused
        have hne : cs ≠ [] := by
          rintro rfl
          cases h
        rw [readNumber_plus hne, readDigits_eq_ok_iff hzero] at h
        obtain ⟨hdigits, rfl, hn⟩ := h
        exact ⟨.plus hne hdigits, hn⟩
      · have hne : c :: cs ≠ [] := List.cons_ne_nil c cs
        have hhead : (c :: cs).head? ≠ some '+' := by simpa using hplus
        rw [readNumber_of_ne_plus hne hhead, readDigits_eq_ok_iff hzero] at h
        obtain ⟨hdigits, rfl, hn⟩ := h
        exact ⟨.plain hne hdigits, hn⟩
  · rintro ⟨hnumeral, hn⟩
    cases hnumeral with
    | plain hne hdigits =>
      -- no digit is a plus sign
      have hhead : cs.head? ≠ some '+' := by
        intro hplus
        have hdigit := hdigits '+' (List.mem_of_head? hplus)
        revert hdigit
        decide
      rw [readNumber_of_ne_plus hne hhead, readDigits_eq_ok_iff hzero]
      exact ⟨hdigits, rfl, hn⟩
    | plus hne hdigits =>
      rw [readNumber_plus hne, readDigits_eq_ok_iff hzero]
      exact ⟨hdigits, rfl, hn⟩

/-! ### Between blanks -/

theorem isBlank_of_isDigit {c : Char} (h : c.isDigit = true) : isBlank c = false := by
  have hrange : 48 ≤ c.toNat ∧ c.toNat ≤ 57 := by
    unfold Char.isDigit at h
    rw [Bool.and_eq_true, decide_eq_true_eq, decide_eq_true_eq] at h
    exact h
  rw [Bool.eq_false_iff]
  intro hblank
  simp only [isBlank, Bool.or_eq_true, Bool.and_eq_true, beq_iff_eq, decide_eq_true_eq] at hblank
  omega

theorem Numeral.trimmed {cs : List Char} {n : Nat} (h : Numeral cs n) : Trimmed cs := by
  refine trimmed_of_solid fun c hc => ?_
  cases h with
  | plain hne hdigits => exact isBlank_of_isDigit (hdigits c hc)
  | plus hne hdigits =>
    rcases List.mem_cons.1 hc with rfl | hc
    · rfl
    · exact isBlank_of_isDigit (hdigits c hc)

/-- A numeral with nothing but blanks around it. -/
def SpellsNumber (cs : List Char) (n : Nat) : Prop :=
  ∃ before numeral after, Blanks before ∧ Numeral numeral n ∧ Blanks after ∧
    cs = before ++ numeral ++ after

/-- Without the blanks around it, a text is read as a number exactly if it spells that number, and
the number has no more than 64 bits. -/
theorem readNumber_trimBoth_eq_ok_iff {cs : List Char} {n : Nat} :
    readNumber (trimBoth cs) = .ok n ↔ SpellsNumber cs n ∧ n < numberLimit := by
  rw [readNumber_eq_ok_iff]
  refine and_congr_left fun _ => ?_
  constructor
  · intro hnumeral
    obtain ⟨-, before, after, hbefore, hafter, hcs⟩ := trimBoth_eq_iff.1
      (rfl : trimBoth cs = trimBoth cs)
    exact ⟨before, trimBoth cs, after, hbefore, hnumeral, hafter, hcs⟩
  · rintro ⟨before, numeral, after, hbefore, hnumeral, hafter, rfl⟩
    rw [hnumeral.trimmed.trimBoth_pad hbefore hafter]
    exact hnumeral

end Admission.Text

import Admission.Proofs.Token.Spelling
import Mathlib.Data.List.Forall2
import Mathlib.Data.List.TakeWhile

/-!
# Variations — texts up to blanks around them and letter case

  Trimming is a function, but what it comes to can be said without it: a text is trimmed
  to the part between blanks that neither begins nor ends with one (`trimBoth_eq_iff`).
  Likewise two texts are spelled with the same letters when they can be laid side by side,
  each character against itself or against the same letter of the other case. It does not
  matter whether capitals or small letters are compared (`map_toUpper_eq_iff`,
  `map_toLower_eq_iff`).
-/

namespace Admission.Text

/-! ### Blanks around a text -/

/-- Nothing but blanks. -/
def Blanks (cs : List Char) : Prop := ∀ c ∈ cs, isBlank c = true

/-- A text without blanks at its ends. -/
structure Trimmed (cs : List Char) : Prop where
  /-- It does not begin with a blank. -/
  begins : cs.head?.any isBlank = false
  /-- It does not end with a blank. -/
  ends : cs.getLast?.any isBlank = false

theorem trimLeft_append {before : List Char} (h : Blanks before) (cs : List Char) :
    trimLeft (before ++ cs) = trimLeft cs :=
  List.dropWhile_append_of_pos h

theorem trimRight_append (cs : List Char) {after : List Char} (h : Blanks after) :
    trimRight (cs ++ after) = trimRight cs := by
  induction cs with
  | nil => exact (trimRight_eq_nil_iff after).2 (List.all_eq_true.2 h)
  | cons c cs ih =>
    rw [List.cons_append, trimRight, ih]
    rfl

/-- What is trimmed on the right are blanks. -/
theorem exists_trimRight_append (cs : List Char) :
    ∃ after, Blanks after ∧ cs = trimRight cs ++ after := by
  induction cs with
  | nil => exact ⟨[], nofun, rfl⟩
  | cons c cs ih =>
    obtain ⟨after, hafter, hcs⟩ := ih
    cases ht : trimRight cs with
    | cons d ds =>
      refine ⟨after, hafter, ?_⟩
      rw [trimRight_cons_cons ht, List.cons_append, ← ht, ← hcs]
    | nil =>
      have hall : Blanks cs := List.all_eq_true.1 ((trimRight_eq_nil_iff cs).1 ht)
      -- nothing but blanks follows, so it depends on this character alone
      cases hc : isBlank c with
      | false =>
        refine ⟨cs, hall, ?_⟩
        simp [trimRight, ht, hc]
      | true =>
        refine ⟨c :: cs, ?_, by simp [trimRight, ht, hc]⟩
        intro d hd
        rcases List.mem_cons.1 hd with rfl | hd
        · exact hc
        · exact hall d hd

theorem trimmed_trimBoth (cs : List Char) : Trimmed (trimBoth cs) :=
  ⟨head?_any_of_isPrefix (prefix_trimRight (trimLeft cs)) (head?_trimLeft cs),
    getLast?_trimRight (trimLeft cs)⟩

theorem Trimmed.trimBoth_pad {before cs after : List Char} (h : Trimmed cs)
    (hbefore : Blanks before) (hafter : Blanks after) :
    trimBoth (before ++ cs ++ after) = cs := by
  unfold trimBoth
  rw [List.append_assoc, trimLeft_append hbefore]
  cases cs with
  | nil =>
    have hnone : trimLeft after = [] := by
      have hpad := trimLeft_append hafter []
      rwa [List.append_nil] at hpad
    rw [List.nil_append, hnone]
    rfl
  | cons c cs =>
    have hhead : ((c :: cs) ++ after).head?.any isBlank = false := h.begins
    rw [trimLeft_of_head hhead, trimRight_append _ hafter]
    exact trimRight_of_last h.ends

/-- A text is trimmed to what stands in it between blanks and has none at its own ends. -/
theorem trimBoth_eq_iff {cs middle : List Char} :
    trimBoth cs = middle ↔ Trimmed middle ∧
      ∃ before after, Blanks before ∧ Blanks after ∧ cs = before ++ middle ++ after := by
  constructor
  · rintro rfl
    obtain ⟨after, hafter, hright⟩ := exists_trimRight_append (trimLeft cs)
    refine ⟨trimmed_trimBoth cs, cs.takeWhile isBlank, after, ?_, hafter, ?_⟩
    · intro c hc
      exact List.mem_takeWhile_imp hc
    · have hleft : cs.takeWhile isBlank ++ trimLeft cs = cs := List.takeWhile_append_dropWhile
      rw [List.append_assoc]
      show cs = cs.takeWhile isBlank ++ (trimRight (trimLeft cs) ++ after)
      rw [← hright, hleft]
  · rintro ⟨htrimmed, before, after, hbefore, hafter, rfl⟩
    exact htrimmed.trimBoth_pad hbefore hafter

theorem trimLeft_append_solid (cs : List Char) {c : Char} (h : isBlank c = false)
    (rest : List Char) : trimLeft (cs ++ c :: rest) = trimLeft cs ++ c :: rest := by
  induction cs with
  | nil => exact trimLeft_cons_solid h rest
  | cons d cs ih =>
    rw [List.cons_append]
    cases hd : isBlank d with
    | true => rw [trimLeft_cons_blank hd, trimLeft_cons_blank hd, ih]
    | false => rw [trimLeft_cons_solid hd, trimLeft_cons_solid hd, List.cons_append]

/-- Blanks after a text stay when it is trimmed on the left, or there were only blanks. -/
theorem trimLeft_append_blanks (cs : List Char) {after : List Char} (h : Blanks after) :
    trimLeft cs ≠ [] ∧ trimLeft (cs ++ after) = trimLeft cs ++ after ∨
      trimLeft cs = [] ∧ trimLeft (cs ++ after) = [] := by
  induction cs with
  | nil =>
    have hnone := trimLeft_append h []
    rw [List.append_nil] at hnone
    exact .inr ⟨rfl, hnone⟩
  | cons c cs ih =>
    rw [List.cons_append]
    cases hc : isBlank c with
    | true =>
      rw [trimLeft_cons_blank hc, trimLeft_cons_blank hc]
      exact ih
    | false =>
      rw [trimLeft_cons_solid hc, trimLeft_cons_solid hc]
      exact .inl ⟨List.cons_ne_nil c cs, rfl⟩

theorem trimBoth_append_blanks (cs : List Char) {after : List Char} (h : Blanks after) :
    trimBoth (cs ++ after) = trimBoth cs := by
  unfold trimBoth
  rcases trimLeft_append_blanks cs h with ⟨-, hstay⟩ | ⟨hnone, hall⟩
  · rw [hstay, trimRight_append _ h]
  · rw [hnone, hall]

theorem head?_trimLeft_append_blanks (cs : List Char) {after : List Char} (h : Blanks after) :
    (trimLeft (cs ++ after)).head? = (trimLeft cs).head? := by
  rcases trimLeft_append_blanks cs h with ⟨hne, hstay⟩ | ⟨hnone, hall⟩
  · rw [hstay, List.head?_append_of_ne_nil _ hne]
  · rw [hnone, hall]

/-- A text with something solid in it is trimmed if its beginning and its end are. -/
theorem trimmed_append_cons {before after : List Char} {c : Char}
    (hbegins : before.head?.any isBlank = false) (hc : isBlank c = false)
    (hends : after.getLast?.any isBlank = false) : Trimmed (before ++ c :: after) := by
  constructor
  · cases before with
    | nil => exact hc
    | cons d before => exact hbegins
  · rw [List.getLast?_append, List.getLast?_cons]
    cases hlast : after.getLast? with
    | none => exact hc
    | some d =>
      rw [hlast] at hends
      exact hends

/-! ### Letter case -/

/-- The same character, or the same letter from A to Z as a capital and as a small one. -/
def SameLetter (c d : Char) : Prop :=
  c = d ∨ (c.isUpper = true ∧ d.toNat = c.toNat + 32) ∨ (d.isUpper = true ∧ c.toNat = d.toNat + 32)

/-- Two texts that differ at most in the case of their letters from A to Z. -/
def CaseVariant (a b : List Char) : Prop := List.Forall₂ SameLetter a b

theorem isUpper_iff (c : Char) : c.isUpper = true ↔ 65 ≤ c.toNat ∧ c.toNat ≤ 90 := by
  unfold Char.isUpper
  rw [decide_eq_true_eq]
  exact Iff.rfl

theorem isLower_iff (c : Char) : c.isLower = true ↔ 97 ≤ c.toNat ∧ c.toNat ≤ 122 := by
  unfold Char.isLower
  rw [Bool.and_eq_true, decide_eq_true_eq, decide_eq_true_eq]
  exact Iff.rfl

theorem toNat_toUpper (c : Char) : c.toUpper.toNat =
    if 97 ≤ c.toNat ∧ c.toNat ≤ 122 then c.toNat - 32 else c.toNat := by
  unfold Char.toUpper
  by_cases h : 97 ≤ c.toNat ∧ c.toNat ≤ 122
  · have hsmall : 'a'.val ≤ c.val ∧ c.val ≤ 'z'.val := h
    rw [dif_pos hsmall, if_pos h]
    show (c.val + ('A'.val - 'a'.val)).toNat = c.toNat - 32
    rw [UInt32.toNat_add]
    -- the distance between the cases is taken modulo the size of a word
    show (c.toNat + 4294967264) % 4294967296 = c.toNat - 32
    omega
  · have hother : ¬ ('a'.val ≤ c.val ∧ c.val ≤ 'z'.val) := h
    rw [dif_neg hother, if_neg h]

theorem toNat_toLower (c : Char) : c.toLower.toNat =
    if 65 ≤ c.toNat ∧ c.toNat ≤ 90 then c.toNat + 32 else c.toNat := by
  unfold Char.toLower
  by_cases h : 65 ≤ c.toNat ∧ c.toNat ≤ 90
  · have hcapital : 'A'.val ≤ c.val ∧ c.val ≤ 'Z'.val := h
    rw [dif_pos hcapital, if_pos h]
    show (c.val + ('a'.val - 'A'.val)).toNat = c.toNat + 32
    rw [UInt32.toNat_add]
    show (c.toNat + 32) % 4294967296 = c.toNat + 32
    omega
  · have hother : ¬ ('A'.val ≤ c.val ∧ c.val ≤ 'Z'.val) := h
    rw [dif_neg hother, if_neg h]

theorem toUpper_eq_iff (c d : Char) : c.toUpper = d.toUpper ↔ SameLetter c d := by
  rw [← Char.toNat_inj, toNat_toUpper, toNat_toUpper]
  unfold SameLetter
  rw [isUpper_iff, isUpper_iff, ← Char.toNat_inj]
  split <;> split <;> omega

theorem toLower_eq_iff (c d : Char) : c.toLower = d.toLower ↔ SameLetter c d := by
  rw [← Char.toNat_inj, toNat_toLower, toNat_toLower]
  unfold SameLetter
  rw [isUpper_iff, isUpper_iff, ← Char.toNat_inj]
  split <;> split <;> omega

/-- Texts agree character by character under a map exactly if they agree under it as a whole. -/
theorem map_eq_map_iff {f : Char → Char} (hf : ∀ c d, f c = f d ↔ SameLetter c d)
    (a b : List Char) : a.map f = b.map f ↔ CaseVariant a b := by
  rw [← List.forall₂_eq_eq_eq, List.forall₂_map_left_iff, List.forall₂_map_right_iff]
  unfold CaseVariant
  simp only [hf]

theorem map_toUpper_eq_iff (a b : List Char) :
    a.map Char.toUpper = b.map Char.toUpper ↔ CaseVariant a b :=
  map_eq_map_iff toUpper_eq_iff a b

theorem map_toLower_eq_iff (a b : List Char) :
    a.map Char.toLower = b.map Char.toLower ↔ CaseVariant a b :=
  map_eq_map_iff toLower_eq_iff a b

/-- A letter in other case is a letter. -/
theorem SameLetter.isAlpha {c d : Char} (h : SameLetter c d) (hd : d.isAlpha = true) :
    c.isAlpha = true := by
  unfold Char.isAlpha at hd ⊢
  rw [Bool.or_eq_true, isUpper_iff, isLower_iff] at hd ⊢
  unfold SameLetter at h
  rw [isUpper_iff, isUpper_iff, ← Char.toNat_inj] at h
  omega

theorem CaseVariant.isAlpha {a b : List Char} (h : CaseVariant a b)
    (hb : ∀ c ∈ b, c.isAlpha = true) : ∀ c ∈ a, c.isAlpha = true := by
  induction h with
  | nil => nofun
  | @cons c d a b hcd _ ih =>
    intro e he
    rcases List.mem_cons.1 he with rfl | he
    · exact hcd.isAlpha (hb d List.mem_cons_self)
    · exact ih (fun x hx => hb x (List.mem_cons_of_mem d hx)) e he

/-- A letter is no blank. -/
theorem isBlank_of_isAlpha {c : Char} (h : c.isAlpha = true) : isBlank c = false := by
  unfold Char.isAlpha at h
  rw [Bool.or_eq_true, isUpper_iff, isLower_iff] at h
  rw [Bool.eq_false_iff]
  intro hblank
  simp only [isBlank, Bool.or_eq_true, Bool.and_eq_true, beq_iff_eq, decide_eq_true_eq] at hblank
  omega

/-- A text without blanks has none at its ends. -/
theorem trimmed_of_solid {cs : List Char} (h : ∀ c ∈ cs, isBlank c = false) : Trimmed cs := by
  refine ⟨?_, ?_⟩
  · cases hc : cs.head? with
    | none => rfl
    | some c => exact h c (List.mem_of_head? hc)
  · cases hc : cs.getLast? with
    | none => rfl
    | some c => exact h c (List.mem_of_getLast? hc)

/-- A text of letters has no blanks at its ends. -/
theorem trimmed_of_isAlpha {cs : List Char} (h : ∀ c ∈ cs, c.isAlpha = true) : Trimmed cs :=
  trimmed_of_solid fun c hc => isBlank_of_isAlpha (h c hc)

end Admission.Text

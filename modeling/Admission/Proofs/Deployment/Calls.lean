import Admission.Proofs.Deployment.Lifecycle

/-!
# Calls of a selector — one selector and the stores change, and nothing else

  A call takes one selector and the stores to another selector and other stores
  (`rewired`). Reopening a selector and changing its repository are made of closing it,
  assigning the repository and opening it, so these three are all that has to be known
  of the calls (`closeSelector_cases`, `openSelector_cases`), and they keep selectors
  and registries in agreement.
-/

namespace Admission

namespace Deployment

/-! ### Replacing a selector -/

/-- The deployment with one selector and the stores replaced. -/
def rewired (d : Deployment) (n : String) (s : Selector String) (w : Stores) : Deployment :=
  { d with stores := w, selectors := d.selectors.insert n s }

@[simp] theorem get?_rewired (d : Deployment) (n : String) (s : Selector String) (w : Stores)
    (m : String) :
    (d.rewired n s w).selectors.get? m = if m = n then some s else d.selectors.get? m :=
  KeyMap.get?_insert d.selectors n m s

@[simp] theorem stores_rewired (d : Deployment) (n : String) (s : Selector String) (w : Stores) :
    (d.rewired n s w).stores = w := rfl

/-- Where a selector was replaced by one that is not wired, whoever is wired was there before. -/
theorem get?_of_rewired {d : Deployment} {n m : String} {s t : Selector String} {w : Stores}
    (hs : s.isWired = false) (hm : (d.rewired n s w).selectors.get? m = some t)
    (ht : t.isWired = true) : d.selectors.get? m = some t := by
  rw [get?_rewired] at hm
  split at hm
  · cases hm
    rw [hs] at ht
    cases ht
  · exact hm

theorem rewired_self {d : Deployment} {n : String} {s : Selector String}
    (h : d.selectors.get? n = some s) : d.rewired n s d.stores = d := by
  have hi : d.selectors.insert n s = d.selectors := by
    apply KeyMap.ext_get?
    intro m
    rw [KeyMap.get?_insert]
    by_cases hm : m = n
    · rw [if_pos hm, hm, h]
    · rw [if_neg hm]
  unfold rewired
  rw [hi]

theorem rewired_rewired (d : Deployment) (n : String) (s t : Selector String) (v w : Stores) :
    (d.rewired n s v).rewired n t w = d.rewired n t w := by
  have hi : (d.selectors.insert n s).insert n t = d.selectors.insert n t := by
    apply KeyMap.ext_get?
    intro m
    simp only [KeyMap.get?_insert]
    by_cases hm : m = n
    · rw [if_pos hm, if_pos hm]
    · rw [if_neg hm, if_neg hm, if_neg hm]
  unfold rewired
  simp only [hi]

/-- The deployment with another repository given to a selector, which is not told to anyone. -/
def assign (d : Deployment) (n : String) (repository : Option String) : Deployment :=
  match d.selectors.get? n with
  | none => d
  | some s => d.rewired n { s with repository } d.stores

variable {d : Deployment} {n : String} {s : Selector String}

theorem call_none (h : d.selectors.get? n = none)
    (f : Host String Stores → Selector String → Stores →
      Except Fault Unit × Selector String × Stores) : d.call n f = (.done, d) := by
  unfold call
  rw [h]

theorem call_some (h : d.selectors.get? n = some s)
    (f : Host String Stores → Selector String → Stores →
      Except Fault Unit × Selector String × Stores) :
    d.call n f = (.ofOutcome (f (Stores.host n) s d.stores).1,
      d.rewired n (f (Stores.host n) s d.stores).2.1 (f (Stores.host n) s d.stores).2.2) := by
  unfold call
  simp only [h]
  rfl

/-- Reopening a selector is closing it and opening it. -/
theorem perform_reopenSelector (d : Deployment) (n : String) :
    (d.perform (.reopenSelector n)).2 =
      ((d.perform (.closeSelector n)).2.perform (.openSelector n)).2 := by
  simp only [perform]
  cases h : d.selectors.get? n with
  | none => rw [call_none h, call_none h, call_none h]
  | some s =>
    rw [call_some h, call_some h]
    have hg : (d.rewired n (s.closeOn (Stores.host n) d.stores).1
        (s.closeOn (Stores.host n) d.stores).2).selectors.get? n =
        some (s.closeOn (Stores.host n) d.stores).1 := by
      rw [get?_rewired, if_pos rfl]
    rw [call_some hg, rewired_rewired]
    rfl

theorem perform_setRepository_none (h : d.selectors.get? n = none)
    (repository : Option String) : (d.perform (.setRepository n repository)).2 = d := by
  simp only [perform]
  rw [call_none h]

/-- A closed selector just gets its new repository. -/
theorem perform_setRepository_closed (h : d.selectors.get? n = some s) (ho : s.isOpen = false)
    (repository : Option String) :
    (d.perform (.setRepository n repository)).2 = d.assign n repository := by
  have hset : s.setRepositoryOn (Stores.host n) repository d.stores =
      (.ok (), { s with repository }, d.stores) := by
    unfold Selector.setRepositoryOn
    rw [if_neg (by rw [ho]; exact Bool.false_ne_true)]
  simp only [perform]
  rw [call_some h, hset]
  unfold assign
  rw [h]

/-- An open selector is closed before it gets its new repository and opened after that. -/
theorem perform_setRepository_open (h : d.selectors.get? n = some s) (ho : s.isOpen = true)
    (repository : Option String) :
    (d.perform (.setRepository n repository)).2 =
      (((d.perform (.closeSelector n)).2.assign n repository).perform (.openSelector n)).2 := by
  simp only [perform]
  rw [call_some h, call_some h]
  unfold assign Selector.setRepositoryOn
  rw [ho]
  simp only [get?_rewired, if_true, stores_rewired, rewired_rewired]
  rw [call_some (by rw [get?_rewired, if_pos rfl]), rewired_rewired]
  rfl

theorem stores_openRepository (d : Deployment) (r : String) :
    (d.perform (.openRepository r)).2.stores = (d.stores.openStore r).2 := rfl

theorem stores_closeRepository (d : Deployment) (r : String) :
    (d.perform (.closeRepository r)).2.stores = d.stores.closeStore r := rfl

/-- Reopening a repository is closing it and opening it. -/
theorem perform_reopenRepository (d : Deployment) (r : String) :
    (d.perform (.reopenRepository r)).2 =
      ((d.perform (.closeRepository r)).2.perform (.openRepository r)).2 := rfl

/-! ### Closing, assigning and opening keep coherence -/

/-- What closing a selector comes to. -/
theorem closeSelector_cases (hlaw : ∀ s, d.selectors.get? n = some s → s.Lawful) :
    ((∀ s, d.selectors.get? n = some s → s.isOpen = false) ∧
      (d.perform (.closeSelector n)).2 = d) ∨
    ∃ s, d.selectors.get? n = some s ∧ s.isOpen = true ∧
      (d.perform (.closeSelector n)).2 = d.rewired n s.closed (d.stores.released s) := by
  simp only [perform]
  cases hs : d.selectors.get? n with
  | none =>
    rw [call_none hs]
    refine .inl ⟨?_, rfl⟩
    intro s h
    cases h
  | some s =>
    rw [call_some hs]
    cases ho : s.isOpen with
    | true =>
      rw [(hlaw s hs).closeOn_eq ho]
      exact .inr ⟨s, rfl, ho, rfl⟩
    | false =>
      rw [Selector.closeOn_closed ho]
      refine .inl ⟨?_, rewired_self hs⟩
      intro t ht
      cases ht
      exact ho

theorem Coherent.closeSelector_cases (h : d.Coherent) (n : String) :
    ((∀ s, d.selectors.get? n = some s → s.isOpen = false) ∧
      (d.perform (.closeSelector n)).2 = d) ∨
    ∃ s, d.selectors.get? n = some s ∧ s.isOpen = true ∧
      (d.perform (.closeSelector n)).2 = d.rewired n s.closed (d.stores.released s) :=
  Deployment.closeSelector_cases fun _ hs => h.lawful hs

/-- A selector that was closed is closed. -/
theorem isOpen_closeSelector
    (hs : (d.perform (.closeSelector n)).2.selectors.get? n = some s) : s.isOpen = false := by
  simp only [perform] at hs
  cases ht : d.selectors.get? n with
  | none =>
    rw [call_none ht, ht] at hs
    cases hs
  | some t =>
    rw [call_some ht, get?_rewired, if_pos rfl] at hs
    cases hs
    exact t.isOpen_closeOn (Stores.host n) d.stores

theorem Coherent.closeSelector (h : d.Coherent) (n : String) :
    (d.perform (.closeSelector n)).2.Coherent := by
  rcases h.closeSelector_cases n with ⟨-, he⟩ | ⟨s, hs, ho, he⟩
  · rw [he]; exact h
  · rw [he]
    refine h.rewire (get?_rewired d n _ _) s.closed_lawful (h.stores_sound.released s) ?_ ?_
    · intro r id m hm
      rw [stores_rewired, Stores.registered_released]
      constructor
      · exact And.left
      · intro hreg
        refine ⟨hreg, ?_⟩
        intro hid
        -- the id of one selector is not the id of another
        obtain ⟨l, hl, hmem⟩ := hreg
        obtain ⟨l', hl', hmem'⟩ := h.registered_iff.2 ⟨s, hs, hid⟩
        rw [hl] at hl'
        cases hl'
        have := (h.sound hl).eq_of_id_eq hmem hmem' rfl
        simp only [Prod.mk.injEq, Subscriber.table.injEq, true_and] at this
        exact hm this
    · intro r id
      rw [stores_rewired, Stores.registered_released, h.registered_iff,
        Selector.idAt_of_unregistered (s := s.closed) rfl]
      constructor
      · rintro ⟨⟨t, ht, hid⟩, hne⟩
        rw [hs] at ht
        cases ht
        exact absurd hid hne
      · intro hid
        cases hid

/-- A selector that is registered nowhere may be replaced by another one. -/
theorem Coherent.replace (h : d.Coherent) (hs : d.selectors.get? n = some s)
    (hid : s.listener = none) {t : Selector String} (ht : t.Lawful) (htid : t.listener = none)
    {w : Stores} (hw : ∀ r, w.listeners? r = d.stores.listeners? r) :
    (d.rewired n t w).Coherent := by
  have hreg : ∀ r id who, w.Registered r id who ↔ d.stores.Registered r id who := by
    intro r id who
    unfold Stores.Registered
    rw [hw]
  refine h.rewire (get?_rewired d n t w) ht ?_ ?_ ?_
  · intro r l hl
    rw [stores_rewired, hw] at hl
    exact h.sound hl
  · intro r id m _
    exact hreg r id (.table m)
  · intro r id
    rw [stores_rewired, hreg, h.registered_iff, Selector.idAt_of_unregistered htid]
    constructor
    · rintro ⟨t, ht, hat⟩
      rw [hs] at ht
      cases ht
      rw [Selector.idAt_of_unregistered hid] at hat
      cases hat
    · intro hat
      cases hat

/-- A closed selector may have any repository. -/
theorem Coherent.assign (h : d.Coherent)
    (ho : ∀ s, d.selectors.get? n = some s → s.isOpen = false) (repository : Option String) :
    (d.assign n repository).Coherent := by
  unfold Deployment.assign
  cases hs : d.selectors.get? n with
  | none => exact h
  | some s =>
    have hlaw := h.lawful hs
    have hid := hlaw.listener_of_unwired (hlaw.unwired_of_closed (ho s hs))
    exact h.replace hs hid (t := { s with repository }) (hlaw.assigned (ho s hs) repository) hid
      (fun _ => rfl)

/-- What opening a selector comes to: nothing, or it is opened without a repository, or its
repository is opened for it, and then it is wired to it or stays as it was. -/
theorem openSelector_cases (d : Deployment) (n : String) :
    ((∀ s, d.selectors.get? n = some s → s.isOpen = true) ∧
      (d.perform (.openSelector n)).2 = d) ∨
    ∃ s, d.selectors.get? n = some s ∧ s.isOpen = false ∧
      ((s.usable? d.stores = none ∧
        (d.perform (.openSelector n)).2 = d.rewired n { s with isOpen := true } d.stores) ∨
      ∃ r, s.usable? d.stores = some r ∧
        ((d.perform (.openSelector n)).2 = d.rewired n s (d.stores.openStore r).2 ∨
        ((∃ cause, (d.stores.openStore r).2.snapshot r = .error cause) ∧
          (d.perform (.openSelector n)).2 =
            d.rewired n s ((d.stores.openStore r).2.givenUp n r)) ∨
        ∃ entries, (d.stores.openStore r).2.snapshot r = .ok entries ∧
          (d.perform (.openSelector n)).2 =
            d.rewired n (s.wired ((d.stores.openStore r).2.nextListener r) entries)
              ((d.stores.openStore r).2.subscribed n r))) := by
  simp only [perform]
  cases hs : d.selectors.get? n with
  | none =>
    rw [call_none hs]
    refine .inl ⟨?_, rfl⟩
    intro s h
    cases h
  | some s =>
    rw [call_some hs]
    cases ho : s.isOpen with
    | true =>
      -- an open selector is put back as it was
      have he : s.openOn (Stores.host n) d.stores = (.ok (), s, d.stores) := by
        unfold Selector.openOn
        rw [if_pos ho]
      rw [he]
      refine .inl ⟨?_, rewired_self hs⟩
      intro t ht
      cases ht
      exact ho
    | false =>
      refine .inr ⟨s, rfl, ho, ?_⟩
      -- what the selector finds when it asks its repository
      rcases Selector.openOn_cases ho n d.stores with ⟨hu, he⟩ |
        ⟨r, hu, ⟨cause, -, he⟩ | ⟨cause, -, hread, he⟩ | ⟨entries, -, hread, he⟩⟩
      · rw [he]
        exact .inl ⟨hu, rfl⟩
      · rw [he]
        exact .inr ⟨r, hu, .inl rfl⟩
      · rw [he]
        exact .inr ⟨r, hu, .inr (.inl ⟨⟨cause, hread⟩, rfl⟩)⟩
      · rw [he]
        exact .inr ⟨r, hu, .inr (.inr ⟨entries, hread, rfl⟩)⟩

theorem Coherent.openSelector (h : d.Coherent) (n : String) :
    (d.perform (.openSelector n)).2.Coherent := by
  rcases openSelector_cases d n with ⟨-, he⟩ | ⟨s, hs, ho, ⟨-, he⟩ | ⟨r, hu, hr⟩⟩
  · rw [he]; exact h
  · rw [he]
    have hlaw := h.lawful hs
    have hid := hlaw.listener_of_unwired (hlaw.unwired_of_closed ho)
    exact h.replace hs hid (t := { s with isOpen := true }) hlaw.opened hid (fun _ => rfl)
  · have hlaw := h.lawful hs
    have hid := hlaw.listener_of_unwired (hlaw.unwired_of_closed ho)
    -- with the repository opened and everything else as it was
    have hopened : (d.rewired n s (d.stores.openStore r).2).Coherent :=
      h.replace hs hid hlaw hid (Stores.listeners?_openStore d.stores r)
    have hg : (d.rewired n s (d.stores.openStore r).2).selectors.get? n = some s := by
      rw [get?_rewired, if_pos rfl]
    have hsound : (d.stores.openStore r).2.Sound := hopened.stores_sound
    rcases hr with he | ⟨-, he⟩ | ⟨entries, -, he⟩
    · -- it could not be opened
      rw [he]; exact hopened
    · -- it could not be read, and its registration came and went
      rw [he, ← rewired_rewired d n s s (d.stores.openStore r).2]
      refine hopened.rewire (get?_rewired _ n s _) hlaw (hsound.givenUp n r) ?_ ?_
      · intro q id m _
        exact hsound.registered_givenUp
      · intro q id
        rw [stores_rewired, hsound.registered_givenUp]
        exact (hopened.registered_iff (n := n)).trans (by rw [hg]; simp)
    · -- it is registered under an id that nobody had
      obtain ⟨hrep, b, hb, -⟩ := Selector.usable?_eq_some.1 hu
      rw [he, ← rewired_rewired d n s _ (d.stores.openStore r).2]
      refine hopened.rewire (get?_rewired _ n _ _) (Selector.wired_lawful hrep _ entries)
        (hsound.subscribed n r) ?_ ?_
      · intro q id m hm
        rw [stores_rewired, Stores.registered_subscribed]
        simp [hm]
      · intro q id
        rw [stores_rewired, Stores.registered_subscribed]
        have hnone : ¬ (d.stores.openStore r).2.Registered q id (.table n) := by
          intro hreg
          obtain ⟨t, ht, hat⟩ := (hopened.registered_iff (n := n)).1 hreg
          rw [hg] at ht
          cases ht
          rw [Selector.idAt_of_unregistered hid] at hat
          cases hat
        have hlis : ((d.stores.openStore r).2.listeners? r).isSome = true := by
          rw [Stores.listeners?_openStore]
          obtain ⟨l, hl⟩ := Stores.listeners?_of_backing? hb
          rw [hl]
          rfl
        rw [Selector.idAt_eq_some]
        constructor
        · rintro (hreg | ⟨rfl, -, rfl, -⟩)
          · exact absurd hreg hnone
          · exact ⟨hrep, rfl⟩
        · rintro ⟨hq, hat⟩
          cases hrep.symm.trans hq
          cases hat
          exact .inr ⟨rfl, hlis, rfl, rfl⟩

end Deployment

end Admission

import Admission.Proofs.Deployment.Wiring

/-!
# Hosts — a selector among repositories that may do as they like

  A repository may refuse to be opened or to be read, and it may be defined now and
  undefined a moment later. A selector that is opened, closed, reopened and given other
  repositories has to keep five things in step meanwhile: whether it is open, whether it
  is wired, the id that it holds, its tokens, and its registration with a repository.

  Of repositories no more is assumed than that they keep a registry (`Host.Registers`):
  registering and taking away do to it what they should, and nothing else touches it.
  Whether a call succeeds, and what can be read, is left to them. `Orderly` says that the
  five things are in step. Closing, wiring and giving up keep it, so every call does, and
  `Reached.in_step` reads off what that means for every state of every run, and for every
  call that fails.
-/

namespace Admission

/-! ### Registries -/

namespace Registry

/-- How often somebody is registered. -/
def countOf (l : Registry Subscriber) (who : Subscriber) : Nat :=
  (l.listeners.filter fun x => x.2 == who).length

theorem countOf_eq_zero {l : Registry Subscriber} {who : Subscriber}
    (h : ∀ id, (id, who) ∉ l.listeners) : l.countOf who = 0 := by
  unfold countOf
  rw [List.length_eq_zero_iff, List.filter_eq_nil_iff]
  rintro ⟨id, x⟩ hx he
  have hwho : x = who := beq_iff_eq.1 he
  exact h id (hwho ▸ hx)

/-- Who is registered under one id and no other is registered once. -/
theorem Sound.countOf_eq_one {l : Registry Subscriber} (hl : l.Sound) {who : Subscriber}
    {id : ListenerId} (h : ∀ i, (i, who) ∈ l.listeners ↔ i = id) : l.countOf who = 1 := by
  have hdistinct := hl.distinct.filter fun x => x.2 == who
  have hids : ∀ x ∈ l.listeners.filter (fun x => x.2 == who), x.1 = id := by
    rintro ⟨i, x⟩ hx
    obtain ⟨hx, he⟩ := List.mem_filter.1 hx
    have hwho : x = who := beq_iff_eq.1 he
    exact (h i).1 (hwho ▸ hx)
  have hmem : (id, who) ∈ l.listeners.filter fun x => x.2 == who :=
    List.mem_filter.2 ⟨(h id).2 rfl, beq_self_eq_true who⟩
  unfold countOf
  generalize l.listeners.filter (fun x => x.2 == who) = found at hdistinct hids hmem ⊢
  match found with
  | [] => cases hmem
  | [_] => rfl
  | a :: b :: rest =>
    -- two registrations would have two ids
    have hab := (List.pairwise_cons.1 hdistinct).1 b List.mem_cons_self
    have ha := hids a List.mem_cons_self
    have hb := hids b (List.mem_cons_of_mem _ List.mem_cons_self)
    exact absurd (ha.trans hb.symm) hab

end Registry

/-! ### Repositories that keep a registry -/

variable {ρ σ : Type}

namespace Host

/-- Repositories keep a registry: the selector of a name is added to it and taken away from
it, and whatever else is done with them leaves it alone. -/
structure Registers (h : Host ρ σ) (n : String)
    (registry : ρ → σ → Option (Registry Subscriber)) : Prop where
  /-- A repository that is defined has a registry. -/
  defined : ∀ q w, (h.isDefined q w).1 = true → ((registry q w).isSome = true)
  /-- Asking whether a repository is defined leaves every registry alone. -/
  isDefined : ∀ q w r, registry r (h.isDefined q w).2 = registry r w
  /-- Opening a repository does. -/
  openStore : ∀ q w r, registry r (h.openStore q w).2 = registry r w
  /-- Closing a repository does. -/
  closeStore : ∀ q w r, registry r (h.closeStore q w) = registry r w
  /-- Reading a repository does. -/
  snapshot : ∀ q w r, registry r (h.snapshot q w).2 = registry r w
  /-- The id that is given is the next one. -/
  subscribe_id : ∀ q w l, registry q w = some l → (h.subscribe q w).1 = l.nextId
  /-- Registering adds the selector's table to the registry. -/
  subscribe : ∀ q w, registry q (h.subscribe q w).2 = (registry q w).map (·.add (.table n))
  /-- It leaves the other registries alone. -/
  subscribe_other : ∀ q w r, r ≠ q → registry r (h.subscribe q w).2 = registry r w
  /-- Taking a registration away removes its id from the registry. -/
  unsubscribe : ∀ q id w, registry q (h.unsubscribe q id w) = (registry q w).map (·.remove id)
  /-- It leaves the other registries alone. -/
  unsubscribe_other : ∀ q id w r, r ≠ q → registry r (h.unsubscribe q id w) = registry r w

/-- Whether the selector of a name is registered with a repository under an id. -/
def Registered (registry : ρ → σ → Option (Registry Subscriber)) (n : String) (w : σ) (r : ρ)
    (id : ListenerId) : Prop :=
  ∃ l, registry r w = some l ∧ (id, Subscriber.table n) ∈ l.listeners

/-- How often the selector of a name is registered with a repository. -/
def registrations (registry : ρ → σ → Option (Registry Subscriber)) (n : String) (w : σ)
    (r : ρ) : Nat :=
  match registry r w with
  | some l => l.countOf (.table n)
  | none => 0

/-- Whether every registry has different ids. -/
def Sound (registry : ρ → σ → Option (Registry Subscriber)) (w : σ) : Prop :=
  ∀ r l, registry r w = some l → l.Sound

variable {h : Host ρ σ} {n : String} {registry : ρ → σ → Option (Registry Subscriber)}
  {w w' : σ} {q r : ρ} {id i : ListenerId}

theorem Sound.of_same (hw : Sound registry w) (hs : ∀ r, registry r w' = registry r w) :
    Sound registry w' :=
  fun r l hl => hw r l (hs r ▸ hl)

theorem registered_of_same (hs : ∀ r, registry r w' = registry r w) :
    Registered registry n w' r id ↔ Registered registry n w r id := by
  unfold Registered
  rw [hs]

variable (hh : h.Registers n registry)
include hh

theorem Registers.sound_subscribe (hw : Sound registry w) (q : ρ) :
    Sound registry (h.subscribe q w).2 := by
  intro r l hl
  by_cases hr : r = q
  · rw [hr, hh.subscribe] at hl
    obtain ⟨x, hx, rfl⟩ := Option.map_eq_some_iff.1 hl
    exact (hw q x hx).add _
  · rw [hh.subscribe_other q w r hr] at hl
    exact hw r l hl

theorem Registers.sound_unsubscribe (hw : Sound registry w) (q : ρ) (i : ListenerId) :
    Sound registry (h.unsubscribe q i w) := by
  intro r l hl
  by_cases hr : r = q
  · rw [hr, hh.unsubscribe] at hl
    obtain ⟨x, hx, rfl⟩ := Option.map_eq_some_iff.1 hl
    exact (hw q x hx).remove _
  · rw [hh.unsubscribe_other q i w r hr] at hl
    exact hw r l hl

/-- Registering a selector adds one registration of it. -/
theorem Registers.registered_subscribe {l : Registry Subscriber} (hl : registry q w = some l) :
    Registered registry n (h.subscribe q w).2 r id ↔
      Registered registry n w r id ∨ (r = q ∧ id = (h.subscribe q w).1) := by
  unfold Registered
  rw [hh.subscribe_id q w l hl]
  by_cases hr : r = q
  · rw [hr, hh.subscribe, hl]
    simp [Registry.mem_add, Prod.mk.injEq]
  · rw [hh.subscribe_other q w r hr]
    simp [hr]

/-- Taking a registration away takes that one away and no other. -/
theorem Registers.registered_unsubscribe :
    Registered registry n (h.unsubscribe q i w) r id ↔
      Registered registry n w r id ∧ ¬ (r = q ∧ id = i) := by
  unfold Registered
  by_cases hr : r = q
  · rw [hr, hh.unsubscribe]
    cases registry q w with
    | none => simp
    | some l => simp [Registry.mem_remove]
  · rw [hh.unsubscribe_other q i w r hr]
    simp [hr]

end Host

/-! ### Selectors in step with the registries -/

namespace Selector

/-- A selector keeps its promises, and is registered where and as it thinks it is. -/
structure Orderly (registry : ρ → σ → Option (Registry Subscriber)) (n : String)
    (s : Selector ρ) (w : σ) : Prop where
  /-- The selector keeps its promises. -/
  lawful : s.Lawful
  /-- Every registry has different ids. -/
  sound : Host.Sound registry w
  /-- The selector is registered with its repository under the id that it holds, and nowhere
  else. -/
  registered_iff : ∀ r id,
    Host.Registered registry n w r id ↔ s.repository = some r ∧ s.listener = some id

variable {h : Host ρ σ} {n : String} {registry : ρ → σ → Option (Registry Subscriber)}
  {s : Selector ρ} {w : σ}

/-- A selector that is in step is registered once where it is wired, and nowhere else. -/
theorem Orderly.registrations_eq [DecidableEq ρ] (ho : Orderly registry n s w) (r : ρ) :
    Host.registrations registry n w r =
      if s.isWired = true ∧ s.repository = some r then 1 else 0 := by
  by_cases hr : s.isWired = true ∧ s.repository = some r
  · rw [if_pos hr]
    obtain ⟨id, hid⟩ := Option.isSome_iff_exists.1 (ho.lawful.wired_eq ▸ hr.1)
    obtain ⟨l, hl, -⟩ := (ho.registered_iff r id).2 ⟨hr.2, hid⟩
    have honly : ∀ i, (i, Subscriber.table n) ∈ l.listeners ↔ i = id := by
      intro i
      have hi := ho.registered_iff r i
      unfold Host.Registered at hi
      simp only [hl, Option.some.injEq, exists_eq_left', hr.2, hid, true_and] at hi
      exact hi.trans eq_comm
    unfold Host.registrations
    rw [hl]
    exact (ho.sound r l hl).countOf_eq_one honly
  · rw [if_neg hr]
    unfold Host.registrations
    split
    · next l hl =>
      refine Registry.countOf_eq_zero fun id hm => hr ?_
      obtain ⟨hrep, hid⟩ := (ho.registered_iff r id).1 ⟨l, hl, hm⟩
      exact ⟨ho.lawful.wired_of_listener hid, hrep⟩
    · rfl

/-- A selector that holds nothing of a repository. -/
structure AtRest (s : Selector ρ) : Prop where
  /-- It is closed. -/
  isOpen : s.isOpen = false
  /-- It is not wired. -/
  isWired : s.isWired = false
  /-- It holds no id. -/
  listener : s.listener = none
  /-- It has no tokens. -/
  tokens : s.table.tokens = KeyMap.empty

theorem Lawful.atRest (hl : s.Lawful) (ho : s.isOpen = false) : s.AtRest :=
  have hw := hl.unwired_of_closed ho
  ⟨ho, hw, hl.listener_of_unwired hw, hl.tokens_of_unwired hw⟩

/-- A selector without an id that is in step is registered nowhere. -/
theorem Orderly.not_registered (ho : Orderly registry n s w) (hid : s.listener = none) (r : ρ)
    (id : ListenerId) : ¬ Host.Registered registry n w r id := by
  rw [ho.registered_iff, hid]
  rintro ⟨-, h⟩
  cases h

/-- A selector without an id is in step wherever no registration of it is left. -/
theorem orderly_of_not_registered (hl : s.Lawful) (hid : s.listener = none)
    (hw : Host.Sound registry w) (hn : ∀ r id, ¬ Host.Registered registry n w r id) :
    Orderly registry n s w := by
  refine ⟨hl, hw, fun r id => ?_⟩
  rw [hid]
  exact iff_of_false (hn r id) (by rintro ⟨-, h⟩; cases h)

/-! ### Closing -/

/-- What is left of the repositories when a selector lets go of its own. -/
def releasedOn (h : Host ρ σ) (s : Selector ρ) (w : σ) : σ :=
  match s.repository with
  | none => w
  | some r =>
    h.closeStore r <|
      match s.listener with
      | some id => h.unsubscribe r id w
      | none => w

/-- Closing an open selector lets go of its repository and drops its tokens. -/
theorem Lawful.closeOn_open (hl : s.Lawful) (ho : s.isOpen = true) (h : Host ρ σ) (w : σ) :
    s.closeOn h w = (s.closed, s.releasedOn h w) := by
  unfold closeOn closed releasedOn
  rw [ho]
  cases hrep : s.repository with
  | some r => rfl
  | none =>
    -- without a repository it is not wired, so there is no id to forget
    have hw : s.isWired = false := by
      cases hw : s.isWired with
      | false => rfl
      | true =>
        have := hl.repository_of_wired hw
        rw [hrep] at this
        cases this
    have hid := hl.listener_of_unwired hw
    simp [hid]

/-- Closing a closed selector does nothing at all. -/
theorem closeOn_closed (ho : s.isOpen = false) (h : Host ρ σ) (w : σ) :
    s.closeOn h w = (s, w) := by
  unfold closeOn
  rw [ho]
  rfl

theorem isOpen_closeOn (s : Selector ρ) (h : Host ρ σ) (w : σ) :
    (s.closeOn h w).1.isOpen = false := by
  cases ho : s.isOpen with
  | true =>
    unfold closeOn
    rw [ho]
    cases s.repository with
    | none => rfl
    | some r => rfl
  | false =>
    rw [closeOn_closed ho]
    exact ho

/-- Letting go takes away the registration of the selector. -/
theorem Orderly.releasedOn (hh : h.Registers n registry) (ho : Orderly registry n s w) :
    Orderly registry n s.closed (s.releasedOn h w) := by
  have hnone : ∀ r id, Host.Registered registry n w r id →
      s.repository = some r ∧ s.listener = some id := fun r id => (ho.registered_iff r id).1
  unfold Selector.releasedOn
  cases hrep : s.repository with
  | none =>
    refine orderly_of_not_registered s.closed_lawful rfl ho.sound fun r id hreg => ?_
    rw [hrep] at hnone
    cases (hnone r id hreg).1
  | some q =>
    have hsame := hh.closeStore q
    cases hid : s.listener with
    | none =>
      refine orderly_of_not_registered s.closed_lawful rfl (ho.sound.of_same (hsame w)) ?_
      intro r id hreg
      exact ho.not_registered hid r id ((Host.registered_of_same (hsame w)).1 hreg)
    | some i =>
      refine orderly_of_not_registered s.closed_lawful rfl
        ((hh.sound_unsubscribe ho.sound q i).of_same (hsame _)) ?_
      -- a registration that is left was there before, and there was only the one that is gone
      intro r id hreg
      obtain ⟨hreg, hne⟩ := hh.registered_unsubscribe.1
        ((Host.registered_of_same (hsame (h.unsubscribe q i w))).1 hreg)
      obtain ⟨hr, hi⟩ := hnone r id hreg
      rw [hrep] at hr
      rw [hid] at hi
      exact hne ⟨(Option.some.inj hr).symm, (Option.some.inj hi).symm⟩

/-- Closing keeps a selector in step, and leaves it closed. -/
theorem Orderly.closeOn (hh : h.Registers n registry) (ho : Orderly registry n s w) :
    Orderly registry n (s.closeOn h w).1 (s.closeOn h w).2 ∧
      (s.closeOn h w).1.isOpen = false := by
  refine ⟨?_, s.isOpen_closeOn h w⟩
  cases hopen : s.isOpen with
  | true =>
    rw [ho.lawful.closeOn_open hopen]
    exact ho.releasedOn hh
  | false =>
    rw [closeOn_closed hopen]
    exact ho

/-! ### Opening -/

/-- Wiring loads all tokens, or takes the registration away again. -/
theorem wire_cases (h : Host ρ σ) (q : ρ) (s : Selector ρ) (w : σ) :
    (∃ entries, s.wire h q w =
      (.ok (), s.wired (h.subscribe q w).1 entries, (h.snapshot q (h.subscribe q w).2).2)) ∨
    ∃ cause, s.wire h q w = (.error cause, s, h.closeStore q
      (h.unsubscribe q (h.subscribe q w).1 (h.snapshot q (h.subscribe q w).2).2)) := by
  unfold wire
  generalize hread : h.snapshot q (h.subscribe q w).2 = read
  obtain ⟨source, w'⟩ := read
  cases source with
  | ok entries => exact .inl ⟨entries, by simp only [hread]; rfl⟩
  | error cause => exact .inr ⟨cause, by simp only [hread]; rfl⟩

/-- A repository that a selector would use is its own, and defined. -/
theorem definedRepository_eq_some {q : ρ} {w' : σ}
    (hd : s.definedRepository h w = (some q, w')) :
    s.repository = some q ∧ (h.isDefined q w).1 = true := by
  unfold definedRepository at hd
  split at hd
  · cases hd
  · next r hrep =>
    obtain ⟨hq, -⟩ := Prod.mk.inj hd
    split at hq
    · next hdefined =>
      cases hq
      exact ⟨hrep, hdefined⟩
    · cases hq

/-- Looking for a repository to use leaves every registry alone. -/
theorem registry_definedRepository (hh : h.Registers n registry) {usable : Option ρ} {w' : σ}
    (hd : s.definedRepository h w = (usable, w')) (r : ρ) : registry r w' = registry r w := by
  unfold definedRepository at hd
  split at hd
  · cases hd; rfl
  · next q hrep =>
    obtain ⟨-, rfl⟩ := Prod.mk.inj hd
    exact hh.isDefined q w r

/-- Opening a closed selector comes to one of three things: there is no repository to use, or
the repository cannot be opened, or it was opened and the selector is to be wired to it. -/
theorem openOn_host_cases (ho : s.isOpen = false) (h : Host ρ σ) (w : σ) :
    (∃ w', s.definedRepository h w = (none, w') ∧
      s.openOn h w = (.ok (), { s with isOpen := true }, w')) ∨
    ∃ q w', s.definedRepository h w = (some q, w') ∧
      ((∃ cause, (h.openStore q w').1 = .error cause ∧
        s.openOn h w = (.error cause, s, (h.openStore q w').2)) ∨
      ((h.openStore q w').1 = .ok () ∧ s.openOn h w = s.wire h q (h.openStore q w').2)) := by
  unfold openOn
  rw [ho]
  obtain ⟨usable, w'⟩ := s.definedRepository h w
  cases usable with
  | none => exact .inl ⟨w', rfl, rfl⟩
  | some q =>
    refine .inr ⟨q, w', rfl, ?_⟩
    simp only [Bool.false_eq_true, if_false]
    generalize h.openStore q w' = opened
    obtain ⟨outcome, w'⟩ := opened
    cases outcome with
    | error cause => exact .inl ⟨cause, rfl, rfl⟩
    | ok u => exact .inr ⟨rfl, rfl⟩

theorem Orderly.of_same (ho : Orderly registry n s w) {w' : σ}
    (hs : ∀ r, registry r w' = registry r w) : Orderly registry n s w' :=
  ⟨ho.lawful, ho.sound.of_same hs, fun r id =>
    (Host.registered_of_same hs).trans (ho.registered_iff r id)⟩

/-- Wiring a closed selector keeps it in step, and if it fails the selector is what it was. -/
theorem Orderly.wire (hh : h.Registers n registry) (ho : Orderly registry n s w)
    (hopen : s.isOpen = false) {q : ρ} (hrep : s.repository = some q)
    (hq : (registry q w).isSome = true) :
    Orderly registry n (s.wire h q w).2.1 (s.wire h q w).2.2 ∧
      ∀ cause, (s.wire h q w).1 = .error cause → (s.wire h q w).2.1 = s := by
  obtain ⟨l, hl⟩ := Option.isSome_iff_exists.1 hq
  have hnone := ho.not_registered (ho.lawful.atRest hopen).listener
  have hsound := hh.sound_subscribe ho.sound q
  have hread := hh.snapshot q (h.subscribe q w).2
  rcases wire_cases h q s w with ⟨entries, he⟩ | ⟨cause, he⟩
  · rw [he]
    refine ⟨⟨wired_lawful hrep _ entries, hsound.of_same hread, fun r id => ?_⟩, fun _ hc => ?_⟩
    · -- it was registered nowhere, so now it is under the new id alone
      rw [Host.registered_of_same hread, hh.registered_subscribe hl]
      show _ ↔ s.repository = some r ∧ some (h.subscribe q w).1 = some id
      rw [hrep, Option.some.injEq, Option.some.injEq, eq_comm (a := q), eq_comm (b := id)]
      exact ⟨fun hreg => hreg.resolve_left (hnone r id), .inr⟩
    · cases hc
  · rw [he]
    have hgone := hh.closeStore q
      (h.unsubscribe q (h.subscribe q w).1 (h.snapshot q (h.subscribe q w).2).2)
    refine ⟨orderly_of_not_registered ho.lawful (ho.lawful.atRest hopen).listener
      ((hh.sound_unsubscribe (hsound.of_same hread) q _).of_same hgone) ?_, fun _ _ => rfl⟩
    -- the registration that is taken away is the only one there was
    intro r id hreg
    rw [Host.registered_of_same hgone, hh.registered_unsubscribe, Host.registered_of_same hread,
      hh.registered_subscribe hl] at hreg
    obtain ⟨hreg | hreg, hne⟩ := hreg
    · exact hnone r id hreg
    · exact hne hreg

/-- Opening keeps a selector in step, and if it fails the selector is closed as it was. -/
theorem Orderly.openOn (hh : h.Registers n registry) (ho : Orderly registry n s w) :
    Orderly registry n (s.openOn h w).2.1 (s.openOn h w).2.2 ∧
      ∀ cause, (s.openOn h w).1 = .error cause →
        (s.openOn h w).2.1 = s ∧ s.isOpen = false := by
  cases hopen : s.isOpen with
  | true =>
    have he : s.openOn h w = (.ok (), s, w) := by
      unfold Selector.openOn
      rw [if_pos hopen]
    rw [he]
    exact ⟨ho, fun _ hc => by cases hc⟩
  | false =>
    rcases openOn_host_cases hopen h w with ⟨w', hd, he⟩ | ⟨q, w', hd, ⟨cause, -, he⟩ | ⟨-, he⟩⟩
    · have hsame : ∀ r, registry r w' = registry r w := registry_definedRepository hh hd
      rw [he]
      have ho' := ho.of_same hsame
      exact ⟨⟨ho.lawful.opened, ho'.sound, ho'.registered_iff⟩, fun _ hc => by cases hc⟩
    · rw [he]
      refine ⟨ho.of_same fun r => ?_, fun _ _ => ⟨rfl, rfl⟩⟩
      rw [hh.openStore, registry_definedRepository hh hd]
    · have hsame : ∀ r, registry r (h.openStore q w').2 = registry r w := by
        intro r
        rw [hh.openStore, registry_definedRepository hh hd]
      obtain ⟨hrep, hdefined⟩ := definedRepository_eq_some hd
      have hq : (registry q (h.openStore q w').2).isSome = true := by
        rw [hsame]
        exact hh.defined q w hdefined
      obtain ⟨hkept, hfail⟩ := (ho.of_same hsame).wire hh hopen hrep hq
      rw [he]
      exact ⟨hkept, fun cause hc => ⟨hfail cause hc, rfl⟩⟩

/-- A closed selector may have any repository. -/
theorem Orderly.assign (ho : Orderly registry n s w) (hopen : s.isOpen = false)
    (repository : Option ρ) : Orderly registry n { s with repository } w := by
  have hid := (ho.lawful.atRest hopen).listener
  exact orderly_of_not_registered (s := { s with repository })
    (ho.lawful.assigned hopen repository) hid ho.sound (ho.not_registered hid)

/-! ### Calls -/

/-- What is done with a selector. -/
inductive Call (ρ : Type) where
  /-- It is opened. -/
  | openSelector
  /-- It is closed. -/
  | closeSelector
  /-- It is closed and opened again. -/
  | reopenSelector
  /-- It is given another repository. -/
  | setRepository (repository : Option ρ)

/-- What a call comes to, and the selector and the repositories after it. -/
def Call.perform (h : Host ρ σ) (s : Selector ρ) (w : σ) :
    Call ρ → Except Fault Unit × Selector ρ × σ
  | openSelector => s.openOn h w
  | closeSelector =>
    let (s, w) := s.closeOn h w
    (.ok (), s, w)
  | reopenSelector => s.reopenOn h w
  | setRepository repository => s.setRepositoryOn h repository w

/-- Every call keeps a selector in step, and one that fails leaves it closed. -/
theorem Orderly.call (hh : h.Registers n registry) (ho : Orderly registry n s w) (c : Call ρ) :
    Orderly registry n (c.perform h s w).2.1 (c.perform h s w).2.2 ∧
      ∀ cause, (c.perform h s w).1 = .error cause →
        (c.perform h s w).2.1.isOpen = false ∧
          ∀ repository, c = .setRepository repository →
            (c.perform h s w).2.1.repository = repository := by
  cases c with
  | openSelector =>
    obtain ⟨hkept, hfail⟩ := ho.openOn hh
    refine ⟨hkept, fun cause hc => ⟨?_, fun _ he => by cases he⟩⟩
    obtain ⟨he, hclosed⟩ := hfail cause hc
    show (s.openOn h w).2.1.isOpen = false
    rw [he]
    exact hclosed
  | closeSelector => exact ⟨(ho.closeOn hh).1, fun _ hc => by cases hc⟩
  | reopenSelector =>
    obtain ⟨hclosed, hopen⟩ := ho.closeOn hh
    obtain ⟨hkept, hfail⟩ := hclosed.openOn hh
    refine ⟨hkept, fun cause hc => ⟨?_, fun _ he => by cases he⟩⟩
    -- what cannot be opened again stays as closing left it
    show ((s.closeOn h w).1.openOn h (s.closeOn h w).2).2.1.isOpen = false
    rw [(hfail cause hc).1]
    exact hopen
  | setRepository repository =>
    cases hs : s.isOpen with
    | false =>
      have he : s.setRepositoryOn h repository w = (.ok (), { s with repository }, w) := by
        unfold setRepositoryOn
        rw [hs]
        rfl
      show Orderly registry n (s.setRepositoryOn h repository w).2.1 _ ∧ _
      simp only [Call.perform, he]
      exact ⟨ho.assign hs repository, fun _ hc => by cases hc⟩
    | true =>
      have he : s.setRepositoryOn h repository w =
          ({ (s.closeOn h w).1 with repository } : Selector ρ).openOn h (s.closeOn h w).2 := by
        unfold setRepositoryOn
        rw [hs]
        rfl
      -- the repository is assigned between closing and opening, so a failure leaves it assigned
      obtain ⟨hclosed, hopen⟩ := ho.closeOn hh
      obtain ⟨hkept, hfail⟩ := (hclosed.assign hopen repository).openOn hh
      simp only [Call.perform, he]
      refine ⟨hkept, fun cause hc => ?_⟩
      obtain ⟨hsame, hshut⟩ := hfail cause hc
      rw [hsame]
      exact ⟨hshut, fun _ heq => by cases heq; rfl⟩

/-! ### Runs -/

/-- The selectors of a name, and the repositories with them, that a run can come to: a new
selector is called again and again, its table hears events where it is registered, and
whatever else happens to the repositories leaves its own registrations alone. -/
inductive Reached (h : Host ρ σ) (n : String) (registry : ρ → σ → Option (Registry Subscriber)) :
    Selector ρ → σ → Prop where
  /-- A new selector, which nobody has registered. -/
  | begun (whenUndefined : Bool) (repository : Option ρ) {w : σ} (sound : Host.Sound registry w)
      (unregistered : ∀ r id, ¬ Host.Registered registry n w r id) :
      Reached h n registry { whenUndefined, repository } w
  /-- The selector was called. -/
  | called {s : Selector ρ} {w : σ} (c : Call ρ) (before : Reached h n registry s w) :
      Reached h n registry (c.perform h s w).2.1 (c.perform h s w).2.2
  /-- A registered table heard an event. -/
  | heard {s : Selector ρ} {w : σ} {r : ρ} {id : ListenerId} (snapshot : Except Fault Entries)
      (event : ChangeEvent) (before : Reached h n registry s w)
      (registered : Host.Registered registry n w r id) :
      Reached h n registry (s.hear snapshot event) w
  /-- Something else happened. -/
  | meanwhile {s : Selector ρ} {w w' : σ} (before : Reached h n registry s w)
      (sound : Host.Sound registry w')
      (same : ∀ r id, Host.Registered registry n w' r id ↔ Host.Registered registry n w r id) :
      Reached h n registry s w'

/-- Only the table of a wired selector hears, which keeps it in step. -/
theorem Orderly.hear (ho : Orderly registry n s w) {r : ρ} {id : ListenerId}
    (hreg : Host.Registered registry n w r id) (snapshot : Except Fault Entries)
    (event : ChangeEvent) : Orderly registry n (s.hear snapshot event) w := by
  have hw := ho.lawful.wired_of_listener ((ho.registered_iff r id).1 hreg).2
  have hsame : s.SameWiring (s.hear snapshot event) :=
    ⟨rfl, rfl, rfl, rfl, fun hu => by rw [hw] at hu; cases hu⟩
  exact ⟨hsame.lawful ho.lawful, ho.sound, ho.registered_iff⟩

/-- Whatever a run comes to is in step. -/
theorem Reached.orderly (hh : h.Registers n registry) (hr : Reached h n registry s w) :
    Orderly registry n s w := by
  induction hr with
  | begun whenUndefined repository sound unregistered =>
    exact orderly_of_not_registered (new_lawful whenUndefined repository) rfl sound unregistered
  | called c _ ih => exact (ih.call hh c).1
  | heard snapshot event _ registered ih => exact ih.hear registered snapshot event
  | meanwhile _ sound same ih =>
    exact ⟨ih.lawful, sound, fun r id => (same r id).trans (ih.registered_iff r id)⟩

/-- In every state of every run, a closed selector is at rest; a selector is wired exactly when
it has an id, and open then; it is registered once where it is wired, and nowhere else; a call
that fails leaves it at rest, registered nowhere, and with the repository that it was to get;
and closing a closed one does nothing to any repository. -/
theorem Reached.in_step [DecidableEq ρ] (hh : h.Registers n registry) (hr : Reached h n registry s w) :
    (s.isOpen = false → s.AtRest) ∧
    (s.isWired = true ↔ ∃ id, s.listener = some id) ∧
    (s.isWired = true → s.isOpen = true) ∧
    (∀ r, Host.registrations registry n w r =
      if s.isWired = true ∧ s.repository = some r then 1 else 0) ∧
    (∀ c cause, (Call.perform h s w c).1 = .error cause →
      (Call.perform h s w c).2.1.AtRest ∧
      (∀ r, Host.registrations registry n (Call.perform h s w c).2.2 r = 0) ∧
      ∀ repository, c = .setRepository repository →
        (Call.perform h s w c).2.1.repository = repository) ∧
    (s.isOpen = false → ∀ (h' : Host ρ σ) (w' : σ), s.closeOn h' w' = (s, w')) := by
  have ho := hr.orderly hh
  refine ⟨ho.lawful.atRest, ?_, ho.lawful.isOpen_of_wired, ho.registrations_eq, ?_,
    closeOn_closed⟩
  · rw [ho.lawful.wired_eq, Option.isSome_iff_exists]
  · intro c cause hc
    obtain ⟨hkept, hfail⟩ := ho.call hh c
    obtain ⟨hclosed, hrep⟩ := hfail cause hc
    have hrest := hkept.lawful.atRest hclosed
    refine ⟨hrest, fun r => ?_, hrep⟩
    rw [hkept.registrations_eq, if_neg]
    rw [hrest.isWired]
    rintro ⟨hw, -⟩
    cases hw

end Selector

/-! ### The repositories of a deployment -/

/-- The repositories of a deployment keep a registry. -/
theorem Stores.registers_host (n : String) :
    (Stores.host n).Registers n fun r w => w.listeners? r where
  defined q w hd := by
    obtain ⟨b, hb, -⟩ := (Option.any_eq_true _ _).1 hd
    obtain ⟨l, hl⟩ := listeners?_of_backing? hb
    rw [hl]
    rfl
  isDefined _ _ _ := rfl
  openStore q w r := listeners?_openStore w q r
  closeStore q w r := listeners?_closeStore w q r
  snapshot _ _ _ := rfl
  subscribe_id _ _ _ hl := nextListener_eq hl
  subscribe q w := (listeners?_listen w q (.table n) q).trans (if_pos rfl)
  subscribe_other q w r hr := (listeners?_listen w q (.table n) r).trans (if_neg hr)
  unsubscribe q id w := (listeners?_unlisten w q id q).trans (if_pos rfl)
  unsubscribe_other q id w r hr := (listeners?_unlisten w q id r).trans (if_neg hr)

namespace Selector

/-- What a deployment does with a selector when it is called. -/
def Call.operation (n : String) : Call String → Deployment.Operation
  | openSelector => .openSelector n
  | closeSelector => .closeSelector n
  | reopenSelector => .reopenSelector n
  | setRepository repository => .setRepository n repository

theorem Call.perform_operation (c : Call String) (n : String) (d : Deployment) :
    d.perform (c.operation n) = d.call n fun h s w => c.perform h s w := by
  cases c with
  | openSelector => rfl
  | closeSelector => rfl
  | reopenSelector => rfl
  | setRepository repository => rfl

/-- In a coherent deployment every selector is in step with the repositories. -/
theorem orderly_of_coherent {d : Deployment} (h : d.Coherent) {n : String} {s : Selector String}
    (hs : d.selectors.get? n = some s) : Orderly (fun r w => w.listeners? r) n s d.stores := by
  refine ⟨h.lawful hs, h.stores_sound, fun r id => ?_⟩
  have hreg : d.stores.Registered r id (.table n) ↔ s.idAt r = some id := by
    rw [h.registered_iff, hs]
    simp
  exact hreg.trans idAt_eq_some

/-- A store in memory, and one that can be opened but not read; nobody listens to them. -/
def readableAndSealed : Stores where
  repositories := (KeyMap.empty.insert "levels" { backing := .memory {} }).insert "sealed"
    { backing := .stub { refusals := { reading := true } } }

/-- What it comes to when a selector is opened at the store in memory. -/
def openedAtLevels : Except Fault Unit × Selector String × Stores :=
  Call.openSelector.perform (Stores.host "s") { repository := some "levels" } readableAndSealed

/-- What it comes to when this selector is to have the other store. -/
def movedToSealed : Except Fault Unit × Selector String × Stores :=
  (Call.setRepository (some "sealed")).perform (Stores.host "s") openedAtLevels.2.1
    openedAtLevels.2.2

/-- A selector is wired to the store that can be read; when it gets the other one it is closed,
has that one, and is registered with neither. -/
theorem Reached.in_step_sealed :
    openedAtLevels.2.1.isWired = true ∧
    Host.registrations (fun r (w : Stores) => w.listeners? r) "s" openedAtLevels.2.2 "levels" =
      1 ∧
    movedToSealed.1 = .error (.stated .io "snapshot refused") ∧ movedToSealed.2.1.AtRest ∧
    movedToSealed.2.1.repository = some "sealed" ∧
    ∀ r, Host.registrations (fun r (w : Stores) => w.listeners? r) "s" movedToSealed.2.2 r = 0 := by
  -- nobody is registered at the beginning
  have hempty : ∀ r l, readableAndSealed.listeners? r = some l → l = {} := by
    intro r l hl
    obtain ⟨x, hx, rfl⟩ := Option.map_eq_some_iff.1 hl
    change ((KeyMap.empty.insert _ _).insert _ _).get? r = some x at hx
    rw [KeyMap.get?_insert, KeyMap.get?_insert] at hx
    split at hx
    · cases hx; rfl
    · split at hx
      · cases hx; rfl
      · cases hx
  have hbegun : Reached (Stores.host "s") "s" (fun r w => w.listeners? r)
      { repository := some "levels" } readableAndSealed := by
    refine .begun true (some "levels") (fun r l hl => ?_) ?_
    · rw [hempty r l hl]
      exact Registry.sound_empty
    · rintro r id ⟨l, hl, hm⟩
      rw [hempty r l hl] at hm
      cases hm
  have hwired : openedAtLevels.2.1.isWired = true ∧
      openedAtLevels.2.1.repository = some "levels" := by
    decide
  have hfails : movedToSealed.1 = .error (.stated .io "snapshot refused") := rfl
  obtain ⟨-, -, -, hcount, hfail, -⟩ :=
    Reached.in_step (Stores.registers_host "s") (hbegun.called .openSelector)
  obtain ⟨hrest, hgone, hrep⟩ := hfail _ _ hfails
  exact ⟨hwired.1, (hcount "levels").trans (if_pos hwired), hfails, hrest, hrep _ rfl, hgone⟩

end Selector

end Admission

import Admission.Proofs.Deployment.Hosts

/-!
# The lifecycle of a selector — opening and closing

  Closing an open selector takes its registration away and closes its repository
  (`Lawful.closeOn_eq`). Opening a closed one comes to one of four things
  (`openOn_cases`): there is no repository to use, the repository cannot be opened, it
  was opened but cannot be read, or the selector is wired to it.

  Either way the stores change at one repository at most. What is left there has its
  equations first: `released` after closing, `subscribed` after wiring, and `givenUp`
  where wiring failed.
-/

namespace Admission

/-! ### Closing -/

namespace Stores

/-- The repositories after a selector that was open let go of them. -/
def released (s : Selector String) (w : Stores) : Stores :=
  match s.repository with
  | none => w
  | some r =>
    (match s.listener with
    | some id => w.modify r (·.unlisten id)
    | none => w).closeStore r

/-- A selector that lets go takes its own registration away and no other. -/
theorem listeners?_released (s : Selector String) (w : Stores) (r : String) :
    (w.released s).listeners? r =
      match s.idAt r with
      | some id => (w.listeners? r).map (·.remove id)
      | none => w.listeners? r := by
  unfold released Selector.idAt
  cases hrep : s.repository with
  | none => rfl
  | some q =>
    simp only [listeners?_closeStore, Option.some.injEq]
    cases s.listener with
    | none => rw [ite_self]
    | some id =>
      simp only [listeners?_unlisten]
      by_cases hr : r = q
      · rw [if_pos hr, hr, if_pos rfl]
      · rw [if_neg hr, if_neg (Ne.symm hr)]

/-- A selector that lets go closes its repository and no other. -/
theorem backing?_released (s : Selector String) (w : Stores) (r : String) :
    (w.released s).backing? r =
      if s.repository = some r then (w.backing? r).map Backing.closeStore else w.backing? r := by
  unfold released
  cases hrep : s.repository with
  | none => rfl
  | some q =>
    simp only [backing?_closeStore, Option.some.injEq]
    have hq : ∀ r, (match s.listener with
        | some id => w.modify q (·.unlisten id)
        | none => w).backing? r = w.backing? r := by
      intro r
      cases s.listener with
      | none => rfl
      | some id => exact backing?_unlisten w q id r
    by_cases hr : r = q
    · rw [if_pos hr, hr, if_pos rfl, hq]
    · rw [if_neg hr, if_neg (Ne.symm hr), hq]

/-- The repositories after a table was registered. -/
def subscribed (n r : String) (w : Stores) : Stores :=
  w.modify r (·.listen (.table n))

/-- The repositories after a table was registered, and the registration was taken away again
because the repository cannot be read. -/
def givenUp (n r : String) (w : Stores) : Stores :=
  ((w.subscribed n r).modify r (·.unlisten (w.nextListener r))).closeStore r

@[simp] theorem backing?_subscribed (n r : String) (w : Stores) (q : String) :
    (w.subscribed n r).backing? q = w.backing? q :=
  backing?_listen w r (.table n) q

theorem backing?_givenUp (n r : String) (w : Stores) (q : String) :
    (w.givenUp n r).backing? q =
      if q = r then (w.backing? r).map Backing.closeStore else w.backing? q := by
  unfold givenUp
  rw [backing?_closeStore, backing?_unlisten, backing?_unlisten, backing?_subscribed,
    backing?_subscribed]

theorem listeners?_subscribed (n r : String) (w : Stores) (q : String) :
    (w.subscribed n r).listeners? q =
      if q = r then (w.listeners? r).map (·.add (.table n)) else w.listeners? q :=
  listeners?_listen w r (.table n) q

/-- A registration that is taken away at once leaves nothing behind but the id. -/
theorem listeners?_givenUp (n r : String) (w : Stores) (q : String) :
    (w.givenUp n r).listeners? q =
      if q = r then (w.listeners? r).map (fun l => (l.add (.table n)).remove l.nextId)
      else w.listeners? q := by
  unfold givenUp
  rw [listeners?_closeStore, listeners?_unlisten, listeners?_subscribed, listeners?_subscribed]
  by_cases hq : q = r
  · -- the registration that is taken away is the one that was just made
    rw [if_pos hq, if_pos hq, if_pos rfl]
    cases hl : w.listeners? r with
    | none => rfl
    | some l => rw [nextListener_eq hl]; rfl
  · rw [if_neg hq, if_neg hq, if_neg hq]

theorem has_released (s : Selector String) (w : Stores) (r : String) :
    (w.released s).has r = w.has r := by
  unfold released
  cases s.repository with
  | none => rfl
  | some q =>
    simp only [closeStore, has_modify]
    cases s.listener with
    | none => rfl
    | some id => exact has_modify w q _ r

theorem has_subscribed (n r : String) (w : Stores) (q : String) :
    (w.subscribed n r).has q = w.has q :=
  has_modify w r _ q

theorem has_givenUp (n r : String) (w : Stores) (q : String) :
    (w.givenUp n r).has q = w.has q := by
  simp only [givenUp, subscribed, closeStore, has_modify]

/-! ### Who is registered afterwards -/

theorem registered_listen {w : Stores} {r q : String} {id : ListenerId} {who added : Subscriber} :
    (w.modify r (·.listen added)).Registered q id who ↔ w.Registered q id who ∨
      (q = r ∧ (w.listeners? r).isSome = true ∧ id = w.nextListener r ∧ who = added) := by
  unfold Registered
  rw [listeners?_listen]
  by_cases hq : q = r
  · rw [if_pos hq, hq]
    cases hl : w.listeners? r with
    | none => simp
    | some l =>
      rw [nextListener_eq hl]
      simp [Registry.mem_add, Prod.mk.injEq]
  · rw [if_neg hq]
    simp [hq]

theorem registered_subscribed {w : Stores} {n r q : String} {id : ListenerId} {who : Subscriber} :
    (w.subscribed n r).Registered q id who ↔ w.Registered q id who ∨
      (q = r ∧ (w.listeners? r).isSome = true ∧ id = w.nextListener r ∧ who = .table n) :=
  registered_listen

/-- Taking a registration away makes none. -/
theorem registered_of_unlisten {w : Stores} {r q : String} {id i : ListenerId} {who : Subscriber}
    (h : (w.modify r (·.unlisten i)).Registered q id who) : w.Registered q id who := by
  obtain ⟨l, hl, hm⟩ := h
  rw [listeners?_unlisten] at hl
  split at hl
  · next hq =>
    obtain ⟨x, hx, rfl⟩ := Option.map_eq_some_iff.1 hl
    exact ⟨x, by rw [hq]; exact hx, (Registry.mem_remove.1 hm).1⟩
  · exact ⟨l, hl, hm⟩

theorem Sound.registered_givenUp {w : Stores} (hw : w.Sound) {n r q : String}
    {id : ListenerId} {who : Subscriber} :
    (w.givenUp n r).Registered q id who ↔ w.Registered q id who := by
  unfold Registered
  rw [listeners?_givenUp]
  by_cases hq : q = r
  · rw [if_pos hq, hq]
    cases hl : w.listeners? r with
    | none => simp
    | some l =>
      simp only [Option.map_some, Option.some.injEq, exists_eq_left', Registry.mem_remove,
        Registry.mem_add, Prod.mk.injEq]
      constructor
      · rintro ⟨h | ⟨h, -⟩, hne⟩
        · exact h
        · exact absurd h hne
      · -- nobody was registered under the new id before
        intro h
        exact ⟨.inl h, (hw r l hl).ne_nextId h⟩
  · rw [if_neg hq]

theorem registered_released {w : Stores} {s : Selector String} {q : String} {id : ListenerId}
    {who : Subscriber} : (w.released s).Registered q id who ↔
      w.Registered q id who ∧ s.idAt q ≠ some id := by
  unfold Registered
  rw [listeners?_released]
  cases s.idAt q with
  | none => simp
  | some i =>
    cases w.listeners? q with
    | none => simp
    | some l => simp [Registry.mem_remove, eq_comm]

theorem Sound.listen {w : Stores} (hw : w.Sound) (r : String) (who : Subscriber) :
    (w.modify r (·.listen who)).Sound := by
  intro q l hl
  rw [listeners?_listen] at hl
  split at hl
  · obtain ⟨x, hx, rfl⟩ := Option.map_eq_some_iff.1 hl
    exact (hw r x hx).add _
  · exact hw q l hl

theorem Sound.subscribed {w : Stores} (hw : w.Sound) (n r : String) : (w.subscribed n r).Sound :=
  hw.listen r (.table n)

theorem Sound.unlisten {w : Stores} (hw : w.Sound) (r : String) (id : ListenerId) :
    (w.modify r (·.unlisten id)).Sound := by
  intro q l hl
  rw [listeners?_unlisten] at hl
  split at hl
  · obtain ⟨x, hx, rfl⟩ := Option.map_eq_some_iff.1 hl
    exact (hw r x hx).remove _
  · exact hw q l hl

theorem Sound.givenUp {w : Stores} (hw : w.Sound) (n r : String) : (w.givenUp n r).Sound := by
  intro q l hl
  rw [listeners?_givenUp] at hl
  split at hl
  · obtain ⟨x, hx, rfl⟩ := Option.map_eq_some_iff.1 hl
    exact ((hw r x hx).add _).remove _
  · exact hw q l hl

theorem Sound.released {w : Stores} (hw : w.Sound) (s : Selector String) :
    (w.released s).Sound := by
  intro q l hl
  rw [listeners?_released] at hl
  split at hl
  · obtain ⟨x, hx, rfl⟩ := Option.map_eq_some_iff.1 hl
    exact (hw q x hx).remove _
  · exact hw q l hl

end Stores

namespace Selector

/-- Closing an open selector lets go of its repository and drops its tokens. -/
theorem Lawful.closeOn_eq {s : Selector String} (h : s.Lawful) (ho : s.isOpen = true)
    (name : String) (w : Stores) :
    s.closeOn (Stores.host name) w = (s.closed, w.released s) := by
  rw [h.closeOn_open ho]
  unfold releasedOn Stores.released
  cases s.repository with
  | none => rfl
  | some r => rfl

/-! ### Opening -/

theorem snapshot_subscribed (n r : String) (w : Stores) :
    (w.subscribed n r).snapshot r = w.snapshot r := by
  unfold Stores.snapshot
  rw [Stores.backing?_subscribed]

/-- The repository that a selector would use: the one that it has, if there is such a
repository and it is defined. -/
def usable? (s : Selector String) (w : Stores) : Option String :=
  s.repository.filter fun r => (w.backing? r).any Backing.isDefined

theorem usable?_eq_some {s : Selector String} {w : Stores} {r : String} :
    s.usable? w = some r ↔
      s.repository = some r ∧ ∃ b, w.backing? r = some b ∧ b.isDefined = true := by
  unfold usable?
  rw [Option.filter_eq_some_iff, Option.any_eq_true]

theorem definedRepository_eq (n : String) (s : Selector String) (w : Stores) :
    s.definedRepository (Stores.host n) w = (s.usable? w, w) := by
  unfold definedRepository usable?
  cases s.repository with
  | none => rfl
  | some r =>
    show (if (w.backing? r).any Backing.isDefined = true then some r else none, w) = _
    rw [Option.filter_some]

/-- Wiring a selector loads all tokens, or leaves nothing behind. -/
theorem wire_eq (n r : String) (s : Selector String) (w : Stores) :
    s.wire (Stores.host n) r w =
      match w.snapshot r with
      | .ok entries => (.ok (), s.wired (w.nextListener r) entries, w.subscribed n r)
      | .error cause => (.error cause, s, w.givenUp n r) := by
  have hsnap : (Stores.modify w r (·.listen (.table n))).snapshot r = w.snapshot r :=
    snapshot_subscribed n r w
  unfold wire
  simp only [Stores.host, hsnap]
  cases w.snapshot r with
  | ok entries => rfl
  | error cause => rfl

/-- Opening a closed selector comes to one of four things. -/
theorem openOn_cases {s : Selector String} (ho : s.isOpen = false) (n : String) (w : Stores) :
    (s.usable? w = none ∧
      s.openOn (Stores.host n) w = (.ok (), { s with isOpen := true }, w)) ∨
    ∃ r, s.usable? w = some r ∧
      ((∃ cause, (w.openStore r).1 = .error cause ∧
        s.openOn (Stores.host n) w = (.error cause, s, (w.openStore r).2)) ∨
      (∃ cause, (w.openStore r).1 = .ok () ∧ (w.openStore r).2.snapshot r = .error cause ∧
        s.openOn (Stores.host n) w = (.error cause, s, (w.openStore r).2.givenUp n r)) ∨
      ∃ entries, (w.openStore r).1 = .ok () ∧ (w.openStore r).2.snapshot r = .ok entries ∧
        s.openOn (Stores.host n) w = (.ok (), s.wired ((w.openStore r).2.nextListener r) entries,
          (w.openStore r).2.subscribed n r)) := by
  rcases openOn_host_cases ho (Stores.host n) w with ⟨w', hd, he⟩ |
    ⟨r, w', hd, ⟨cause, hout, he⟩ | ⟨hout, he⟩⟩
  · rw [definedRepository_eq] at hd
    obtain ⟨hu, rfl⟩ := Prod.mk.inj hd
    exact .inl ⟨hu, he⟩
  · rw [definedRepository_eq] at hd
    obtain ⟨hu, rfl⟩ := Prod.mk.inj hd
    exact .inr ⟨r, hu, .inl ⟨cause, hout, he⟩⟩
  · rw [definedRepository_eq] at hd
    obtain ⟨hu, rfl⟩ := Prod.mk.inj hd
    have hhost : (Stores.host n).openStore r w = w.openStore r := rfl
    rw [wire_eq, hhost] at he
    refine .inr ⟨r, hu, .inr ?_⟩
    cases hread : (w.openStore r).2.snapshot r with
    | error cause =>
      rw [hread] at he
      exact .inl ⟨cause, hout, rfl, he⟩
    | ok entries =>
      rw [hread] at he
      exact .inr ⟨entries, hout, rfl, he⟩

end Selector

end Admission

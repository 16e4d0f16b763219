import Admission.Proofs.Deployment.Runs
import Admission.Proofs.Table.Compile

/-!
# Following — tables against stores

  A wired selector answers from its table, not from its repository, so its answers are
  right only while the table holds what the repository would spell out now. `Current`
  says that it does, whether the store can be read at the moment or not.

  Events keep a table current: a store moves only as its event says, the event reaches
  every table that is wired to it, and the table follows the event. Closing keeps tables
  current because it brings nothing new. Opening is the one thing that can go wrong: it
  may bring entries into hand that no event tells, and a selector that stayed registered
  while its repository was closed never learns of them (`LeavesBehind`).
-/

namespace Admission

/-- The entries that opening a repository brings into hand, if it reads any. -/
def Stores.rereads? (w : Stores) (r : String) : Option Entries :=
  (w.backing? r).bind fun b => b.rereads? w.web w.files

namespace Deployment

variable {d d' : Deployment} {n r : String} {s : Selector String}

/-! ### Current tables -/

/-- The table of every wired selector holds the tokens of what its repository has in hand. -/
def Current (d : Deployment) : Prop :=
  ∀ n s r b entries, d.selectors.get? n = some s → s.isWired = true → s.repository = some r →
    d.stores.backing? r = some b → b.holdings = some entries →
    s.table.tokens = TokenMap.compile entries

theorem Fresh.current (h : d.Fresh) : d.Current := by
  intro n s r b entries hs hw _ _ _
  obtain ⟨u, q, rfl⟩ := h.selectors n s hs
  cases hw

/-- With fewer wired selectors and less in hand, tables are still current. -/
theorem Current.shrink (h : d.Current)
    (hs : ∀ n s, d'.selectors.get? n = some s → s.isWired = true → d.selectors.get? n = some s)
    (hb : ∀ r b' entries, d'.stores.backing? r = some b' → b'.holdings = some entries →
      ∃ b, d.stores.backing? r = some b ∧ b.holdings = some entries) : d'.Current := by
  intro n s r b' entries hn hw hr hb' hh
  obtain ⟨b, hb, hh⟩ := hb r b' entries hb' hh
  exact h n s r b entries (hs n s hn hw) hw hr hb hh

/-! ### Quiet operations keep tables current -/

/-- A store that moves as it tells keeps the tables current that hear of it. -/
theorem Current.moved (h : d.Current) (hc : d.Coherent) {name : String} {b b' : Backing}
    {event : Option ChangeEvent} (files : Files) (hb : d.stores.backing? name = some b)
    (hm : b.Moves name b' event) : (d.moved name files b' event).Current := by
  have hback : ∀ r, (d.moved name files b' event).stores.backing? r =
      if r = name then some b' else d.stores.backing? r := by
    intro r
    rw [backing?_moved, hb]
    rfl
  cases hm with
  | silent hsame =>
    intro n s r c entries hs hw hr hc' hh
    rw [hback] at hc'
    split at hc'
    · next hrn =>
      cases hc'
      rw [hsame] at hh
      -- nothing is told, and what is in hand is the same
      exact h n s r b entries hs hw hr (by rw [hrn]; exact hb) hh
    · exact h n s r c entries hs hw hr hc' hh
  | @told before after event hbefore hafter htells =>
    intro n s r c entries hs hw hr hc' hh
    -- the event is heard when the new entries are in place
    rw [hc.selectors_moved hb] at hs
    obtain ⟨t, ht, rfl⟩ := Option.map_eq_some_iff.1 hs
    rw [(hearing_sameWiring name _ event t).isWired_eq] at hw
    rw [(hearing_sameWiring name _ event t).repository_eq] at hr
    rw [hback] at hc'
    split at hc'
    · next hrn =>
      cases hc'
      rw [Backing.holdings_of_snapshot hafter] at hh
      cases hh
      unfold hearing
      rw [if_pos ⟨hw, by rw [hr, hrn]⟩]
      show (Selector.applied _ event t.table).tokens = _
      rw [hafter]
      exact Selector.applied_eq_compile htells
        (h n t r b before ht hw hr (by rw [hrn]; exact hb) hbefore)
    · next hrn =>
      unfold hearing
      rw [if_neg]
      · exact h n t r c entries ht hw hr hc' hh
      · rintro ⟨-, hname⟩
        rw [hr] at hname
        exact hrn (Option.some.inj hname)

theorem Quiet.current (h : Quiet d d') (hd : d.Current) (hc : d.Coherent) : d'.Current := by
  induction h with
  | refl => exact hd
  | outside _ files web ih => exact ih
  | observed _ name observer fails ih =>
    refine ih.shrink (fun _ _ hs _ => hs) ?_
    intro r b entries hb hh
    rw [stores_listen, Stores.backing?_listen] at hb
    exact ⟨b, hb, hh⟩
  | moved hq files hb hm hk ih => exact ih.moved (hq.coherent hc) files hb hm

/-! ### Closing keeps tables current -/

theorem Current.closeRepository (h : d.Current) (r : String) :
    (d.perform (.closeRepository r)).2.Current := by
  refine h.shrink (fun _ _ hs _ => hs) ?_
  intro q b' entries hb' hh
  rw [stores_closeRepository, Stores.backing?_closeStore] at hb'
  split at hb'
  · next hq =>
    obtain ⟨b, hb, rfl⟩ := Option.map_eq_some_iff.1 hb'
    exact ⟨b, by rw [hq]; exact hb, Backing.holdings_of_closeStore hh⟩
  · exact ⟨b', hb', hh⟩

theorem Current.closeSelector (h : d.Current) (hc : d.Coherent) (n : String) :
    (d.perform (.closeSelector n)).2.Current := by
  rcases hc.closeSelector_cases n with ⟨-, he⟩ | ⟨s, hs, -, he⟩
  · rw [he]; exact h
  · rw [he]
    refine h.shrink (fun _ _ hm hw => get?_of_rewired rfl hm hw) ?_
    intro q b' entries hb' hh
    rw [stores_rewired, Stores.backing?_released] at hb'
    split at hb'
    · obtain ⟨b, hb, rfl⟩ := Option.map_eq_some_iff.1 hb'
      exact ⟨b, hb, Backing.holdings_of_closeStore hh⟩
    · exact ⟨b', hb', hh⟩

/-- A closed selector is not wired, whatever its repository. -/
theorem Current.assign (h : d.Current) (hc : d.Coherent)
    (ho : ∀ s, d.selectors.get? n = some s → s.isOpen = false) (repository : Option String) :
    (d.assign n repository).Current := by
  refine h.shrink ?_ ?_
  · intro m t hm hw
    unfold Deployment.assign at hm
    cases hs : d.selectors.get? n with
    | none => rw [hs] at hm; exact hm
    | some s =>
      simp only [hs] at hm
      have hunwired := (hc.lawful hs).unwired_of_closed (ho s hs)
      exact get?_of_rewired (s := { s with repository }) hunwired hm hw
  · intro r b entries hb hh
    rw [stores_assign] at hb
    exact ⟨b, hb, hh⟩

/-! ### Opening -/

/-- Opening a repository now brings in entries of which a selector that is still registered
there does not learn, and its tokens are not theirs. -/
def LeavesBehind (d : Deployment) (r : String) : Prop :=
  ∃ n s entries, d.selectors.get? n = some s ∧ s.isWired = true ∧ s.repository = some r ∧
    d.stores.rereads? r = some entries ∧ s.table.tokens ≠ TokenMap.compile entries

/-- What is true of a deployment after a repository was opened in it, be it for a selector. -/
structure Opens (r : String) (d d' : Deployment) : Prop where
  /-- Selectors that are wired stay as they are. -/
  kept : ∀ n s, d.selectors.get? n = some s → s.isWired = true → d'.selectors.get? n = some s
  /-- A selector that was wired holds the tokens of what it found. -/
  wired : ∀ n s, d'.selectors.get? n = some s → s.isWired = true →
    d.selectors.get? n = some s ∨
      s.repository = some r ∧ ∃ entries, d'.stores.snapshot r = .ok entries ∧
        s.table.tokens = TokenMap.compile entries
  /-- Other repositories stay as they are. -/
  other : ∀ q, q ≠ r → d'.stores.backing? q = d.stores.backing? q
  /-- What opening brings in can be read. -/
  read : ∀ entries, d.stores.rereads? r = some entries → d'.stores.snapshot r = .ok entries
  /-- Nothing is in hand but what opening brought in or what was there before. -/
  held : ∀ b' entries, d'.stores.backing? r = some b' → b'.holdings = some entries →
    d.stores.rereads? r = some entries ∨
      ∃ b, d.stores.backing? r = some b ∧ b.holdings = some entries

/-- Opening a repository keeps tables current unless it leaves a selector behind. -/
theorem Opens.current (ho : Opens r d d') (h : d.Current) (hl : ¬ d.LeavesBehind r) :
    d'.Current := by
  intro n s q b' entries hs hw hq hb' hh
  rcases ho.wired n s hs hw with hs | ⟨hr, found, hread, htok⟩
  · -- it was wired before, so it heard of nothing
    by_cases hqr : q = r
    · rw [hqr] at hb' hq
      rcases ho.held b' entries hb' hh with hnew | ⟨b, hb, hold⟩
      · by_cases htok : s.table.tokens = TokenMap.compile entries
        · exact htok
        · exact absurd ⟨n, s, entries, hs, hw, hq, hnew, htok⟩ hl
      · exact h n s r b entries hs hw hq hb hold
    · rw [ho.other q hqr] at hb'
      exact h n s q b' entries hs hw hq hb' hh
  · cases hr.symm.trans hq
    rw [Stores.snapshot_eq hb'] at hread
    rw [Backing.holdings_of_snapshot hread] at hh
    cases hh
    exact htok

/-- A selector that is left behind is wired to an open repository and holds other tokens. -/
theorem Opens.stale (ho : Opens r d d') (hl : d.LeavesBehind r) :
    ∃ n s entries, d'.selectors.get? n = some s ∧ s.isWired = true ∧ s.repository = some r ∧
      d'.stores.snapshot r = .ok entries ∧ s.table.tokens ≠ TokenMap.compile entries := by
  obtain ⟨n, s, entries, hs, hw, hr, hnew, htok⟩ := hl
  exact ⟨n, s, entries, ho.kept n s hs hw, hw, hr, ho.read entries hnew, htok⟩

/-- Opening a repository, with the selectors as they are. -/
theorem opens_openStore (d : Deployment) (r : String) :
    Opens r d { d with stores := (d.stores.openStore r).2 } where
  kept := fun _ _ hs _ => hs
  wired := fun _ _ hs _ => .inl hs
  other := by
    intro q hq
    have hback := Stores.backing?_openStore d.stores r q
    rw [if_neg hq] at hback
    exact hback
  read := by
    intro entries h
    obtain ⟨b, hb, hread⟩ := Option.bind_eq_some_iff.1 h
    have hopened : (d.stores.openStore r).2.backing? r =
        some (b.openStore d.stores.web d.stores.files).2 := by
      rw [Stores.backing?_openStore, if_pos rfl, hb]
      rfl
    rw [Stores.snapshot_eq hopened]
    exact Backing.snapshot_of_rereads hread
  held := by
    intro b' entries hb' hh
    have hback := Stores.backing?_openStore d.stores r r
    rw [if_pos rfl] at hback
    obtain ⟨b, hb, rfl⟩ := Option.map_eq_some_iff.1 (hback.symm.trans hb')
    rw [Backing.holdings_openStore] at hh
    unfold Stores.rereads?
    rw [hb, Option.bind_some]
    cases hread : b.rereads? d.stores.web d.stores.files with
    | none => rw [hread] at hh; exact .inr ⟨b, rfl, hh⟩
    | some e => rw [hread] at hh; exact .inl hh

/-- Opening a closed selector opens its repository in the same sense. -/
theorem opens_openSelector (hc : d.Coherent) (hs : d.selectors.get? n = some s)
    (ho : s.isOpen = false) (hr : s.repository = some r) :
    Opens r d (d.perform (.openSelector n)).2 := by
  have hunwired := (hc.lawful hs).unwired_of_closed ho
  have hopens := opens_openStore d r
  have hother : ∀ m t, d.selectors.get? m = some t → t.isWired = true → m ≠ n := by
    rintro m t ht hw rfl
    rw [hs] at ht
    cases ht
    rw [hunwired] at hw
    cases hw
  rcases openSelector_cases d n with ⟨hopen, -⟩ | ⟨t, ht, -, ⟨hu, he⟩ | ⟨q, hu, hq⟩⟩
  · rw [hopen s hs] at ho
    cases ho
  · -- there is no such repository, or it has no location
    rw [hs] at ht
    cases ht
    rw [he]
    refine ⟨?_, ?_, fun _ _ => rfl, ?_, ?_⟩
    · intro m t ht hw
      rw [get?_rewired, if_neg (hother m t ht hw)]
      exact ht
    · intro m t ht hw
      exact .inl (get?_of_rewired (s := { s with isOpen := true }) hunwired ht hw)
    · intro entries hread
      obtain ⟨b, hb, hread⟩ := Option.bind_eq_some_iff.1 hread
      cases hd : b.isDefined with
      | true =>
        rw [Selector.usable?_eq_some.2 ⟨hr, b, hb, hd⟩] at hu
        cases hu
      | false =>
        rw [Backing.rereads_of_undefined hd] at hread
        cases hread
    · intro b entries hb hh
      exact .inr ⟨b, hb, hh⟩
  · rw [hs] at ht
    cases ht
    cases (Selector.usable?_eq_some.1 hu).1.symm.trans hr
    have hself : ∀ w, d.rewired n s w = { d with stores := w } := fun w =>
      rewired_self (d := { d with stores := w }) hs
    rcases hq with he | ⟨⟨cause, hread⟩, he⟩ | ⟨entries, hread, he⟩
    · -- the repository cannot be opened, and nothing else has happened
      rw [he, hself]
      exact hopens
    · -- it was opened and cannot be read, so it is closed again
      rw [he, hself]
      refine ⟨hopens.kept, fun _ _ ht _ => .inl ht, ?_, ?_, ?_⟩
      · intro p hp
        have hback := Stores.backing?_givenUp n r (d.stores.openStore r).2 p
        rw [if_neg hp] at hback
        exact hback.trans (hopens.other p hp)
      · -- what opening brings in could be read, and here it could not
        intro entries hnew
        cases hread.symm.trans (hopens.read entries hnew)
      · intro b' entries hb' hh
        have hback := Stores.backing?_givenUp n r (d.stores.openStore r).2 r
        rw [if_pos rfl] at hback
        obtain ⟨b, hb, rfl⟩ := Option.map_eq_some_iff.1 (hback.symm.trans hb')
        exact hopens.held b entries hb (Backing.holdings_of_closeStore hh)
    · -- the selector is wired and has the tokens of what was read
      rw [he]
      refine ⟨?_, ?_, ?_, ?_, ?_⟩
      · intro m t ht hw
        rw [get?_rewired, if_neg (hother m t ht hw)]
        exact ht
      · intro m t ht hw
        rw [get?_rewired] at ht
        split at ht
        · cases ht
          exact .inr ⟨hr, entries, by rw [stores_rewired, Selector.snapshot_subscribed, hread], rfl⟩
        · exact .inl ht
      · intro p hp
        rw [stores_rewired, Stores.backing?_subscribed]
        exact hopens.other p hp
      · intro e hnew
        rw [stores_rewired, Selector.snapshot_subscribed]
        exact hopens.read e hnew
      · intro b' e hb' hh
        rw [stores_rewired, Stores.backing?_subscribed] at hb'
        exact hopens.held b' e hb' hh

end Deployment

end Admission

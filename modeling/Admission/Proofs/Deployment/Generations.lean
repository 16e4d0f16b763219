import Admission.Proofs.Deployment.Queries

/-!
# Generations — numbers that stand for maps

  A table numbers the maps that it publishes, and the number is given out with the map.
  Who compares two numbers wants to learn from them whether the maps differ, also if they
  were taken far apart, and the selector was closed and opened or given another repository
  in the meantime.

  What can happen to a deployment is cut here into strides, so short that a table has no
  time to publish twice in one of them: the stores change, one listener is told something,
  a selector is opened, closed or given another repository. Every run is made of strides
  (`strides_performAll`), and a stride leaves the map of a table alone or publishes the
  next one (`Stride.follows`). So what a table holds later are the maps that it published
  since, one after the other (`Strides.published`), and its generation counts them. What
  makes it publish is said beside what does not.

  Generations are not bounded here. A counter of 64 bits shows the same numbers as long as
  fewer than 2^64 maps are published.
-/

namespace Admission

/-! ### Maps that were published one after the other -/

namespace TokenMap

variable {m : TokenMap} {key : String}

/-- The map after others were published, one after the other. -/
def published (m : TokenMap) (maps : List (KeyMap Token)) : TokenMap := maps.foldl publish m

theorem published_concat (m : TokenMap) (maps : List (KeyMap Token)) (tokens : KeyMap Token) :
    m.published (maps ++ [tokens]) = (m.published maps).publish tokens :=
  List.foldl_append

/-- The generation counts what was published. -/
theorem generation_published (m : TokenMap) (maps : List (KeyMap Token)) :
    (m.published maps).generation = m.generation + maps.length := by
  induction maps generalizing m with
  | nil => rfl
  | cons tokens rest ih =>
    have hnext : (m.publish tokens).generation = m.generation + 1 := rfl
    show ((m.publish tokens).published rest).generation = _
    rw [ih, hnext, List.length_cons]
    omega

/-- A generation is not used again: where it is the same, nothing was published. -/
theorem published_of_generation_eq {maps : List (KeyMap Token)}
    (h : (m.published maps).generation = m.generation) : m.published maps = m := by
  rw [generation_published] at h
  have hnil : maps = [] := List.length_eq_zero_iff.1 (by omega)
  rw [hnil]
  rfl

/-- What a table holds a moment later: the same map or the next one. -/
inductive Follows (m : TokenMap) : TokenMap → Prop where
  /-- Nothing was published. -/
  | same : Follows m m
  /-- The next map was published. -/
  | next (tokens : KeyMap Token) : Follows m (m.publish tokens)

theorem follows_remove (m : TokenMap) (key : String) : m.Follows (m.remove key) := by
  unfold remove
  split
  · exact .next _
  · exact .same

theorem follows_rebuildFrom (m : TokenMap) (source : Except Fault Entries) :
    m.Follows (m.rebuildFrom source).2 := by
  cases source with
  | ok entries => exact .next _
  | error cause => exact .same

/-- Whatever a table is told, it publishes at most once. -/
theorem follows_applied (m : TokenMap) (snapshot : Except Fault Entries) (event : ChangeEvent) :
    m.Follows (Selector.applied snapshot event m) := by
  unfold Selector.applied
  split
  · exact .next _
  · exact .next _
  · exact m.follows_remove _
  · exact .next _
  · exact m.follows_rebuildFrom snapshot
  · exact .same

/-- Removing a key that has no token publishes nothing. -/
theorem remove_of_none (h : m.get? key = none) : m.remove key = m := by
  have habsent : m.tokens.contains key = false := by
    unfold KeyMap.contains
    rw [show m.tokens.get? key = none from h]
    rfl
  unfold remove
  rw [habsent]
  rfl

end TokenMap

/-! ### Events that publish nothing -/

/-- An event that tells a table nothing new: the store is to be read anew and cannot be read,
or a key is gone that has no token. -/
def ChangeEvent.Idle (event : ChangeEvent) (snapshot : Except Fault Entries) (m : TokenMap) :
    Prop :=
  (event.kind = .reloaded ∧ ∃ cause, snapshot = .error cause) ∨
    (event.kind = .keyCleared ∧ ∃ key, event.key = some key ∧ m.get? key = none)

theorem ChangeEvent.Idle.applied_eq {event : ChangeEvent} {snapshot : Except Fault Entries}
    {m : TokenMap} (h : event.Idle snapshot m) : Selector.applied snapshot event m = m := by
  unfold Selector.applied
  rcases h with ⟨hk, cause, rfl⟩ | ⟨hk, key, hkey, hnone⟩
  · simp only [hk]
    rfl
  · simp only [hk, hkey]
    exact TokenMap.remove_of_none hnone

/-! ### Events that publish a map -/

/-- An event that tells a table something: a key has a value, a key with a token is gone, all keys
are gone, or the store is to be read anew and can be read. -/
def ChangeEvent.News (event : ChangeEvent) (snapshot : Except Fault Entries) (m : TokenMap) :
    Prop :=
  ((event.kind = .keyAdded ∨ event.kind = .keySet) ∧ ∃ key, event.key = some key) ∨
    (event.kind = .keyCleared ∧ ∃ key, event.key = some key ∧ m.get? key ≠ none) ∨
    event.kind = .cleared ∨
    (event.kind = .reloaded ∧ ∃ entries, snapshot = .ok entries)

theorem ChangeEvent.News.generation_applied {event : ChangeEvent} {snapshot : Except Fault Entries}
    {m : TokenMap} (h : event.News snapshot m) :
    (Selector.applied snapshot event m).generation = m.generation + 1 := by
  unfold Selector.applied
  rcases h with ⟨hk, key, hkey⟩ | ⟨hk, key, hkey, hsome⟩ | hk | ⟨hk, entries, rfl⟩
  · -- a value that spells no token takes the token of its key away, and that is a map too
    rcases hk with hk | hk
    · simp only [hk, hkey]
      rfl
    · simp only [hk, hkey]
      rfl
  · simp only [hk, hkey]
    have hthere : m.tokens.contains key = true := Option.isSome_iff_ne_none.2 hsome
    unfold TokenMap.remove
    rw [if_pos hthere]
    rfl
  · simp only [hk]
    rfl
  · simp only [hk]
    rfl

/-! ### What a store tells of a key that is gone -/

/-- A store that loses a key tells that it is gone, or tells nothing. -/
theorem Backing.change_remove {b : Backing} {fs : Files} {source key : String}
    {event : ChangeEvent} (h : (b.change source (.remove key) fs).1 = .ok (some event)) :
    event = .removed source key := by
  cases b with
  | memory s =>
    change (s.change source (.remove key)).1 = _ at h
    unfold MemoryStore.change Change.check at h
    simp only [Change.onEntries] at h
    split at h
    · cases h
    · split at h
      · cases h
      · next he =>
        split at he
        · cases he
          cases h
          rfl
        · cases he
  | file s =>
    change (s.change source (.remove key) fs).1 = _ at h
    rcases s.change_cases source (.remove key) fs with ⟨cause, he⟩ | he |
      ⟨o, path, told, document, after, -, -, hdoc, -, he⟩
    · rw [he] at h
      cases h
    · rw [he] at h
      cases h
    · rw [he] at h
      cases h
      rw [Change.onDocument_remove] at hdoc
      split at hdoc
      · cases hdoc
        rfl
      · cases hdoc
  | stub s =>
    -- a stub tells nobody
    change (s.change source (.remove key)).1 = _ at h
    unfold Stub.change at h
    cases hout : (s.store.change source (.remove key)).1 with
    | error cause => simp [hout, Except.map] at h
    | ok told => simp [hout, Except.map] at h

namespace Selector

variable {ρ σ : Type} {s : Selector ρ}

/-- Closing drops the tokens with one publication, and does not touch them where nothing was
open. -/
theorem follows_closeOn (s : Selector ρ) (h : Host ρ σ) (w : σ) :
    s.table.Follows (s.closeOn h w).1.table := by
  cases ho : s.isOpen with
  | false =>
    rw [closeOn_closed ho]
    exact .same
  | true =>
    unfold closeOn
    rw [ho]
    cases s.repository with
    | none => exact .next _
    | some r => exact .next _

/-- A selector that cannot be opened is what it was. -/
theorem openOn_error {h : Host ρ σ} {w : σ} {cause : Fault}
    (hf : (s.openOn h w).1 = .error cause) : (s.openOn h w).2.1 = s := by
  cases ho : s.isOpen with
  | true =>
    unfold openOn at hf
    rw [if_pos ho] at hf
    cases hf
  | false =>
    rcases openOn_host_cases ho h w with ⟨w', -, he⟩ | ⟨q, w', -, ⟨c, -, he⟩ | ⟨-, he⟩⟩
    · rw [he] at hf
      cases hf
    · rw [he]
    · rw [he] at hf ⊢
      rcases wire_cases h q s (h.openStore q w').2 with ⟨entries, hw⟩ | ⟨c, hw⟩
      · rw [hw] at hf
        cases hf
      · rw [hw]

end Selector

namespace Deployment

variable {d d' : Deployment} {n r key : String} {s t : Selector String} {event : ChangeEvent}

/-! ### Strides -/

/-- What happens between one moment and the next. -/
inductive Stride (d : Deployment) : Deployment → Prop where
  /-- The stores change. -/
  | stores (w : Stores) : Stride d { d with stores := w }
  /-- One listener is told something. -/
  | told (name : String) (event : ChangeEvent) (who : Subscriber) :
      Stride d (d.tell name event who)
  /-- A selector is opened. -/
  | openSelector (n : String) : Stride d (d.perform (.openSelector n)).2
  /-- A selector is closed. -/
  | closeSelector (n : String) : Stride d (d.perform (.closeSelector n)).2
  /-- A selector gets another repository. -/
  | assign (n : String) (repository : Option String) : Stride d (d.assign n repository)

/-- Strides one after the other: what comes after them is a later moment. -/
abbrev Strides : Deployment → Deployment → Prop := Relation.ReflTransGen Stride

/-- To deliver an event takes one stride for each listener. -/
theorem strides_deliver (d : Deployment) (name : String) (event : ChangeEvent) :
    Strides d (d.deliver name event) :=
  deliver_induct .refl fun _ l _ _ he => he.tail (.told name event l.2)

theorem Step.strides (h : Step d d') : Strides d d' := by
  cases h with
  | stores hs hr => exact .single (.stores _)
  | told name event => exact strides_deliver d name event
  | openSelector n => exact .single (.openSelector n)
  | closeSelector n => exact .single (.closeSelector n)
  | assign n repository ho => exact .single (.assign n repository)

theorem Steps.strides (h : Steps d d') : Strides d d' := by
  induction h with
  | refl => exact .refl
  | tail _ hstep ih => exact ih.trans hstep.strides

/-- Every run is made of strides. -/
theorem strides_performAll (d : Deployment) (ops : List Operation) :
    Strides d (d.performAll ops) :=
  (steps_performAll d ops).strides

/-! ### What a stride does to a table -/

/-- Every selector is still there, and its table has published at most once. -/
def Follows (d d' : Deployment) : Prop :=
  ∀ n s, d.selectors.get? n = some s →
    ∃ t, d'.selectors.get? n = some t ∧ s.table.Follows t.table

theorem Follows.refl (d : Deployment) : d.Follows d := fun _ s hs => ⟨s, hs, .same⟩

/-- Only the table of the selector that is replaced matters. -/
theorem follows_rewired (hs : d.selectors.get? n = some s) (ht : s.table.Follows t.table)
    (w : Stores) : d.Follows (d.rewired n t w) := by
  intro m u hu
  rw [get?_rewired]
  by_cases hm : m = n
  · rw [hm, hs] at hu
    cases hu
    exact ⟨t, if_pos hm, ht⟩
  · exact ⟨u, (if_neg hm).trans hu, .same⟩

theorem follows_tell (d : Deployment) (name : String) (event : ChangeEvent) (who : Subscriber) :
    d.Follows (d.tell name event who) := by
  cases who with
  | recorder => exact fun _ s hs => ⟨s, hs, .same⟩
  | observer who fails => exact fun _ s hs => ⟨s, hs, .same⟩
  | table n =>
    intro m s hs
    rw [selectors_tell_table]
    by_cases hm : m = n
    · rw [if_pos hm, ← hm, hs]
      exact ⟨_, rfl, s.table.follows_applied _ event⟩
    · exact ⟨s, (if_neg hm).trans hs, .same⟩

theorem follows_openSelector (d : Deployment) (n : String) :
    d.Follows (d.perform (.openSelector n)).2 := by
  rcases openSelector_cases d n with
    ⟨-, he⟩ | ⟨s, hs, -, ⟨-, he⟩ | ⟨r, -, he | ⟨-, he⟩ | ⟨entries, -, he⟩⟩⟩
  · rw [he]
    exact .refl d
  · rw [he]
    exact follows_rewired (t := { s with isOpen := true }) hs .same _
  · rw [he]
    exact follows_rewired hs .same _
  · rw [he]
    exact follows_rewired hs .same _
  · -- its repository could be read, and all tokens were loaded
    rw [he]
    exact follows_rewired hs (.next _) _

theorem follows_closeSelector (d : Deployment) (n : String) :
    d.Follows (d.perform (.closeSelector n)).2 := by
  simp only [perform]
  cases hs : d.selectors.get? n with
  | none =>
    rw [call_none hs]
    exact .refl d
  | some s =>
    rw [call_some hs]
    exact follows_rewired hs (s.follows_closeOn (Stores.host n) d.stores) _

theorem follows_assign (d : Deployment) (n : String) (repository : Option String) :
    d.Follows (d.assign n repository) := by
  unfold assign
  cases hs : d.selectors.get? n with
  | none => exact .refl d
  | some s => exact follows_rewired (t := { s with repository }) hs .same _

/-- In a stride no table publishes twice. -/
theorem Stride.follows (h : Stride d d') : d.Follows d' := by
  cases h with
  | stores w => exact fun _ s hs => ⟨s, hs, .same⟩
  | told name event who => exact follows_tell d name event who
  | openSelector n => exact follows_openSelector d n
  | closeSelector n => exact follows_closeSelector d n
  | assign n repository => exact follows_assign d n repository

/-- What a table holds later are the maps that it published since, one after the other. -/
theorem Strides.published (h : Strides d d') (hs : d.selectors.get? n = some s) :
    ∃ t maps, d'.selectors.get? n = some t ∧ t.table = s.table.published maps := by
  induction h with
  | refl => exact ⟨s, [], hs, rfl⟩
  | tail _ hstride ih =>
    obtain ⟨t, maps, ht, hmaps⟩ := ih
    obtain ⟨u, hu, hfollows⟩ := hstride.follows n t ht
    rw [hmaps] at hfollows
    generalize hm : u.table = m at hfollows
    cases hfollows with
    | same => exact ⟨u, maps, hu, hm⟩
    | next tokens => exact ⟨u, maps ++ [tokens], hu, by rw [hm, TokenMap.published_concat]⟩

/-- Two moments: the generation did not decrease, and where it is the same so is the map. -/
theorem Strides.generation (h : Strides d d') (hs : d.selectors.get? n = some s) :
    ∃ t, d'.selectors.get? n = some t ∧ s.table.generation ≤ t.table.generation ∧
      (t.table.generation = s.table.generation → t.table = s.table) := by
  obtain ⟨t, maps, ht, hmaps⟩ := h.published hs
  refine ⟨t, ht, ?_, fun hsame => ?_⟩
  · rw [hmaps, TokenMap.generation_published]
    exact Nat.le_add_right _ _
  · rw [hmaps] at hsame ⊢
    exact TokenMap.published_of_generation_eq hsame

/-! ### What publishes a map -/

/-- A table that is told something new publishes the next map. -/
theorem tell_news (hs : d.selectors.get? n = some s)
    (h : event.News (d.stores.snapshot r) s.table) :
    ∃ t, (d.tell r event (.table n)).selectors.get? n = some t ∧
      t.table.generation = s.table.generation + 1 := by
  rw [selectors_tell_table, if_pos rfl, hs]
  exact ⟨_, rfl, h.generation_applied⟩

/-- A selector that is closed drops its tokens with the next map. -/
theorem closeSelector_generation (hs : d.selectors.get? n = some s) (ho : s.isOpen = true) :
    ∃ t, (d.perform (.closeSelector n)).2.selectors.get? n = some t ∧
      t.table.generation = s.table.generation + 1 := by
  simp only [perform]
  rw [call_some hs, get?_rewired, if_pos rfl]
  refine ⟨_, rfl, ?_⟩
  unfold Selector.closeOn
  rw [ho]
  cases s.repository with
  | none => rfl
  | some r => rfl

/-- A selector that is opened and wired has read all tokens, and they are the next map. -/
theorem openSelector_generation (hs : d.selectors.get? n = some s) (hw : s.isWired = false)
    (ht : (d.perform (.openSelector n)).2.selectors.get? n = some t) (hwired : t.isWired = true) :
    t.table.generation = s.table.generation + 1 := by
  -- where it could not be opened or nothing could be read, it is not wired after as before
  have hnot : s.isWired ≠ true := Bool.eq_false_iff.1 hw
  rcases openSelector_cases d n with
    ⟨-, he⟩ | ⟨s', hs', -, ⟨-, he⟩ | ⟨r, -, he | ⟨-, he⟩ | ⟨entries, -, he⟩⟩⟩
  · rw [he, hs] at ht
    cases ht
    exact absurd hwired hnot
  all_goals
    rw [hs] at hs'
    cases hs'
    rw [he, get?_rewired, if_pos rfl] at ht
    cases ht
  · exact absurd hwired hnot
  · exact absurd hwired hnot
  · exact absurd hwired hnot
  · rfl

/-! ### What publishes nothing -/

/-- An event that tells a selector's table nothing new leaves the selector alone, however often
it is told. -/
theorem deliver_idle (hs : d.selectors.get? n = some s)
    (h : event.Idle (d.stores.snapshot r) s.table) :
    (d.deliver r event).selectors.get? n = some s := by
  have hdeaf : s.hear (d.stores.snapshot r) event = s := by
    unfold Selector.hear
    rw [h.applied_eq]
  refine deliver_induct (P := fun e => e.selectors.get? n = some s) hs ?_
  intro e l hst _ he
  cases l.2 with
  | recorder => exact he
  | observer who fails => exact he
  | table m =>
    rw [selectors_tell_table, hst]
    by_cases hm : n = m
    · rw [if_pos hm, ← hm, he, Option.map_some, hdeaf]
    · rw [if_neg hm]
      exact he

/-- A key that has no token can be removed from a store, and the selector does not notice. -/
theorem change_remove_idle (hs : d.selectors.get? n = some s) (hnone : s.table.get? key = none)
    (r : String) : (d.change r (.remove key)).2.selectors.get? n = some s := by
  unfold change
  cases d.stores.backing? r with
  | none => exact hs
  | some b =>
    show (Deployment.settle r (b.change r (.remove key) d.stores.files).1 _).2.selectors.get? n = _
    rw [settle_snd]
    cases hout : (b.change r (.remove key) d.stores.files).1 with
    | error cause => exact hs
    | ok told =>
      cases told with
      | none => exact hs
      | some event =>
        have hremoved := Backing.change_remove hout
        exact deliver_idle hs (.inr ⟨by rw [hremoved]; rfl, key, by rw [hremoved]; rfl, hnone⟩)

theorem changeThrough_remove_idle (hs : d.selectors.get? n = some s)
    (hnone : s.table.get? key = none) (m : String) :
    (d.changeThrough m (.remove key)).2.selectors.get? n = some s := by
  unfold changeThrough
  split
  · exact hs
  · split
    · exact hs
    · exact change_remove_idle hs hnone _

/-- A selector that cannot be opened publishes nothing. -/
theorem openSelector_failed {cause : Fault} (hs : d.selectors.get? n = some s)
    (hf : (d.perform (.openSelector n)).1 = .failed cause) :
    (d.perform (.openSelector n)).2.selectors.get? n = some s := by
  simp only [perform] at hf ⊢
  rw [call_some hs] at hf ⊢
  rw [get?_rewired, if_pos rfl]
  cases hout : (s.openOn (Stores.host n) d.stores).1 with
  | ok u =>
    rw [hout] at hf
    cases hf
  | error c => rw [Selector.openOn_error hout]

/-! ### Generations identify maps -/

/-- A generation stands for one map of its table, in every run and whatever the operations.
Every run is made of strides. In a stride the table of a selector stays or publishes one map,
the generation of which is the next one. From any moment to any later one the generation does
not decrease; where it is the same, the keys and the tokens are, and where a key or a text
differs it is larger. A table publishes when it is told that a key has a value, that a key with a
token or all keys are gone, or that the store was replaced and can be read, when its selector is
closed, and when it is opened and wired. An attempt to read the store anew that fails publishes
nothing, whether an event or the opening of the selector called for it, and the loss of a key that
has no token publishes nothing either. -/
theorem generations_identify_maps (d : Deployment) (n : String) :
    (∀ ops later, Strides d (d.performAll ops) ∧
      Strides (d.performAll ops) (d.performAll (ops ++ later))) ∧
    (∀ s d', d.selectors.get? n = some s → Stride d d' →
      ∃ t, d'.selectors.get? n = some t ∧
        (t.table = s.table ∨ ∃ tokens, t.table = ⟨s.table.generation + 1, tokens⟩)) ∧
    (∀ s d', d.selectors.get? n = some s → Strides d d' →
      ∃ t, d'.selectors.get? n = some t ∧
        s.table.generation ≤ t.table.generation ∧
        (t.table.generation = s.table.generation →
          t.keys = s.keys ∧ ∀ key, t.table.get? key = s.table.get? key) ∧
        ((t.keys ≠ s.keys ∨ ∃ key, t.get? key ≠ s.get? key) →
          s.table.generation < t.table.generation)) ∧
    (∀ s r event, d.selectors.get? n = some s → event.News (d.stores.snapshot r) s.table →
      ∃ t, (d.tell r event (.table n)).selectors.get? n = some t ∧
        t.table.generation = s.table.generation + 1) ∧
    (∀ s, d.selectors.get? n = some s → s.isOpen = true →
      ∃ t, (d.perform (.closeSelector n)).2.selectors.get? n = some t ∧
        t.table.generation = s.table.generation + 1) ∧
    (∀ s t, d.selectors.get? n = some s → s.isWired = false →
      (d.perform (.openSelector n)).2.selectors.get? n = some t → t.isWired = true →
      t.table.generation = s.table.generation + 1) ∧
    (∀ s r event, d.selectors.get? n = some s →
      ((event.kind = .reloaded ∧ ∃ cause, d.stores.snapshot r = .error cause) ∨
        (event.kind = .keyCleared ∧ ∃ key, event.key = some key ∧ s.table.get? key = none)) →
      (d.deliver r event).selectors.get? n = some s) ∧
    (∀ s cause, d.selectors.get? n = some s →
      (d.perform (.openSelector n)).1 = .failed cause →
      (d.perform (.openSelector n)).2.selectors.get? n = some s) ∧
    ∀ s key r, d.selectors.get? n = some s → s.table.get? key = none →
      (d.perform (.change r (.remove key))).2.selectors.get? n = some s ∧
      (d.perform (.changeThrough r (.remove key))).2.selectors.get? n = some s := by
  refine ⟨?_, ?_, ?_, fun s r event hs => tell_news hs, fun s hs => closeSelector_generation hs,
    fun s t hs => openSelector_generation hs, fun s r event hs => deliver_idle hs,
    fun s cause hs => openSelector_failed hs,
    fun s key r hs hnone => ⟨change_remove_idle hs hnone r, changeThrough_remove_idle hs hnone r⟩⟩
  · intro ops later
    refine ⟨strides_performAll d ops, ?_⟩
    have hlater : d.performAll (ops ++ later) = (d.performAll ops).performAll later :=
      List.foldl_append
    rw [hlater]
    exact strides_performAll (d.performAll ops) later
  · intro s d' hs hstride
    obtain ⟨t, ht, hfollows⟩ := hstride.follows n s hs
    refine ⟨t, ht, ?_⟩
    generalize t.table = m at hfollows
    cases hfollows with
    | same => exact .inl rfl
    | next tokens => exact .inr ⟨tokens, rfl⟩
  · intro s d' hs hstrides
    obtain ⟨t, ht, hle, hsame⟩ := hstrides.generation hs
    refine ⟨t, ht, hle, fun he => ?_, fun hdiffer => ?_⟩
    · have htable := hsame he
      refine ⟨?_, fun key => by rw [htable]⟩
      unfold Selector.keys
      rw [htable]
    · -- if it were the same, so would be the map, and nothing could differ
      refine Nat.lt_of_le_of_ne hle fun he => ?_
      have htable := hsame he.symm
      rcases hdiffer with hkeys | ⟨key, hkey⟩
      · unfold Selector.keys at hkeys
        exact hkeys (by rw [htable])
      · unfold Selector.get? at hkey
        exact hkey (by rw [htable])

/-- A selector that is opened and hears that a key has a value; then another key is removed that
was never there. -/
def heardOnce : List Operation :=
  [.openSelector "a", .change "levels" (.set "k" "ERROR"), .change "levels" (.remove "other")]

/-- A selector that is closed after that, and opened again. -/
def reopened : List Operation := heardOnce ++ [.closeSelector "a", .openSelector "a"]

/-- The removal publishes nothing, and the generations do not start anew: of the map that is there
again after the selector was reopened the generation is larger than before. -/
theorem generations_identify_maps_reopened :
    ∃ s t u, (sharedLevels.performAll (heardOnce.take 2)).selectors.get? "a" = some s ∧
      (sharedLevels.performAll heardOnce).selectors.get? "a" = some s ∧
      (sharedLevels.performAll (heardOnce ++ [.closeSelector "a"])).selectors.get? "a" = some t ∧
      (sharedLevels.performAll reopened).selectors.get? "a" = some u ∧
      u.keys = s.keys ∧ s.table.generation < t.table.generation ∧
      t.table.generation < u.table.generation := by
  have hheard : ((sharedLevels.performAll (heardOnce.take 2)).selectors.get? "a").map
      (fun s => (s.isOpen, s.keys, (s.table.get? "other").isSome)) = some (true, ["k"], false) := by
    decide
  have hclosed : ((sharedLevels.performAll (heardOnce ++ [.closeSelector "a"])).selectors.get?
      "a").map Selector.isWired = some false := by
    decide
  have hreopened : ((sharedLevels.performAll reopened).selectors.get? "a").map
      (fun u => (u.isWired, u.keys)) = some (true, ["k"]) := by
    decide
  obtain ⟨s, hs, hfacts⟩ := Option.map_eq_some_iff.1 hheard
  obtain ⟨hopen, hfacts⟩ := Prod.mk.inj hfacts
  obtain ⟨hkeys, hother⟩ := Prod.mk.inj hfacts
  obtain ⟨u, hu, hfacts⟩ := Option.map_eq_some_iff.1 hreopened
  obtain ⟨hwired, hkeys'⟩ := Prod.mk.inj hfacts
  -- the removal is not noticed
  have hnone : s.table.get? "other" = none :=
    Option.not_isSome_iff_eq_none.1 (Bool.eq_false_iff.1 hother)
  obtain ⟨-, -, -, -, -, -, -, -, hremove⟩ :=
    generations_identify_maps (sharedLevels.performAll (heardOnce.take 2)) "a"
  have hs' : (sharedLevels.performAll heardOnce).selectors.get? "a" = some s :=
    (hremove s "other" "levels" hs hnone).1
  -- the selector is closed, and its tokens go with the next map
  obtain ⟨-, -, -, -, hclose, -⟩ :=
    generations_identify_maps (sharedLevels.performAll heardOnce) "a"
  obtain ⟨t, ht, hnext⟩ := hclose s hs' hopen
  -- and it is opened again, which loads them with the one after that
  obtain ⟨-, -, -, -, -, hload, -⟩ :=
    generations_identify_maps (sharedLevels.performAll (heardOnce ++ [.closeSelector "a"])) "a"
  have hsilent : t.isWired = false := by
    have ht' : (sharedLevels.performAll (heardOnce ++ [.closeSelector "a"])).selectors.get? "a" =
        some t := ht
    rw [ht'] at hclosed
    exact Option.some.inj hclosed
  have hnext' := hload t u ht hsilent hu hwired
  exact ⟨s, t, u, hs, hs', ht, hu, hkeys'.trans hkeys.symm, by omega, by omega⟩

end Deployment

end Admission

import Admission.Proofs.Deployment.Queries

/-!
# Recording — a rule that is set through a selector, and what is in force after it

  A rule passes through many hands before it is in force: it is rendered, checked, put
  into the store, told by an event and read by the table. All of them keep it as it is,
  but for the last one: a token is spelled without the blanks around it, and its text is
  kept so. Of what was rendered only the end can be blank, so what is lost is the blanks
  at the end of a value pattern (`changeThrough_recorded`). The store keeps them, the
  selector does not give them out, and the pattern in force does not have them.
-/

namespace Admission

variable {source key value : String}

/-! ### Values that a store accepts -/

/-- A store in memory that accepts a value has it afterwards, and tells so. -/
theorem MemoryStore.change_set {s : MemoryStore} {event : Option ChangeEvent}
    (h : (s.change source (.set key value)).1 = .ok event) :
    (∃ before, event = some (.stored source key value before)) ∧
      (s.change source (.set key value)).2.snapshot.map (fun entries => entries.get? key) =
        .ok (some value) := by
  unfold change at h ⊢
  cases hc : (Change.set key value).check with
  | error cause =>
    rw [hc] at h
    cases h
  | ok u =>
    cases ho : s.isOpen with
    | false =>
      simp [hc, ho] at h
    | true =>
      simp only [hc, ho, Change.onEntries, Bool.not_true, Bool.false_eq_true, if_false] at h ⊢
      refine ⟨⟨_, (Except.ok.inj h).symm⟩, ?_⟩
      simp [snapshot, Except.map, KeyMap.get?_insert]

/-- A store at a location that accepts a value has it afterwards, and tells so. -/
theorem FileStore.change_set {fs : Files} {s : FileStore} {event : Option ChangeEvent}
    (h : (s.change source (.set key value) fs).1 = .ok event) :
    (∃ before, event = some (.stored source key value before)) ∧
      (s.change source (.set key value) fs).2.2.snapshot.map (fun entries => entries.get? key) =
        .ok (some value) := by
  unfold change at h ⊢
  simp only [Change.onDocument_set] at h ⊢
  cases hc : (Change.set key value).check with
  | error cause =>
    rw [hc] at h
    cases h
  | ok u =>
    cases ho : s.opened with
    | none => simp [hc, ho] at h
    | some o =>
      cases hl : o.location with
      | remote url => simp [hc, ho, hl] at h
      | resource name text => simp [hc, ho, hl] at h
      | path path =>
        cases hw : write fs path (o.document.set key value).render with
        | error cause => simp [hc, ho, hl, hw] at h
        | ok after =>
          simp only [hc, ho, hl, hw] at h ⊢
          refine ⟨⟨_, (Except.ok.inj h).symm⟩, ?_⟩
          simp [snapshot, Except.map, OpenFile.written, Document.get?_entries, Document.get?_set]

/-- A store that tells about its changes and accepts a value has it afterwards, and tells so. -/
theorem Backing.change_set {fs : Files} {b : Backing} (hb : ∀ s, b ≠ .stub s)
    {event : Option ChangeEvent} (h : (b.change source (.set key value) fs).1 = .ok event) :
    (∃ before, event = some (.stored source key value before)) ∧
      (b.change source (.set key value) fs).2.2.get? key = .ok (some value) := by
  cases b with
  | memory s => exact MemoryStore.change_set h
  | file s => exact FileStore.change_set h
  | stub s => exact absurd rfl (hb s)

/-! ### Values that a table is told -/

theorem TokenMap.get?_upsert (m : TokenMap) (key raw : String) :
    (m.upsert key raw).get? key = Token.parse? raw := by
  unfold upsert
  cases hp : Token.parse? raw with
  | some token =>
    show (m.tokens.insert key token).get? key = some token
    rw [KeyMap.get?_insert, if_pos rfl]
  | none =>
    show (m.tokens.erase key).get? key = none
    rw [KeyMap.get?_erase, if_pos rfl]

/-- A selector that hears of a value has the token that it spells, if it spells one. -/
theorem Selector.table_hear_stored (s : Selector String) (snapshot : Except Fault Entries)
    (before : Bool) :
    (s.hear snapshot (.stored source key value before)).table.get? key = Token.parse? value := by
  show (applied snapshot (.stored source key value before) s.table).get? key = _
  cases before with
  | true => exact s.table.get?_upsert key value
  | false => exact s.table.get?_upsert key value

namespace Deployment

variable {d d' : Deployment} {n r : String} {id : ListenerId}

/-! ### From the selector to the store and back -/

/-- A selector whose table is registered hears an event once. -/
theorem Answering.hears (h : d.Answering) (hreg : d.stores.Registered r id (.table n))
    (event : ChangeEvent) : (d.deliver r event).selectors.get? n =
      (d.selectors.get? n).map (·.hear (d.stores.snapshot r) event) := by
  obtain ⟨l, hl, hm⟩ := hreg
  refine selectors_deliver_registered hl hm ?_ event
  refine tableNames_nodup (h.sound r l hl)
    (fun n => (d.selectors.get? n).bind fun s => s.idAt r) ?_
  intro i m hm
  obtain ⟨s, hs, hid⟩ := h.known ⟨l, hl, hm⟩
  show (d.selectors.get? m).bind (fun s => s.idAt r) = some i
  rw [hs]
  exact hid

/-- A value that a store accepts is in the store afterwards, and what it spells is in the table
of each selector that is registered there. -/
theorem Answering.change_set (h : d.Answering) (hreg : d.stores.Registered r id (.table n))
    {b : Backing} (hb : d.stores.backing? r = some b) (hkind : ∀ s, b ≠ .stub s)
    (hset : d.change r (.set key value) = (.done, d')) :
    ∃ s b', d'.selectors.get? n = some s ∧ d'.stores.backing? r = some b' ∧
      s.isWired = true ∧ b'.get? key = .ok (some value) ∧
      s.table.get? key = Token.parse? value := by
  obtain ⟨t, ht, hid⟩ := h.known hreg
  have hwired : t.isWired = true :=
    (h.lawful ht).wired_of_listener (Selector.idAt_eq_some.1 hid).2
  unfold change at hset
  simp only [hb] at hset
  cases hout : (b.change r (.set key value) d.stores.files).1 with
  | error cause =>
    rw [hout] at hset
    cases hset
  | ok event =>
    obtain ⟨⟨before, rfl⟩, hget⟩ := Backing.change_set hkind hout
    rw [hout] at hset
    -- the store is in its place when the event is told
    have hd' := (Prod.mk.inj hset).2
    generalize hw : ({ d.stores with
      files := (b.change r (.set key value) d.stores.files).2.1 } : Stores).putBacking r
        (b.change r (.set key value) d.stores.files).2.2 = w at hd'
    have hlisteners : ∀ q, w.listeners? q = d.stores.listeners? q := by
      intro q
      rw [← hw]
      exact Stores.listeners?_putBacking { d.stores with files := _ } r _ q
    have hplaced : w.backing? r = some (b.change r (.set key value) d.stores.files).2.2 := by
      rw [← hw, Stores.backing?_putBacking, if_pos rfl]
      show (d.stores.backing? r).map _ = _
      rw [hb]
      rfl
    have hstored := (Step.of_listeners d hlisteners).answering h
    have hregistered : w.Registered r id (.table n) := by
      unfold Stores.Registered
      rw [hlisteners]
      exact hreg
    have hheard := hstored.hears hregistered (.stored r key value before)
    change ({ d with stores := w } : Deployment).deliver r (.stored r key value before) = d' at hd'
    rw [hd', ht] at hheard
    refine ⟨_, _, hheard, ?_, hwired, hget, t.table_hear_stored _ before⟩
    rw [← hd', stores_deliver]
    exact hplaced

/-- A selector changes the repository with which its table is registered. -/
theorem Answering.changeThrough_eq (h : d.Answering) (hreg : d.stores.Registered r id (.table n))
    {c : Change} (hset : d.changeThrough n c = (.done, d')) : d.change r c = (.done, d') := by
  obtain ⟨s, hs, hid⟩ := h.known hreg
  unfold changeThrough at hset
  simp only [hs, Selector.definedRepository_eq] at hset
  cases hu : s.usable? d.stores with
  | none =>
    rw [hu] at hset
    cases hset
  | some q =>
    rw [hu] at hset
    have hq := (Selector.usable?_eq_some.1 hu).1
    rw [(Selector.idAt_eq_some.1 hid).1] at hq
    cases hq
    exact hset

/-- A rule that is set through a selector: the repository has it as it was rendered, the
selector gives it out without the blanks at its end and decides by it, and its pattern is the
one that was set, without the blanks at its end. So what is given out is what was recorded, and
the pattern in force the one that was set, exactly if the pattern does not end with a blank. -/
theorem changeThrough_recorded (hd : d.Fresh) (ops : List Operation)
    (hreg : (d.performAll ops).stores.Registered r id (.table n))
    {b : Backing} (hb : (d.performAll ops).stores.backing? r = some b) (hkind : ∀ s, b ≠ .stub s)
    {severity : Severity} {pattern : Option String} {t : Token}
    (hset : (d.performAll ops).perform
      (.changeThrough n (.set key (Token.render severity pattern))) = (.done, d'))
    (ht : Token.parse (Token.render severity pattern) = .ok t) :
    ∃ s b', d'.selectors.get? n = some s ∧ d'.stores.backing? r = some b' ∧
      b'.get? key = .ok (some (Token.render severity pattern)) ∧
      s.get? key = some (Text.trim (Token.render severity pattern)) ∧
      (∀ level value, s.evaluate level key value = t.admits level value) ∧
      t.minimum = severity ∧
      t.pattern = t.patternText?.bind (fun p => Pattern.Expr.ofText? (Token.anchored p)) ∧
      t.patternText? =
        (pattern.map fun v => Text.trimRight v.toList).filter (fun p => !p.isEmpty) ∧
      (s.get? key = some (Token.render severity pattern) ↔
        pattern.any Text.endsBlank = false) ∧
      ∀ v, pattern = some v → v ≠ "" →
        (t.patternText? = some v.toList ↔ Text.endsBlank v = false) := by
  have h := (steps_performAll d ops).answering hd.answering
  obtain ⟨s, b', hs, hb', hw, hget, htable⟩ :=
    h.change_set hreg hb hkind (h.changeThrough_eq hreg hset)
  -- the table holds the token that the rendered text parses to, so all is asked of that one
  have hp := Token.parse?_eq_some.2 ht
  rw [hp] at htable
  have hraw : s.get? key = some (Text.trim (Token.render severity pattern)) := by
    unfold Selector.get?
    rw [htable, Option.map_some, Token.raw_of_parse? hp]
  refine ⟨s, b', hs, hb', hget, hraw, ?_, Token.minimum_render hp, Token.pattern_of_parse? hp,
    Token.patternText?_render hp, ?_, ?_⟩
  · intro level value
    unfold Selector.evaluate
    rw [hw, htable]
    rfl
  · rw [hraw, Option.some.injEq]
    exact Token.trim_render_eq_iff
  · rintro v rfl hv
    exact Token.patternText?_eq_iff hp hv

/-- Two selectors share a store, and one of them is open. -/
def levelsOpened : Deployment := sharedLevels.performAll [.openSelector "a"]

/-- A rule whose pattern ends with a blank is recorded with it and given out without it. -/
theorem changeThrough_recorded_blankLost :
    ∃ d' s b, levelsOpened.perform
        (.changeThrough "a" (.set "k" (Token.render .info (some "a ")))) = (.done, d') ∧
      d'.selectors.get? "a" = some s ∧ d'.stores.backing? "levels" = some b ∧
      b.get? "k" = .ok (some "INFO:a ") ∧ s.get? "k" = some "INFO:a" ∧
      s.get? "k" ≠ some (Token.render .info (some "a ")) := by
  have hreg : levelsOpened.stores.Registered "levels" ⟨1⟩ (.table "a") :=
    ⟨_, rfl, by decide⟩
  have hset : (levelsOpened.perform
      (.changeThrough "a" (.set "k" (Token.render .info (some "a "))))).1 = .done := by
    decide
  have hparsed : (Token.parse? (Token.render .info (some "a "))).isSome = true := by
    decide +kernel
  obtain ⟨t, ht⟩ := Option.isSome_iff_exists.1 hparsed
  obtain ⟨s, b, hs, hb, hget, hraw, -, -, -, -, hiff, -⟩ :=
    changeThrough_recorded fresh_sharedLevels [.openSelector "a"] hreg rfl
      (fun s h => by cases h) (Prod.ext hset rfl) (Token.parse?_eq_some.1 ht)
  have hrendered : Token.render .info (some "a ") = "INFO:a " := by decide
  have htrimmed : Text.trim "INFO:a " = "INFO:a" := by decide
  refine ⟨_, s, b, Prod.ext hset rfl, hs, hb, ?_, ?_, ?_⟩
  · rw [← hrendered]
    exact hget
  · rw [hraw, hrendered, htrimmed]
  · intro h
    have hsolid : (some "a ").any Text.endsBlank = false := hiff.1 h
    revert hsolid
    decide

end Deployment

end Admission

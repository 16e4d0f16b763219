import Admission.Registry

/-!
# Histories of a circle — who was registered when

  The trail of a circle tells everything that happened in it. Read from its beginning it
  is a history, and a history alone says who is registered after it: those who were
  registered and not taken away since, in the order in which they were registered
  (`registered`).

  From the empty circle on, a circle is true to its history (`Sound`). So an id is given
  once and never again, and whether an id was there when it was to be taken away can be
  read off what happened before.
-/

namespace Admission

namespace Happening

variable {α : Type}

/-- The registration that was made, if one was made. -/
def entry? : Happening α → Option (ListenerId × α)
  | added id listener => some (id, listener)
  | _ => none

/-- Whether an id was to be taken away. -/
def removes (id : ListenerId) : Happening α → Bool
  | removed i _ => i == id
  | _ => false

end Happening

namespace Circle

variable {α : Type}

/-- What happened in a circle, first first. -/
def history (c : Circle α) : List (Happening α) := c.trail.reverse

@[simp] theorem history_empty : ({} : Circle α).history = [] := rfl

@[simp] theorem history_note (c : Circle α) (h : Happening α) :
    (c.note h).history = c.history ++ [h] := by
  simp [history, note]

@[simp] theorem history_add (c : Circle α) (listener : α) :
    (c.add listener).history = c.history ++ [.added c.registry.nextId listener] := by
  simp [history, add]

@[simp] theorem history_remove (c : Circle α) (id : ListenerId) :
    (c.remove id).history = c.history ++ [.removed id (c.registry.contains id)] := by
  simp [history, remove]

/-! ### Who is registered -/

/-- Those who are registered after a history, in the order in which they were registered: whoever
was to be taken away later is not. -/
def registered : List (Happening α) → List (ListenerId × α)
  | [] => []
  | h :: rest =>
    (h.entry?.toList.filter fun l => !rest.any (Happening.removes l.1)) ++ registered rest

/-- The ids that were given in a history. -/
def givenIds (past : List (Happening α)) : List ListenerId :=
  (past.filterMap Happening.entry?).map (·.1)

/-- One more thing that happened takes away and registers whom it says. -/
theorem registered_concat (past : List (Happening α)) (h : Happening α) :
    registered (past ++ [h]) =
      ((registered past).filter fun l => !h.removes l.1) ++ h.entry?.toList := by
  induction past with
  | nil => simp [registered]
  | cons first rest ih =>
    rw [List.cons_append]
    unfold registered
    rw [ih, List.filter_append, List.filter_filter, List.append_assoc]
    congr 2
    funext l
    simp [Bool.and_comm]

/-- Who is registered was registered at some moment, and was not to be taken away after that. -/
theorem mem_registered {past : List (Happening α)} {id : ListenerId} {listener : α} :
    (id, listener) ∈ registered past ↔
      ∃ before after, past = before ++ .added id listener :: after ∧
        ∀ present, Happening.removed id present ∉ after := by
  induction past with
  | nil => simp [registered]
  | cons first rest ih =>
    have hnone : rest.any (Happening.removes id) = false ↔
        ∀ present, Happening.removed id present ∉ rest := by
      rw [List.any_eq_false]
      constructor
      · intro h present hm
        simpa [Happening.removes] using h _ hm
      · intro h x hx hrem
        cases x with
        | removed i present =>
          have hi : i = id := by simpa [Happening.removes] using hrem
          exact h present (hi ▸ hx)
        | _ => simp [Happening.removes] at hrem
    have hfirst : (id, listener) ∈
        (first.entry?.toList.filter fun l => !rest.any (Happening.removes l.1)) ↔
        first = .added id listener ∧ rest.any (Happening.removes id) = false := by
      rw [List.mem_filter, Option.mem_toList]
      cases first with
      | added i l => simp [Happening.entry?]
      | _ => simp [Happening.entry?]
    unfold registered
    rw [List.mem_append, hfirst, hnone, ih]
    constructor
    · rintro (⟨hadd, hrest⟩ | ⟨before, after, hpast, hafter⟩)
      · exact ⟨[], rest, by rw [hadd]; rfl, hrest⟩
      · exact ⟨first :: before, after, by rw [hpast]; rfl, hafter⟩
    · rintro ⟨before, after, hpast, hafter⟩
      -- the registration is the first thing that happened, or it is in the rest
      cases before with
      | nil =>
        obtain ⟨hadd, hrest⟩ := List.cons.inj hpast
        exact .inl ⟨hadd, hrest ▸ hafter⟩
      | cons first' before =>
        exact .inr ⟨before, after, (List.cons.inj hpast).2, hafter⟩

/-! ### Circles that are true to their history -/

/-- A circle is true to its history. -/
structure Sound (c : Circle α) : Prop where
  /-- The registered listeners are those that the history says. -/
  listeners : c.registry.listeners = registered c.history
  /-- No id was given twice. -/
  distinct : (givenIds c.history).Nodup
  /-- The next id was not given before. -/
  fresh : ∀ id ∈ givenIds c.history, id.number < c.registry.given
  /-- Whether an id was there when it was to be taken away is told as it was. -/
  removals : ∀ before id present after, c.history = before ++ .removed id present :: after →
    present = (registered before).any fun l => l.1 == id

theorem sound_empty : Sound ({} : Circle α) := by
  refine ⟨rfl, ?_, ?_, ?_⟩
  · simp [givenIds, history]
  · intro id hm
    simp [givenIds, history] at hm
  · intro before id present after h
    simp [history] at h

variable {c : Circle α}

theorem givenIds_concat (past : List (Happening α)) (h : Happening α) :
    givenIds (past ++ [h]) = givenIds past ++ h.entry?.toList.map (·.1) := by
  unfold givenIds
  rw [List.filterMap_append, List.map_append]
  cases h with
  | added id listener => rfl
  | _ => rfl

/-- What happened at the end of a history or before. -/
theorem concat_eq_append_cons {past before after : List (Happening α)} {h x : Happening α}
    (he : past ++ [h] = before ++ x :: after) :
    (past = before ∧ h = x) ∨ ∃ after', past = before ++ x :: after' := by
  rcases List.eq_nil_or_concat after with hnil | ⟨after', last, hcat⟩
  · left
    rw [hnil] at he
    exact ⟨(List.append_inj' he rfl).1, List.singleton_inj.1 (List.append_inj' he rfl).2⟩
  · right
    rw [hcat, List.concat_eq_append, ← List.cons_append, ← List.append_assoc] at he
    exact ⟨after', (List.append_inj' he rfl).1⟩

/-- What leaves the registrations alone may happen at any time. -/
theorem Sound.note (hc : c.Sound) {h : Happening α} (he : h.entry? = none)
    (hr : ∀ id, h.removes id = false) : (c.note h).Sound := by
  refine ⟨?_, ?_, ?_, ?_⟩
  · rw [history_note, registered_concat, he]
    have hall : ((registered c.history).filter fun l => !h.removes l.1) = registered c.history :=
      List.filter_eq_self.2 fun l _ => by rw [hr]; rfl
    rw [hall, Option.toList_none, List.append_nil]
    exact hc.listeners
  · rw [history_note, givenIds_concat, he]
    simpa using hc.distinct
  · rw [history_note, givenIds_concat, he]
    simpa [Circle.note] using hc.fresh
  · intro before id present after hsplit
    rw [history_note] at hsplit
    rcases concat_eq_append_cons hsplit with ⟨-, hx⟩ | ⟨after', hpast⟩
    · -- it would have to take a registration away
      have hrem := hr id
      rw [hx] at hrem
      simp [Happening.removes] at hrem
    · exact hc.removals before id present after' hpast

theorem Sound.add (hc : c.Sound) (listener : α) : (c.add listener).Sound := by
  refine ⟨?_, ?_, ?_, ?_⟩
  · rw [history_add, registered_concat]
    have hall : ((registered c.history).filter fun l =>
        !Happening.removes l.1 (.added c.registry.nextId listener)) = registered c.history :=
      List.filter_eq_self.2 fun l _ => rfl
    rw [hall, ← hc.listeners]
    rfl
  · rw [history_add, givenIds_concat]
    simp only [Happening.entry?, Option.toList_some, List.map_cons, List.map_nil]
    -- all ids before are below the one that is given now
    refine List.nodup_append.2 ⟨hc.distinct, by simp, ?_⟩
    intro id hm i hi he
    rw [List.mem_singleton] at hi
    have hlt := hc.fresh id hm
    rw [he, hi] at hlt
    exact Nat.lt_irrefl _ hlt
  · intro id hm
    rw [history_add, givenIds_concat] at hm
    show id.number < c.registry.given + 1
    rcases List.mem_append.1 hm with hm | hm
    · have hlt := hc.fresh id hm
      omega
    · simp only [Happening.entry?, Option.toList_some, List.map_cons, List.map_nil,
        List.mem_singleton] at hm
      rw [hm]
      exact Nat.lt_succ_self _
  · intro before id present after hsplit
    rw [history_add] at hsplit
    rcases concat_eq_append_cons hsplit with ⟨-, hx⟩ | ⟨after', hpast⟩
    · cases hx
    · exact hc.removals before id present after' hpast

theorem Sound.remove (hc : c.Sound) (id : ListenerId) : (c.remove id).Sound := by
  refine ⟨?_, ?_, ?_, ?_⟩
  · rw [history_remove, registered_concat]
    show (c.registry.listeners.filter fun l => l.1 != id) = _
    rw [hc.listeners]
    simp only [Happening.entry?, Option.toList_none, List.append_nil]
    congr 1
    funext l
    simp [Happening.removes, bne, Bool.beq_comm]
  · rw [history_remove, givenIds_concat]
    simpa [Happening.entry?] using hc.distinct
  · rw [history_remove, givenIds_concat]
    simpa [Happening.entry?, Circle.remove, Registry.remove] using hc.fresh
  · intro before i present after hsplit
    rw [history_remove] at hsplit
    rcases concat_eq_append_cons hsplit with ⟨hbefore, hx⟩ | ⟨after', hpast⟩
    · -- the id was there if it was registered
      cases hx
      rw [← hbefore, ← hc.listeners]
      rfl
    · exact hc.removals before i present after' hpast

/-! ### What the history of a sound circle says about removals -/

/-- An id was there when it was to be taken away exactly if it had been given and nobody had
tried to take it away since. -/
theorem Sound.present_iff (hc : c.Sound) {before after : List (Happening α)} {id : ListenerId}
    {present : Bool} (h : c.history = before ++ .removed id present :: after) :
    present = true ↔ ∃ start listener since, before = start ++ .added id listener :: since ∧
      ∀ p, Happening.removed id p ∉ since := by
  rw [hc.removals before id present after h, List.any_eq_true]
  constructor
  · rintro ⟨l, hm, hid⟩
    have hl : l.1 = id := by simpa using hid
    obtain ⟨start, since, hbefore, hsince⟩ :=
      mem_registered.1 (show (id, l.2) ∈ registered before from hl ▸ hm)
    exact ⟨start, l.2, since, hbefore, hsince⟩
  · rintro ⟨start, listener, since, hbefore, hsince⟩
    exact ⟨(id, listener), mem_registered.2 ⟨start, since, hbefore, hsince⟩, by simp⟩

/-- An id that was given in two places of a history was given twice. -/
theorem not_given_twice {start since rest : List (Happening α)} {id : ListenerId} {l l' : α}
    (h : (givenIds (start ++ .added id l :: (since ++ .added id l' :: rest))).Nodup) : False := by
  unfold givenIds at h
  simp only [List.filterMap_append, List.filterMap_cons, Happening.entry?, List.map_append,
    List.map_cons] at h
  simp [List.nodup_append] at h

/-- An id is there at most once when it is to be taken away. -/
theorem Sound.present_once (hc : c.Sound) {before after : List (Happening α)} {id : ListenerId}
    (h : c.history = before ++ .removed id true :: after) :
    Happening.removed id true ∉ before ∧ Happening.removed id true ∉ after := by
  -- after a first removal that found the id, a second one would find a second registration
  have hlater : ∀ {xs ys zs : List (Happening α)},
      c.history = xs ++ .removed id true :: (ys ++ .removed id true :: zs) → False := by
    intro xs ys zs hsplit
    obtain ⟨start, l, since, hxs, -⟩ := (hc.present_iff hsplit).1 rfl
    have hsecond : c.history = (xs ++ .removed id true :: ys) ++ .removed id true :: zs := by
      rw [hsplit]
      simp
    obtain ⟨start', l', since', hys, hsince'⟩ := (hc.present_iff hsecond).1 rfl
    -- that registration lies after the first removal, and the other one before it
    have hbetween : ∃ ys', ys = ys' ++ .added id l' :: since' := by
      rcases List.append_eq_append_iff.1 hys with ⟨as, -, has⟩ | ⟨bs, -, hbs⟩
      · cases as with
        | nil => cases (List.cons.inj has).1
        | cons a as => exact ⟨as, (List.cons.inj has).2⟩
      · cases bs with
        | nil => cases (List.cons.inj hbs).1
        | cons b bs =>
          have hsince : since' = bs ++ .removed id true :: ys := (List.cons.inj hbs).2
          exact absurd (by rw [hsince]; simp) (hsince' true)
    obtain ⟨ys', hys'⟩ := hbetween
    have htwice : c.history = start ++ .added id l ::
        ((since ++ .removed id true :: ys') ++
          .added id l' :: (since' ++ .removed id true :: zs)) := by
      rw [hsplit, hxs, hys']
      simp
    exact not_given_twice (htwice ▸ hc.distinct)
  constructor
  · intro hm
    obtain ⟨xs, ys, hbefore⟩ := List.append_of_mem hm
    rw [hbefore, List.append_assoc, List.cons_append] at h
    exact hlater h
  · intro hm
    obtain ⟨ys, zs, hafter⟩ := List.append_of_mem hm
    rw [hafter] at h
    exact hlater h

end Circle

end Admission

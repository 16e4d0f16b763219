import Admission.Proofs.Registry.History

/-!
# Deliveries — who is called about an event

  A delivery is a stretch of a history: from the moment it began to its end the listeners
  are called one after the other (`Calls`), and between a call and its return stands what the
  listener did (`Doings`): it registers and takes away, delivers further events from
  beginning to end, and may fail, after which it does nothing more.

  Whatever its listeners do, a delivery calls exactly those who were registered when it
  began, in the order in which they were registered. This holds of the deliveries that
  listeners start as of all others (`Delivered`). The proof goes from the acts of a
  listener to the calls of a delivery, and by induction on how deep deliveries nest to all
  deliveries.
-/

namespace Admission.Circle

variable {α : Type}

/-! ### The shape of a delivery -/

mutual

/-- What happens while some listeners are called about an event, each once, one after the
other. -/
inductive Calls : ChangeEvent → List (ListenerId × α) → List (Happening α) → Prop where
  /-- Nobody is called. -/
  | done (event : ChangeEvent) : Calls event [] []
  /-- A listener is called, does what it does and returns; then the others are called. -/
  | call {event : ChangeEvent} {id : ListenerId} {listener : α} {others : List (ListenerId × α)}
      {doings calls : List (Happening α)} (did : Doings doings) (rest : Calls event others calls) :
      Calls event ((id, listener) :: others)
        (.called id listener event :: (doings ++ .returned id :: calls))

/-- What happens while a listener does what it does. -/
inductive Doings : List (Happening α) → Prop where
  /-- It does nothing more. -/
  | done : Doings []
  /-- It fails, and does nothing more. -/
  | failed : Doings [.failed]
  /-- It registers a listener. -/
  | added (id : ListenerId) (listener : α) {doings : List (Happening α)} (rest : Doings doings) :
      Doings (.added id listener :: doings)
  /-- It takes a registration away. -/
  | removed (id : ListenerId) (present : Bool) {doings : List (Happening α)}
      (rest : Doings doings) : Doings (.removed id present :: doings)
  /-- It delivers a further event, from beginning to end. -/
  | delivered {event : ChangeEvent} {listeners : List (ListenerId × α)}
      {calls doings : List (Happening α)} (called : Calls event listeners calls)
      (rest : Doings doings) : Doings (.began event :: (calls ++ .ended event :: doings))

end

/-- Every delivery that begins in a stretch of a history comes to its end in it, and calls those
who are registered when it begins. -/
def Delivered (before stretch : List (Happening α)) : Prop :=
  ∀ pre event post, stretch = pre ++ .began event :: post →
    ∃ calls rest, post = calls ++ .ended event :: rest ∧
      Calls event (registered (before ++ pre)) calls

theorem Delivered.nil (before : List (Happening α)) : Delivered before [] := by
  intro pre event post hsplit
  simp at hsplit

theorem Delivered.append {before first second : List (Happening α)}
    (hfirst : Delivered before first) (hsecond : Delivered (before ++ first) second) :
    Delivered before (first ++ second) := by
  intro pre event post hsplit
  -- a delivery begins in the second stretch, or in the first one, where it also ends
  rcases List.append_eq_append_iff.1 hsplit with ⟨mid, hpre, hsec⟩ | ⟨mid, hfst, hpost⟩
  · obtain ⟨calls, rest, hcalls, hshape⟩ := hsecond mid event post hsec
    have hwhere : before ++ pre = before ++ first ++ mid := by rw [hpre, List.append_assoc]
    exact ⟨calls, rest, hcalls, hwhere ▸ hshape⟩
  · cases mid with
    | nil =>
      obtain ⟨calls, rest, hcalls, hshape⟩ := hsecond [] event post hpost.symm
      have hwhere : before ++ pre = before ++ first ++ [] := by rw [hfst]; simp
      exact ⟨calls, rest, hcalls, hwhere ▸ hshape⟩
    | cons h mid =>
      obtain ⟨hbegan, hrest⟩ := List.cons.inj hpost
      obtain ⟨calls, rest, hcalls, hshape⟩ := hfirst pre event mid (hbegan ▸ hfst)
      refine ⟨calls, rest ++ second, ?_, hshape⟩
      show post = calls ++ .ended event :: (rest ++ second)
      have hpost : post = mid ++ second := hrest
      rw [hpost, hcalls, List.append_assoc, List.cons_append]

/-- A happening that is not the beginning of a delivery delivers nothing. -/
theorem Delivered.single (before : List (Happening α)) {h : Happening α}
    (hb : ∀ event, h ≠ .began event) : Delivered before [h] := by
  intro pre event post hsplit
  cases pre with
  | nil => exact absurd (List.cons.inj hsplit).1 (hb event)
  | cons first pre =>
    have hrest := (List.cons.inj hsplit).2
    simp at hrest

/-- A delivery calls those who are registered when it begins, and so do the deliveries that
begin while it is under way. -/
theorem Delivered.delivery {before calls : List (Happening α)} {event : ChangeEvent}
    (hshape : Calls event (registered before) calls)
    (hinner : Delivered (before ++ [.began event]) calls) :
    Delivered before (.began event :: (calls ++ [.ended event])) := by
  have hcalls : Delivered (before ++ [.began event]) (calls ++ [.ended event]) :=
    hinner.append (.single _ fun e he => by cases he)
  intro pre e post hsplit
  cases pre with
  | nil =>
    obtain ⟨hbegan, hpost⟩ := List.cons.inj hsplit
    cases hbegan
    exact ⟨calls, [], hpost.symm, by rw [List.append_nil]; exact hshape⟩
  | cons first pre =>
    obtain ⟨hfirst, hrest⟩ := List.cons.inj hsplit
    obtain ⟨inner, rest, hpost, hinnerShape⟩ := hcalls pre e post hrest
    have hwhere : before ++ [.began event] ++ pre = before ++ first :: pre := by
      rw [← hfirst, List.append_assoc, List.singleton_append]
    exact ⟨inner, rest, hpost, hwhere ▸ hinnerShape⟩

/-! ### What a circle comes to -/

/-- A circle that is true to its history comes to another one through a stretch of history, in
which all deliveries are as they should be. -/
structure Extended (c : Circle α) (stretch : List (Happening α)) (c' : Circle α) : Prop where
  /-- The circle is true to its history afterwards. -/
  sound : c'.Sound
  /-- The stretch is what happened. -/
  history : c'.history = c.history ++ stretch
  /-- The deliveries in it call whom they should. -/
  delivered : Delivered c.history stretch

theorem Extended.refl {c : Circle α} (hc : c.Sound) : Extended c [] c :=
  ⟨hc, by simp, .nil _⟩

theorem Extended.trans {c c' c'' : Circle α} {first second : List (Happening α)}
    (hfirst : Extended c first c') (hsecond : Extended c' second c'') :
    Extended c (first ++ second) c'' where
  sound := hsecond.sound
  history := by rw [hsecond.history, hfirst.history, List.append_assoc]
  delivered := hfirst.delivered.append (hfirst.history ▸ hsecond.delivered)

theorem Extended.add {c : Circle α} (hc : c.Sound) (listener : α) :
    Extended c [.added c.registry.nextId listener] (c.add listener) :=
  ⟨hc.add listener, history_add c listener, .single _ fun e he => by cases he⟩

theorem Extended.remove {c : Circle α} (hc : c.Sound) (id : ListenerId) :
    Extended c [.removed id (c.registry.contains id)] (c.remove id) :=
  ⟨hc.remove id, history_remove c id, .single _ fun e he => by cases he⟩

theorem Extended.note {c : Circle α} (hc : c.Sound) {h : Happening α} (he : h.entry? = none)
    (hr : ∀ id, h.removes id = false) (hb : ∀ event, h ≠ .began event) :
    Extended c [h] (c.note h) :=
  ⟨hc.note he hr, history_note c h, .single _ hb⟩

/-- A way to deliver an event that calls those who are registered, and lets a circle be true to
its history. -/
def Delivers (deliver : ChangeEvent → Circle α → Option (Circle α)) : Prop :=
  ∀ event (c c' : Circle α), c.Sound → deliver event c = some c' →
    ∃ calls, Calls event (registered c.history) calls ∧
      Extended c (.began event :: (calls ++ [.ended event])) c'

section
variable {deliver : ChangeEvent → Circle α → Option (Circle α)}

theorem perform_extended (hd : Delivers deliver) (acts : List (Act α)) {c c' : Circle α}
    (hc : c.Sound) (h : perform deliver acts c = some c') :
    ∃ doings, Doings doings ∧ Extended c doings c' := by
  induction acts generalizing c with
  | nil =>
    have hsame : c = c' := Option.some.inj h
    exact ⟨[], .done, hsame ▸ .refl hc⟩
  | cons act acts ih =>
    cases act with
    | remove id =>
      obtain ⟨doings, hdid, hext⟩ := ih (hc.remove id) h
      exact ⟨_, .removed id _ hdid, (Extended.remove hc id).trans hext⟩
    | add listener =>
      obtain ⟨doings, hdid, hext⟩ := ih (hc.add listener) h
      exact ⟨_, .added _ listener hdid, (Extended.add hc listener).trans hext⟩
    | deliver event =>
      obtain ⟨mid, hmid, hrest⟩ := Option.bind_eq_some_iff.1 h
      obtain ⟨calls, hcalls, hinner⟩ := hd event c mid hc hmid
      obtain ⟨doings, hdid, hext⟩ := ih hinner.sound hrest
      refine ⟨_, .delivered hcalls hdid, ?_⟩
      have hboth := hinner.trans hext
      simpa using hboth
    | fail =>
      have hlast : c.note .failed = c' := Option.some.inj h
      refine ⟨[.failed], .failed, hlast ▸ Extended.note hc rfl (fun _ => rfl) ?_⟩
      intro event he
      cases he

theorem callAll_extended (hd : Delivers deliver) (behaviour : Behaviour α) (event : ChangeEvent)
    (listeners : List (ListenerId × α)) {c c' : Circle α} (hc : c.Sound)
    (h : callAll behaviour deliver event listeners c = some c') :
    ∃ calls, Calls event listeners calls ∧ Extended c calls c' := by
  induction listeners generalizing c with
  | nil =>
    have hsame : c = c' := Option.some.inj h
    exact ⟨[], .done event, hsame ▸ .refl hc⟩
  | cons l rest ih =>
    obtain ⟨id, listener⟩ := l
    obtain ⟨after, hafter, hrest⟩ := Option.bind_eq_some_iff.1 h
    have hcalled : Extended c [.called id listener event] (c.note (.called id listener event)) :=
      .note hc rfl (fun _ => rfl) fun e he => by cases he
    obtain ⟨doings, hdid, hdoes⟩ := perform_extended hd _ hcalled.sound hafter
    have hreturned : Extended after [.returned id] (after.note (.returned id)) :=
      .note hdoes.sound rfl (fun _ => rfl) fun e he => by cases he
    obtain ⟨calls, hcalls, hothers⟩ := ih hreturned.sound hrest
    refine ⟨_, .call hdid hcalls, ?_⟩
    -- the call, what the listener does, its return, and then the others
    have hall := ((hcalled.trans hdoes).trans hreturned).trans hothers
    simpa using hall

end

/-- A delivery calls those who are registered, however deep deliveries nest in it. -/
theorem dispatch_delivers (behaviour : Behaviour α) (depth : Nat) :
    Delivers (dispatch behaviour depth) := by
  induction depth with
  | zero =>
    intro event c c' _ h
    cases h
  | succ depth ih =>
    intro event c c' hc h
    obtain ⟨after, hafter, hended⟩ := Option.bind_eq_some_iff.1 h
    have hlast : after.note (.ended event) = c' := Option.some.inj hended
    have hbegan : (c.note (.began event)).Sound := hc.note rfl fun _ => rfl
    -- what listeners deliver nests one level less deep
    obtain ⟨calls, hcalls, hext⟩ :=
      callAll_extended ih behaviour event c.registry.listeners hbegan hafter
    rw [hc.listeners] at hcalls
    refine ⟨calls, hcalls, ?_, ?_, ?_⟩
    · rw [← hlast]
      exact hext.sound.note rfl fun _ => rfl
    · rw [← hlast, history_note, hext.history, history_note]
      simp
    · exact .delivery hcalls (history_note c _ ▸ hext.delivered)

/-! ### When a delivery comes to its end -/

section
variable {deliver deliver' : ChangeEvent → Circle α → Option (Circle α)}

theorem perform_mono (hd : ∀ event c c', deliver event c = some c' → deliver' event c = some c')
    (acts : List (Act α)) {c c' : Circle α} (h : perform deliver acts c = some c') :
    perform deliver' acts c = some c' := by
  induction acts generalizing c with
  | nil => exact h
  | cons act acts ih =>
    cases act with
    | remove id => exact ih h
    | add listener => exact ih h
    | deliver event =>
      obtain ⟨mid, hmid, hrest⟩ := Option.bind_eq_some_iff.1 h
      exact Option.bind_eq_some_iff.2 ⟨mid, hd event c mid hmid, ih hrest⟩
    | fail => exact h

theorem callAll_mono (hd : ∀ event c c', deliver event c = some c' → deliver' event c = some c')
    (behaviour : Behaviour α) (event : ChangeEvent) (listeners : List (ListenerId × α))
    {c c' : Circle α} (h : callAll behaviour deliver event listeners c = some c') :
    callAll behaviour deliver' event listeners c = some c' := by
  induction listeners generalizing c with
  | nil => exact h
  | cons l rest ih =>
    obtain ⟨after, hafter, hrest⟩ := Option.bind_eq_some_iff.1 h
    exact Option.bind_eq_some_iff.2 ⟨after, perform_mono hd _ hafter, ih hrest⟩

end

/-- A delivery that comes to its end does so in the same way if deliveries may nest deeper. -/
theorem dispatch_mono (behaviour : Behaviour α) {depth depth' : Nat} (hle : depth ≤ depth')
    {event : ChangeEvent} {c c' : Circle α} (h : dispatch behaviour depth event c = some c') :
    dispatch behaviour depth' event c = some c' := by
  induction depth generalizing depth' event c c' with
  | zero => cases h
  | succ depth ih =>
    cases depth' with
    | zero => omega
    | succ depth' =>
      obtain ⟨after, hafter, hended⟩ := Option.bind_eq_some_iff.1 h
      have hdeeper := callAll_mono (fun e d d' hd => ih (Nat.le_of_succ_le_succ hle) hd)
        behaviour event _ hafter
      exact Option.bind_eq_some_iff.2 ⟨after, hdeeper, hended⟩

/-- Listeners that do not deliver further events without end: what is left to deliver shrinks with
each delivery that begins inside another one, and never grows. -/
structure Settles (behaviour : Behaviour α) (rank : Circle α → ChangeEvent → Nat) : Prop where
  /-- It never grows. -/
  wanes : ∀ {c c' : Circle α}, c.history <+: c'.history → ∀ event, rank c' event ≤ rank c event
  /-- A further event has less left. -/
  shrinks : ∀ {c c' : Circle α} {listener : α} {event further : ChangeEvent},
    c.history <+: c'.history → .deliver further ∈ behaviour c listener event →
      rank c' further < rank c event

section
variable {behaviour : Behaviour α} {rank : Circle α → ChangeEvent → Nat} {bound : Nat}
  {deliver : ChangeEvent → Circle α → Option (Circle α)}

/-- The acts of a listener come to their end if the events that it delivers have little left. -/
theorem perform_isSome (hd : Delivers deliver)
    (hends : ∀ event (c : Circle α), c.Sound → rank c event < bound →
      ∃ c', deliver event c = some c')
    (acts : List (Act α)) {c : Circle α} (hc : c.Sound)
    (hbelow : ∀ further, .deliver further ∈ acts → ∀ c' : Circle α,
      c.history <+: c'.history → rank c' further < bound) :
    ∃ c', perform deliver acts c = some c' := by
  induction acts generalizing c with
  | nil => exact ⟨c, rfl⟩
  | cons act acts ih =>
    have hlater : ∀ mid : Circle α, c.history <+: mid.history → ∀ further,
        .deliver further ∈ acts → ∀ c' : Circle α, mid.history <+: c'.history →
        rank c' further < bound := by
      intro mid hmid further hm c' hc'
      exact hbelow further (List.mem_cons_of_mem _ hm) c' (hmid.trans hc')
    cases act with
    | remove id => exact ih (hc.remove id) (hlater _ (by simp))
    | add listener => exact ih (hc.add listener) (hlater _ (by simp))
    | deliver further =>
      have hnow : rank c further < bound :=
        hbelow further (by simp) c (List.prefix_refl c.history)
      obtain ⟨mid, hmid⟩ := hends further c hc hnow
      obtain ⟨calls, -, hext⟩ := hd further c mid hc hmid
      have hpre : c.history <+: mid.history := ⟨_, hext.history.symm⟩
      obtain ⟨c', hrest⟩ := ih hext.sound (hlater mid hpre)
      exact ⟨c', Option.bind_eq_some_iff.2 ⟨mid, hmid, hrest⟩⟩
    | fail => exact ⟨_, rfl⟩

theorem callAll_isSome (hs : Settles behaviour rank) (hd : Delivers deliver)
    (hends : ∀ event (c : Circle α), c.Sound → rank c event < bound →
      ∃ c', deliver event c = some c')
    (event : ChangeEvent) (listeners : List (ListenerId × α)) {c : Circle α} (hc : c.Sound)
    (hbound : rank c event ≤ bound) :
    ∃ c', callAll behaviour deliver event listeners c = some c' := by
  induction listeners generalizing c with
  | nil => exact ⟨c, rfl⟩
  | cons l rest ih =>
    obtain ⟨id, listener⟩ := l
    have hcalled : (c.note (.called id listener event)).Sound := hc.note rfl fun _ => rfl
    have hleft : rank (c.note (.called id listener event)) event ≤ bound := by
      have hwanes : rank (c.note (.called id listener event)) event ≤ rank c event :=
        hs.wanes (by simp) event
      omega
    -- what the listener delivers has less left than the event that it is called about
    obtain ⟨after, hafter⟩ := perform_isSome hd hends
      (behaviour (c.note (.called id listener event)) listener event) hcalled
      fun further hm c' hc' => by
        have hless := hs.shrinks hc' hm
        omega
    obtain ⟨doings, -, hdoes⟩ := perform_extended hd _ hcalled hafter
    have hreturned : (after.note (.returned id)).Sound := hdoes.sound.note rfl fun _ => rfl
    have hpre : (c.note (.called id listener event)).history <+:
        (after.note (.returned id)).history := by
      rw [history_note after, hdoes.history, List.append_assoc]
      exact List.prefix_append _ _
    have hwanes := hs.wanes hpre event
    obtain ⟨c', hrest⟩ := ih hreturned (by omega)
    exact ⟨c', Option.bind_eq_some_iff.2 ⟨after, hafter, hrest⟩⟩

/-- Listeners that settle let every delivery come to its end. -/
theorem dispatch_isSome (hs : Settles behaviour rank) (depth : Nat) {event : ChangeEvent}
    {c : Circle α} (hc : c.Sound) (hr : rank c event < depth) :
    ∃ c', dispatch behaviour depth event c = some c' := by
  induction depth generalizing event c with
  | zero => omega
  | succ depth ih =>
    have hbegan : (c.note (.began event)).Sound := hc.note rfl fun _ => rfl
    have hwanes : rank (c.note (.began event)) event ≤ rank c event := hs.wanes (by simp) event
    obtain ⟨after, hafter⟩ := callAll_isSome hs (dispatch_delivers behaviour depth)
      (fun e d hd hlt => ih hd hlt) event c.registry.listeners hbegan (by omega)
    exact ⟨after.note (.ended event), Option.bind_eq_some_iff.2 ⟨after, hafter, rfl⟩⟩

end

/-! ### All runs -/

/-- The circles that registrations, removals and deliveries lead to. What listeners do may
differ from one delivery to the next. -/
inductive Reached : Circle α → Prop where
  /-- Nothing happened yet. -/
  | empty : Reached {}
  /-- A listener is registered. -/
  | add {c : Circle α} (before : Reached c) (listener : α) : Reached (c.add listener)
  /-- A registration is taken away. -/
  | remove {c : Circle α} (before : Reached c) (id : ListenerId) : Reached (c.remove id)
  /-- An event is delivered. -/
  | dispatch {c c' : Circle α} (before : Reached c) (behaviour : Behaviour α) (depth : Nat)
      (event : ChangeEvent) (ends : dispatch behaviour depth event c = some c') : Reached c'

theorem Reached.extended {c : Circle α} (h : Reached c) : Extended {} c.history c := by
  induction h with
  | empty => exact .refl sound_empty
  | add _ listener ih => exact history_add _ listener ▸ ih.trans (.add ih.sound listener)
  | remove _ id ih => exact history_remove _ id ▸ ih.trans (.remove ih.sound id)
  | dispatch _ behaviour depth event ends ih =>
    obtain ⟨calls, -, hext⟩ := dispatch_delivers behaviour depth event _ _ ih.sound ends
    exact hext.history ▸ ih.trans hext

/-- However listeners act: every delivery calls exactly those who were registered when it began,
each once and in the order in which they were registered, and comes to its end before anything
else goes on; no id is given twice; who is registered is who was registered and not taken away
since, in that order; and an id is there when it is to be taken away exactly the first time after
it was given. A registration, a removal and a delivery are each added to the history, a delivery
with its beginning, the calls of those who are registered and its end, and nothing else. A
delivery has a result, and only one, unless listeners deliver events without end. -/
theorem Reached.fans_out {c : Circle α} (h : Reached c) :
    (∀ before event after, c.history = before ++ .began event :: after →
      ∃ calls rest, after = calls ++ .ended event :: rest ∧
        Calls event (registered before) calls) ∧
    (givenIds c.history).Nodup ∧
    c.registry.listeners = registered c.history ∧
    (∀ before id present after, c.history = before ++ .removed id present :: after →
      (present = true ↔ ∃ start listener since, before = start ++ .added id listener :: since ∧
        ∀ p, Happening.removed id p ∉ since) ∧
      (present = true → Happening.removed id true ∉ before ∧ Happening.removed id true ∉ after)) ∧
    (∀ listener, (c.add listener).history = c.history ++ [.added c.registry.nextId listener]) ∧
    (∀ id, ∃ present, (c.remove id).history = c.history ++ [.removed id present]) ∧
    (∀ behaviour depth event c', Circle.dispatch behaviour depth event c = some c' →
      Reached c' ∧ ∃ calls, Calls event c.registry.listeners calls ∧
        c'.history = c.history ++ .began event :: calls ++ [.ended event]) ∧
    ∀ behaviour rank, Settles behaviour rank → ∀ event, ∃ c',
      ∀ depth, rank c event < depth → Circle.dispatch behaviour depth event c = some c' := by
  have hc : c.Sound := h.extended.sound
  refine ⟨?_, hc.distinct, hc.listeners, ?_, history_add c, fun id => ⟨_, history_remove c id⟩,
    ?_, ?_⟩
  · intro before event after hsplit
    exact h.extended.delivered before event after hsplit
  · intro before id present after hsplit
    refine ⟨hc.present_iff hsplit, ?_⟩
    intro hp
    exact hc.present_once (hp ▸ hsplit)
  · intro behaviour depth event c' hc'
    obtain ⟨calls, hcalls, hext⟩ := dispatch_delivers behaviour depth event c c' hc hc'
    refine ⟨.dispatch h behaviour depth event hc', calls, hc.listeners ▸ hcalls, ?_⟩
    rw [hext.history, List.append_assoc, List.cons_append]
  · intro behaviour rank hs event
    obtain ⟨c', hc'⟩ := dispatch_isSome hs (rank c event + 1) hc (Nat.lt_succ_self _)
    refine ⟨c', fun depth hlt => ?_⟩
    exact dispatch_mono behaviour hlt hc'

/-- Listeners of which one, when the store was replaced, takes the first two registrations away,
registers another listener, delivers that all keys are gone, and fails. -/
def hasty : Behaviour Bool := fun _ first event =>
  if first && event.kind == .reloaded then
    [.remove ⟨0⟩, .remove ⟨1⟩, .add false, .deliver (.emptied event.source), .fail]
  else []

theorem hasty_settles :
    Settles hasty fun _ event => if event.kind = .reloaded then 1 else 0 where
  wanes := fun _ _ => Nat.le_refl _
  shrinks := by
    intro c c' first event further _ hm
    unfold hasty at hm
    split at hm
    · next hwhen =>
      have hkind : event.kind = .reloaded := by simpa using (Bool.and_eq_true_iff.1 hwhen).2
      have hfurther : further = .emptied event.source := by simpa using hm
      rw [hfurther, hkind]
      simp [ChangeEvent.emptied]
    · cases hm

/-- The second of two listeners is called though the first one took it away, and the listener
that came later is called about the further event only. -/
theorem Reached.fans_out_hasty :
    ∃ c calls, (∀ depth, 1 < depth → Circle.dispatch hasty depth (.replaced "store")
        ((({} : Circle Bool).add true).add false) = some c) ∧
      c.history = [.added ⟨0⟩ true, .added ⟨1⟩ false] ++
        .began (.replaced "store") :: calls ++ [.ended (.replaced "store")] ∧
      Calls (.replaced "store") [(⟨0⟩, true), (⟨1⟩, false)] calls ∧
      calls = [.called ⟨0⟩ true (.replaced "store"),
          .removed ⟨0⟩ true, .removed ⟨1⟩ true, .added ⟨2⟩ false,
          .began (.emptied "store"),
            .called ⟨2⟩ false (.emptied "store"), .returned ⟨2⟩,
          .ended (.emptied "store"),
          .failed, .returned ⟨0⟩,
        .called ⟨1⟩ false (.replaced "store"), .returned ⟨1⟩] := by
  have hstart : Reached ((({} : Circle Bool).add true).add false) :=
    .add (.add .empty true) false
  obtain ⟨-, -, -, -, -, -, hresults, hends⟩ := hstart.fans_out
  obtain ⟨c, hends⟩ := hends hasty _ hasty_settles (.replaced "store")
  have hresult := hends 2 (by decide)
  obtain ⟨-, calls, hcalls, hhistory⟩ := hresults hasty 2 (.replaced "store") c hresult
  refine ⟨c, calls, hends, hhistory, hcalls, ?_⟩
  have hcut : calls = (c.history.drop 3).dropLast := by
    rw [hhistory]
    exact List.dropLast_concat.symm
  -- what happened is found by letting the delivery run
  rw [hcut]
  cases Option.some.inj hresult
  rfl

end Admission.Circle

import Admission.Proofs.Store.Lifetime
import Mathlib.Data.List.Nodup

/-!
# Polling — a task runs while the store is open, and only then

  The state of a store and the task that it holds are two things, which opening and closing
  set one after the other. `Orderly` says how they agree at every moment: only the task that
  is held runs, and one is held exactly while the store is open, is to be polled and is where
  it may change by itself. `AtRest` adds what holds but for the time that closing takes: the
  task that is held does run, and nobody cancelled it.

  What happens between opening and closing leaves all of this alone (`Carries`), so it is
  enough to look at opening and closing themselves. `polls_while_open` puts it together for
  all runs, and adds what opening comes to and that a closed store is silent.
-/

namespace Admission

namespace Lifetime

variable {digest : Digest} {source : String} {settings : FileSettings} {l l' : Lifetime}

/-! ### What moves leave alone -/

/-- The store of a later moment is open if it was, at the same place and with the same task in
hand; and no task runs that did not run before, nor has one stopped that nobody cancelled. -/
structure Carries (l l' : Lifetime) : Prop where
  /-- The settings are the same. -/
  settings : l'.store.settings = l.store.settings
  /-- The task that is held is the same. -/
  tasks : l'.store.tasks = l.store.tasks
  /-- The place is the same. -/
  place : l'.store.place = l.store.place
  /-- The tasks are the same. -/
  numbers : l'.polls.map Poll.number = l.polls.map Poll.number
  /-- A task that runs did run. -/
  ran : ∀ q ∈ l'.polls, q.isRunning = true → ∃ p ∈ l.polls, p.number = q.number ∧ p.isRunning = true
  /-- A task that ran, and that nobody cancelled, still does so. -/
  runs : ∀ p ∈ l.polls, p.isRunning = true → p.task.cancelled = false →
    ∃ q ∈ l'.polls, q.number = p.number ∧ q.isRunning = true ∧ q.task.cancelled = false

theorem Carries.refl (l : Lifetime) : Carries l l :=
  ⟨rfl, rfl, rfl, rfl, fun q hq hr => ⟨q, hq, rfl, hr⟩, fun p hp hr hc => ⟨p, hp, rfl, hr, hc⟩⟩

theorem Carries.trans {l'' : Lifetime} (h : Carries l l') (h' : Carries l' l'') :
    Carries l l'' where
  settings := h'.settings.trans h.settings
  tasks := h'.tasks.trans h.tasks
  place := h'.place.trans h.place
  numbers := h'.numbers.trans h.numbers
  ran := by
    intro q hq hr
    obtain ⟨p', hp', hn', hr'⟩ := h'.ran q hq hr
    obtain ⟨p, hp, hn, hran⟩ := h.ran p' hp' hr'
    exact ⟨p, hp, hn.trans hn', hran⟩
  runs := by
    intro p hp hr hc
    obtain ⟨q', hq', hn', hr', hc'⟩ := h.runs p hp hr hc
    obtain ⟨q, hq, hn, hruns, hfree⟩ := h'.runs q' hq' hr' hc'
    exact ⟨q, hq, hn.trans hn', hruns, hfree⟩

/-- The tasks may change one by one. -/
theorem Carries.of_map {f : Poll → Poll} {store : FileStore} {world : World}
    (hsettings : store.settings = l.store.settings) (htasks : store.tasks = l.store.tasks)
    (hplace : store.place = l.store.place)
    (hf : ∀ p ∈ l.polls, (f p).number = p.number ∧
      ((f p).isRunning = true → p.isRunning = true) ∧
      (p.isRunning = true → p.task.cancelled = false →
        (f p).isRunning = true ∧ (f p).task.cancelled = false)) :
    Carries l { world, store, polls := l.polls.map f } where
  settings := hsettings
  tasks := htasks
  place := hplace
  numbers := by
    rw [List.map_map]
    exact List.map_congr_left fun p hp => (hf p hp).1
  ran := by
    intro q hq hr
    obtain ⟨p, hp, he⟩ := List.mem_map.1 hq
    rw [← he] at hr ⊢
    exact ⟨p, hp, (hf p hp).1.symm, (hf p hp).2.1 hr⟩
  runs := by
    intro p hp hr hc
    exact ⟨f p, List.mem_map_of_mem hp, (hf p hp).1, (hf p hp).2.2 hr hc⟩

/-- A store whose tasks stay as they are. -/
theorem Carries.of_store {store : FileStore} {world : World}
    (hsettings : store.settings = l.store.settings) (htasks : store.tasks = l.store.tasks)
    (hplace : store.place = l.store.place) : Carries l { l with world, store } := by
  have h : Carries l { world, store, polls := l.polls.map id } :=
    .of_map hsettings htasks hplace fun p _ => ⟨rfl, id, fun hr hc => ⟨hr, hc⟩⟩
  rw [List.map_id] at h
  exact h

theorem change_keeps (source : String) (c : Change) (fs : Files) (s : FileStore) :
    (s.change source c fs).2.2.settings = s.settings ∧
    (s.change source c fs).2.2.tasks = s.tasks ∧
    (s.change source c fs).2.2.place = s.place := by
  rcases s.change_cases source c fs with ⟨cause, he⟩ | he |
    ⟨o, path, event, document, after, ho, -, -, -, he⟩
  · rw [he]
    exact ⟨rfl, rfl, rfl⟩
  · rw [he]
    exact ⟨rfl, rfl, rfl⟩
  · rw [he]
    refine ⟨rfl, rfl, ?_⟩
    unfold FileStore.place
    rw [ho]
    rfl

theorem conclude_keeps (sampled : Fingerprint) (read : Except Fault Reading) (s : FileStore) :
    (s.conclude digest source sampled read).2.settings = s.settings ∧
    (s.conclude digest source sampled read).2.tasks = s.tasks ∧
    (s.conclude digest source sampled read).2.place = s.place := by
  cases ho : s.opened with
  | none =>
    rw [s.conclude_closed digest source sampled read ho]
    exact ⟨rfl, rfl, rfl⟩
  | some o =>
    have hplace : s.place = some o.location := by
      unfold FileStore.place
      rw [ho]
      rfl
    rcases s.conclude_cases digest source sampled read ho with ⟨r, -, -, he⟩ | ⟨r, -, -, -, he⟩ |
      ⟨r, -, -, -, he⟩ | ⟨cause, -, -, he⟩ | ⟨cause, -, -, he⟩
    · rw [he]
      exact ⟨rfl, rfl, rfl⟩
    · rw [he]
      exact ⟨rfl, rfl, hplace.symm⟩
    · rw [he]
      exact ⟨rfl, rfl, hplace.symm⟩
    · rw [he]
      exact ⟨rfl, rfl, rfl⟩
    · rw [he]
      exact ⟨rfl, rfl, hplace.symm⟩

/-- Only a task that runs takes steps, and it goes on running unless it was cancelled, for the
cycles of a store do not end their task. -/
theorem next_keeps {task task' : Poller.Task} {duration time : Nat} {tickWins : Bool}
    (h : task.next (fun _ => { duration }) tickWins = some (time, task')) :
    task.phase ≠ .finished ∧ task'.cancelled = task.cancelled ∧
      (task.cancelled = false → task'.phase ≠ .finished) := by
  unfold Poller.Task.next at h
  cases hphase : task.phase with
  | finished =>
    simp only [hphase] at h
    cases h
  | running cycle ends due =>
    simp only [hphase] at h
    cases h
    refine ⟨by simp, rfl, ?_⟩
    intro _
    simp [Poller.Task.endCycle]
  | waiting due =>
    simp only [hphase] at h
    split at h
    · -- it sees that it is cancelled
      next hsees =>
        cases h
        refine ⟨by simp, rfl, ?_⟩
        intro hfree
        rw [hfree] at hsees
        cases hsees
    · cases h
      refine ⟨by simp, rfl, ?_⟩
      intro _
      simp [Poller.Task.tick]

/-- What a step of a task comes to: nothing, or the task is in its next state, and the store has
perhaps taken over what was read. -/
theorem takeTurn_cases (digest : Digest) (source : String) (number : Nat) (t : Turn)
    (l : Lifetime) :
    l.takeTurn digest source number t = (none, l) ∨
    ∃ p ∈ l.polls, ∃ time task sampled store event,
      p.task.next (fun _ => { duration := t.duration }) t.tickWins = some (time, task) ∧
      (store = l.store ∧ event = none ∨
        ∃ before read, (event, store) = l.store.conclude digest source before read) ∧
      l.takeTurn digest source number t =
        (event, { l with store }.put { p with task, sampled }) := by
  unfold takeTurn
  split
  · exact .inl rfl
  · next p hp =>
    have hm := List.mem_of_find?_eq_some hp
    split
    · exact .inl rfl
    · next time task hnext =>
      right
      split
      · next before read _ _ _ =>
        exact ⟨p, hm, time, task, _, _, _, hnext, .inr ⟨before, read, rfl⟩, rfl⟩
      · exact ⟨p, hm, time, task, _, _, _, hnext, .inl ⟨rfl, rfl⟩, rfl⟩
      · exact ⟨p, hm, time, task, _, _, _, hnext, .inl ⟨rfl, rfl⟩, rfl⟩

theorem takeTurn_carries (number : Nat) (t : Turn) (hn : (l.polls.map Poll.number).Nodup) :
    Carries l (l.takeTurn digest source number t).2 := by
  rcases takeTurn_cases digest source number t l with he |
    ⟨p, hp, time, task, sampled, store, event, hnext, hstore, he⟩
  · rw [he]
    exact .refl l
  · rw [he]
    obtain ⟨hran, hcancelled, hruns⟩ := next_keeps hnext
    have hkeeps : store.settings = l.store.settings ∧ store.tasks = l.store.tasks ∧
        store.place = l.store.place := by
      rcases hstore with ⟨hsame, -⟩ | ⟨before, read, hconclude⟩
      · rw [hsame]
        exact ⟨rfl, rfl, rfl⟩
      · have hafter : store = (l.store.conclude digest source before read).2 :=
          congrArg Prod.snd hconclude
        rw [hafter]
        exact conclude_keeps before read l.store
    refine .of_map hkeeps.1 hkeeps.2.1 hkeeps.2.2 ?_
    intro q hq
    by_cases hsame : q.number = p.number
    · -- there is only one task with that number
      have hqp : q = p := List.inj_on_of_nodup_map hn hq hp hsame
      rw [if_pos hsame, hqp]
      refine ⟨rfl, ?_, ?_⟩
      · intro _
        simpa [Poll.isRunning] using hran
      · intro _ hfree
        exact ⟨by simpa [Poll.isRunning] using hruns hfree, hcancelled.trans hfree⟩
    · rw [if_neg hsame]
      exact ⟨rfl, id, fun hr hc => ⟨hr, hc⟩⟩

theorem move_carries (m : Move) (hn : (l.polls.map Poll.number).Nodup) :
    Carries l (l.move digest source m).2 := by
  cases m with
  | change c =>
    obtain ⟨hsettings, htasks, hplace⟩ := change_keeps source c l.world.files l.store
    exact .of_store hsettings htasks hplace
  | outside world => exact .of_store rfl rfl rfl
  | pass milliseconds => exact .of_map rfl rfl rfl fun p _ => ⟨rfl, id, fun hr hc => ⟨hr, hc⟩⟩
  | turn number t => exact takeTurn_carries number t hn

theorem moves_carries (ms : List Move) (hn : (l.polls.map Poll.number).Nodup) :
    Carries l (l.moves digest source ms).2 := by
  induction ms generalizing l with
  | nil => exact .refl l
  | cons m ms ih =>
    have hfirst : Carries l (l.move digest source m).2 := move_carries m hn
    exact hfirst.trans (ih (hfirst.numbers ▸ hn))

/-! ### A closed store is silent -/

theorem opened_eq_none_of_place {s s' : FileStore} (h : s'.place = s.place)
    (hs : s.opened = none) : s'.opened = none := by
  unfold FileStore.place at h
  rw [hs, Option.map_none, Option.map_eq_none_iff] at h
  exact h

theorem move_silent (m : Move) (h : l.store.opened = none) :
    (l.move digest source m).1 = none := by
  cases m with
  | change c =>
    simp only [move]
    rcases l.store.change_cases source c l.world.files with ⟨cause, he⟩ | he |
      ⟨o, path, event, document, after, ho, -, -, -, he⟩
    · rw [he]
      rfl
    · rw [he]
      rfl
    · rw [h] at ho
      cases ho
  | outside world => rfl
  | pass milliseconds => rfl
  | turn number t =>
    simp only [move]
    rcases takeTurn_cases digest source number t l with he |
      ⟨p, -, time, task, sampled, store, event, -, hstore, he⟩
    · rw [he]
    · rw [he]
      rcases hstore with ⟨-, hnone⟩ | ⟨before, read, hconclude⟩
      · exact hnone
      · -- a cycle that ends after all has nothing to conclude
        rw [l.store.conclude_closed digest source before read h] at hconclude
        exact congrArg Prod.fst hconclude

theorem moves_silent (ms : List Move) (hn : (l.polls.map Poll.number).Nodup)
    (h : l.store.opened = none) : (l.moves digest source ms).1 = [] := by
  induction ms generalizing l with
  | nil => rfl
  | cons m ms ih =>
    have hfirst : Carries l (l.move digest source m).2 := move_carries m hn
    have hrest := ih (hfirst.numbers ▸ hn) (opened_eq_none_of_place hfirst.place h)
    show (l.move digest source m).1.toList ++ _ = []
    rw [move_silent m h]
    exact hrest

/-! ### How the store and its task agree -/

/-- The state of a store agrees with the task that it holds, at every moment of its lifetime. -/
structure Orderly (settings : FileSettings) (l : Lifetime) : Prop where
  /-- The settings stay as they are. -/
  made : l.store.settings = settings
  /-- No two tasks have the same number. -/
  numbers : (l.polls.map Poll.number).Nodup
  /-- The next task has a number of its own. -/
  earlier : ∀ p ∈ l.polls, p.number < l.store.tasks.started
  /-- No other task runs than the one that is held. -/
  only : ∀ p ∈ l.polls, p.isRunning = true → l.store.tasks.held = some p.number
  /-- The task that is held counts as running. -/
  tasks : l.store.tasks.running = l.store.tasks.held.toList
  /-- A task is held as long as the store is open and is to be polled. -/
  held : l.store.tasks.held.isSome = true ↔
    settings.refresh ≠ 0 ∧ ∃ location, l.store.place = some location ∧ location.isPollable = true
  /-- An open store is where its settings say. -/
  place : ∀ location, l.store.place = some location → settings.resolved? = some location

/-- Nobody is closing the store. -/
structure AtRest (settings : FileSettings) (l : Lifetime) : Prop extends Orderly settings l where
  /-- The task that is held runs, and will go on. -/
  going : ∀ number, l.store.tasks.held = some number →
    ∃ p ∈ l.polls, p.number = number ∧ p.isRunning = true ∧ p.task.cancelled = false

theorem Orderly.carried (h : Orderly settings l) (hc : Carries l l') : Orderly settings l' where
  made := hc.settings.trans h.made
  numbers := hc.numbers ▸ h.numbers
  earlier := by
    intro q hq
    have hm : q.number ∈ l.polls.map Poll.number := hc.numbers ▸ List.mem_map_of_mem hq
    obtain ⟨p, hp, hn⟩ := List.mem_map.1 hm
    rw [hc.tasks, ← hn]
    exact h.earlier p hp
  only := by
    intro q hq hr
    obtain ⟨p, hp, hn, hran⟩ := hc.ran q hq hr
    rw [hc.tasks, ← hn]
    exact h.only p hp hran
  tasks := by
    rw [hc.tasks]
    exact h.tasks
  held := by
    rw [hc.tasks, hc.place]
    exact h.held
  place := by
    rw [hc.place]
    exact h.place

theorem AtRest.carried (h : AtRest settings l) (hc : Carries l l') : AtRest settings l' where
  toOrderly := h.toOrderly.carried hc
  going := by
    intro number hheld
    rw [hc.tasks] at hheld
    obtain ⟨p, hp, hn, hr, hfree⟩ := h.going number hheld
    obtain ⟨q, hq, hsame, hruns⟩ := hc.runs p hp hr hfree
    exact ⟨q, hq, hsame.trans hn, hruns⟩

theorem atRest_new (settings : FileSettings) (world : World) :
    AtRest settings (new settings world) where
  made := rfl
  numbers := List.nodup_nil
  earlier := fun p hp => by cases hp
  only := fun p hp => by cases hp
  tasks := rfl
  held := by simp [new, FileStore.place]
  place := fun location hl => by cases hl
  going := fun number hn => by cases hn

/-- At most one task runs. -/
theorem Orderly.running_length_le (h : Orderly settings l) : l.running.length ≤ 1 := by
  -- those that run are all held, so two of them would have the same number
  have hsub : (l.running.map Poll.number).Nodup :=
    h.numbers.sublist (List.filter_sublist.map Poll.number)
  match hl : l.running with
  | [] => simp
  | [p] => simp
  | p :: q :: rest =>
    have hheld : ∀ r ∈ l.running, l.store.tasks.held = some r.number := by
      intro r hr
      obtain ⟨hm, hruns⟩ := List.mem_filter.1 hr
      exact h.only r hm hruns
    have hp := hheld p (by rw [hl]; simp)
    have hq := hheld q (by rw [hl]; simp)
    have hsame : p.number = q.number := Option.some.inj (hp.symm.trans hq)
    rw [hl] at hsub
    simp [hsame] at hsub

theorem Orderly.isPolling_iff (h : Orderly settings l) :
    l.store.tasks.isPolling = true ↔ l.store.tasks.held.isSome = true := by
  unfold PollTasks.isPolling
  rw [h.tasks]
  cases l.store.tasks.held with
  | none => simp
  | some number => simp

theorem AtRest.running_ne_nil_iff (h : AtRest settings l) :
    l.running ≠ [] ↔ l.store.tasks.held.isSome = true := by
  constructor
  · intro hr
    obtain ⟨p, hp⟩ := List.exists_mem_of_ne_nil _ hr
    obtain ⟨hm, hruns⟩ := List.mem_filter.1 hp
    rw [h.only p hm hruns]
    rfl
  · intro hheld
    obtain ⟨number, hn⟩ := Option.isSome_iff_exists.1 hheld
    obtain ⟨p, hp, -, hruns, -⟩ := h.going number hn
    exact List.ne_nil_of_mem (List.mem_filter.2 ⟨hp, hruns⟩)

theorem isPollable_iff {location : Location} : location.isPollable = true ↔
    (∃ path, location = .path path) ∨ ∃ url, location = .remote url := by
  cases location with
  | remote url => simp [Location.isPollable]
  | resource name text => simp [Location.isPollable]
  | path p => simp [Location.isPollable]

/-- A task is held exactly while the store is open, is to be polled, and is at a path or remote. -/
theorem Orderly.held_iff (h : Orderly settings l) : l.store.tasks.held.isSome = true ↔
    l.store.isOpen = true ∧ settings.refresh ≠ 0 ∧ ∃ location,
      settings.resolved? = some location ∧
      ((∃ path, location = .path path) ∨ ∃ url, location = .remote url) := by
  rw [h.held]
  have hopen : l.store.isOpen = true ↔ ∃ location, l.store.place = some location := by
    unfold FileStore.isOpen FileStore.place
    rw [Option.isSome_iff_exists]
    simp
  rw [hopen]
  constructor
  · intro ⟨hrefresh, location, hplace, hpoll⟩
    exact ⟨⟨location, hplace⟩, hrefresh, location, h.place location hplace,
      isPollable_iff.1 hpoll⟩
  · intro ⟨⟨location, hplace⟩, hrefresh, location', hresolved, hwhere⟩
    have hsame : location = location' :=
      Option.some.inj ((h.place location hplace).symm.trans hresolved)
    exact ⟨hrefresh, location, hplace, isPollable_iff.2 (hsame ▸ hwhere)⟩

/-! ### Closing -/

/-- What is done with the task that is held starts no task. -/
theorem Orderly.withHeld (h : Orderly settings l) {f : Poller.Task → Poller.Task}
    (hf : ∀ task, (f task).phase ≠ .finished → task.phase ≠ .finished) (held : Option Nat) :
    Orderly settings (l.withHeld f held) := by
  -- tasks keep their numbers, and one that runs did so before
  have hpolls : ∀ q ∈ (l.withHeld f held).polls, ∃ p ∈ l.polls, p.number = q.number ∧
      (q.isRunning = true → p.isRunning = true) := by
    intro q hq
    obtain ⟨p, hp, he⟩ := List.mem_map.1 hq
    refine ⟨p, hp, ?_, ?_⟩
    · rw [← he]
      split
      · rfl
      · rfl
    · intro hr
      rw [← he] at hr
      split at hr
      · simp only [Poll.isRunning, bne_iff_ne] at hr ⊢
        exact hf p.task hr
      · exact hr
  refine ⟨h.made, ?_, ?_, ?_, h.tasks, h.held, h.place⟩
  · have hnumbers : (l.withHeld f held).polls.map Poll.number = l.polls.map Poll.number := by
      unfold Lifetime.withHeld
      rw [List.map_map]
      apply List.map_congr_left
      intro p _
      simp only [Function.comp]
      split
      · rfl
      · rfl
    rw [hnumbers]
    exact h.numbers
  · intro q hq
    obtain ⟨p, hp, hn, -⟩ := hpolls q hq
    exact hn ▸ h.earlier p hp
  · intro q hq hr
    obtain ⟨p, hp, hn, hran⟩ := hpolls q hq
    exact hn ▸ h.only p hp (hran hr)

theorem Orderly.cancelled (h : Orderly settings l) : Orderly settings l.cancelled :=
  h.withHeld (f := Poller.Task.drop) (fun _ hr => hr) _

/-- When closing ends no task runs. -/
theorem Orderly.not_running_brokenOff (h : Orderly settings l) :
    ∀ q ∈ l.brokenOff.polls, q.isRunning ≠ true := by
  intro q hq hr
  obtain ⟨p, hp, he⟩ := List.mem_map.1 hq
  by_cases hheld : l.store.tasks.held = some p.number
  · rw [if_pos hheld] at he
    rw [← he] at hr
    simp [Poll.isRunning, Poller.Task.breakOff_phase] at hr
  · rw [if_neg hheld] at he
    exact hheld (h.only p hp (he ▸ hr))

theorem Orderly.brokenOff (h : Orderly settings l) : AtRest settings l.brokenOff := by
  -- breaking the task off sets none going, and then the store lets go of it
  have hheld : Orderly settings (l.withHeld (fun task => task.breakOff task.now)
      l.store.tasks.held) :=
    h.withHeld (fun task hr => absurd (task.breakOff_phase _) hr) _
  have hstop : l.store.tasks.stop.held = none ∧ l.store.tasks.stop.running = [] ∧
      l.store.tasks.stop.started = l.store.tasks.started := by
    unfold PollTasks.stop
    have htasks := h.tasks
    split
    · next hnone =>
      rw [hnone] at htasks
      exact ⟨hnone, htasks, rfl⟩
    · next number hsome =>
      rw [hsome] at htasks
      refine ⟨rfl, ?_, rfl⟩
      show l.store.tasks.running.filter _ = []
      rw [htasks]
      simp
  obtain ⟨hnone, hnobody, hstarted⟩ := hstop
  refine ⟨⟨h.made, hheld.numbers, ?_, ?_, ?_, ?_, ?_⟩, ?_⟩
  · intro q hq
    show q.number < l.store.tasks.stop.started
    rw [hstarted]
    exact hheld.earlier q hq
  · intro q hq hr
    exact absurd hr (h.not_running_brokenOff q hq)
  · show l.store.tasks.stop.running = l.store.tasks.stop.held.toList
    rw [hnone, hnobody]
    rfl
  · show l.store.tasks.stop.held.isSome = true ↔ _
    rw [hnone]
    simp [Lifetime.brokenOff, FileStore.place, FileStore.closeStore]
  · intro location hl
    cases hl
  · intro number hn
    have hn' : l.store.tasks.stop.held = some number := hn
    rw [hnone] at hn'
    cases hn'

theorem Orderly.closing (h : Orderly settings l) (meanwhile : List Move) :
    AtRest settings (l.closing digest source meanwhile).2 :=
  (h.cancelled.carried (moves_carries meanwhile h.cancelled.numbers)).brokenOff

/-- Closing a closed store is silent. -/
theorem Orderly.closing_silent (h : Orderly settings l) (meanwhile : List Move)
    (hclosed : l.store.opened = none) : (l.closing digest source meanwhile).1 = [] :=
  moves_silent meanwhile h.cancelled.numbers hclosed

/-! ### Opening -/

theorem withHeld_none (f : Poller.Task → Poller.Task) (l : Lifetime) : l.withHeld f none = l := by
  unfold withHeld
  simp

/-- A store that is opened and is not to be polled. -/
theorem AtRest.opened (h : AtRest settings l) {o : OpenFile}
    (hnone : l.store.tasks.held = none) (ho : settings.resolved? = some o.location)
    (hpoll : ¬(settings.refresh ≠ 0 ∧ o.location.isPollable = true)) :
    AtRest settings { l with store := { l.store with opened := some o } } where
  made := h.made
  numbers := h.numbers
  earlier := h.earlier
  only := h.only
  tasks := h.tasks
  held := by
    simp only [hnone]
    constructor
    · intro hn
      cases hn
    · intro ⟨hrefresh, location, hplace, hp⟩
      cases hplace
      exact absurd ⟨hrefresh, hp⟩ hpoll
  place := by
    intro location hplace
    cases hplace
    exact ho
  going := h.going

/-- A store that is opened and is to be polled gets a task, which is the only one that runs. -/
theorem AtRest.opened_polled (h : AtRest settings l) {o : OpenFile}
    (hnone : l.store.tasks.held = none) (ho : settings.resolved? = some o.location)
    (hrefresh : settings.refresh ≠ 0) (hp : o.location.isPollable = true) :
    AtRest settings { l with
      store := { l.store with opened := some o, tasks := l.store.tasks.start }
      polls := ⟨l.store.tasks.started, .start l.store.settings.refresh, none⟩ :: l.polls } := by
  -- no task is left that could run beside the new one
  have hnobody : l.store.tasks.stop.running = [] := by
    unfold PollTasks.stop
    rw [hnone]
    exact h.tasks.trans (by rw [hnone]; rfl)
  have hquiet : ∀ p ∈ l.polls, p.isRunning ≠ true := by
    intro p hm hr
    have hheld := h.only p hm hr
    rw [hnone] at hheld
    cases hheld
  refine ⟨⟨h.made, ?_, ?_, ?_, ?_, ?_, ?_⟩, ?_⟩
  · rw [List.map_cons, List.nodup_cons]
    refine ⟨?_, h.numbers⟩
    intro hm
    obtain ⟨p, hp, hn⟩ := List.mem_map.1 hm
    have hlt := h.earlier p hp
    exact absurd hn (Nat.ne_of_lt hlt)
  · intro p hm
    show p.number < l.store.tasks.started + 1
    rcases List.mem_cons.1 hm with he | hm
    · rw [he]
      exact Nat.lt_succ_self _
    · have hlt := h.earlier p hm
      omega
  · intro p hm hr
    rcases List.mem_cons.1 hm with he | hm
    · rw [he]
      rfl
    · exact absurd hr (hquiet p hm)
  · show l.store.tasks.started :: l.store.tasks.stop.running = [l.store.tasks.started]
    rw [hnobody]
  · constructor
    · intro _
      exact ⟨hrefresh, o.location, rfl, hp⟩
    · intro _
      rfl
  · intro location hplace
    cases hplace
    exact ho
  · intro number hn
    cases hn
    refine ⟨_, List.mem_cons_self, rfl, ?_, rfl⟩
    have hwaits : (Poller.Task.start l.store.settings.refresh).phase ≠ .finished := by
      rw [h.made]
      simp [Poller.Task.start, hrefresh]
    simpa [Poll.isRunning] using hwaits

/-- What opening comes to: nothing if the store is open; otherwise a failure that changes nothing
if it cannot be read, and an open store that knows what was read if it can. -/
theorem AtRest.opening_cases (h : AtRest settings l) :
    (l.store.isOpen = true ∧ l.opening = (.ok (), l)) ∨
    (l.store.isOpen = false ∧ ∃ cause,
      FileStore.load l.world.web l.world.files settings = .error cause ∧
      l.opening = (.error cause, l)) ∨
    (l.store.isOpen = false ∧ ∃ o after,
      FileStore.load l.world.web l.world.files settings = .ok o ∧
      l.opening = (.ok (), after) ∧ after.store.opened = some o ∧ AtRest settings after) := by
  by_cases hopen : l.store.isOpen = true
  · left
    unfold Lifetime.opening FileStore.openStore
    simp [hopen]
  right
  have hclosed : l.store.isOpen = false := by simpa using hopen
  have hplace : l.store.place = none := by
    simpa [FileStore.isOpen, FileStore.place] using hclosed
  -- a closed store holds no task, so none can be left behind by the one that is started
  have hnone : l.store.tasks.held = none := by
    have hheld := h.held
    rw [hplace] at hheld
    simpa using hheld
  cases hload : FileStore.load l.world.web l.world.files l.store.settings with
  | error cause =>
    left
    refine ⟨hclosed, cause, h.made ▸ hload, ?_⟩
    unfold Lifetime.opening FileStore.openStore
    simp [hclosed, hload]
  | ok o =>
    right
    refine ⟨hclosed, ?_⟩
    have ho : settings.resolved? = some o.location := h.made ▸ FileStore.place_of_load hload
    by_cases hpoll : settings.refresh ≠ 0 ∧ o.location.isPollable = true
    · refine ⟨o, _, h.made ▸ hload, ?_, rfl, h.opened_polled hnone ho hpoll.1 hpoll.2⟩
      have hstore : l.store.openStore l.world.web l.world.files =
          (.ok (), { l.store with opened := some o, tasks := l.store.tasks.start }) := by
        unfold FileStore.openStore
        simp [hclosed, hload, h.made ▸ hpoll.1, hpoll.2]
      have hstarted : l.store.tasks.start.started ≠ l.store.tasks.started :=
        Nat.succ_ne_self _
      unfold Lifetime.opening
      simp only [hstore, hnone, withHeld_none, if_neg hstarted]
    · refine ⟨o, _, h.made ▸ hload, ?_, rfl, h.opened hnone ho hpoll⟩
      have hstore : l.store.openStore l.world.web l.world.files =
          (.ok (), { l.store with opened := some o }) := by
        have hpolled : (l.store.settings.refresh != 0 && o.location.isPollable) = false := by
          rw [h.made]
          simpa using hpoll
        unfold FileStore.openStore
        simp only [hclosed, hload, hpolled, Bool.false_eq_true, if_false]
      unfold Lifetime.opening
      simp only [hstore, if_true]

/-- An open store is left as it is, whatever it would read. -/
theorem opening_of_isOpen (h : l.store.isOpen = true) : l.opening = (.ok (), l) := by
  unfold opening FileStore.openStore
  simp [h]

theorem AtRest.opening (h : AtRest settings l) : AtRest settings l.opening.2 := by
  rcases h.opening_cases with ⟨-, he⟩ | ⟨-, cause, -, he⟩ | ⟨-, o, after, -, he, -, hafter⟩
  · rw [he]
    exact h
  · rw [he]
    exact h
  · rw [he]
    exact hafter

/-- A store that cannot be opened is closed, and no task runs. -/
theorem AtRest.opening_error (h : AtRest settings l) {cause : Fault}
    (he : l.opening.1 = .error cause) :
    l.opening.2.store.isOpen = false ∧ l.opening.2.running = [] := by
  rcases h.opening_cases with ⟨-, hc⟩ | ⟨hclosed, cause', -, hc⟩ | ⟨-, o, after, -, hc, -⟩
  · rw [hc] at he
    cases he
  · rw [hc]
    refine ⟨hclosed, ?_⟩
    by_contra hr
    have hopen := h.held_iff.1 (h.running_ne_nil_iff.1 hr)
    rw [hclosed] at hopen
    cases hopen.1
  · rw [hc] at he
    cases he

/-- A store that was opened is open. -/
theorem AtRest.opening_ok (h : AtRest settings l) (hok : l.opening.1 = .ok ()) :
    l.opening.2.store.isOpen = true := by
  rcases h.opening_cases with ⟨hopen, he⟩ | ⟨-, cause, -, he⟩ | ⟨-, o, after, -, he, ho, -⟩
  · rw [he]
    exact hopen
  · rw [he] at hok
    cases hok
  · rw [he]
    show after.store.opened.isSome = true
    rw [ho]
    rfl

/-- A closed store that can be read is opened, and knows what was read. -/
theorem AtRest.opening_of_load (h : AtRest settings l) (hclosed : l.store.isOpen = false)
    {o : OpenFile} (hload : FileStore.load l.world.web l.world.files settings = .ok o) :
    l.opening.1 = .ok () ∧ l.opening.2.store.opened = some o := by
  rcases h.opening_cases with ⟨hopen, -⟩ | ⟨-, cause, hfails, -⟩ | ⟨-, o', after, hread, he, ho, -⟩
  · rw [hclosed] at hopen
    cases hopen
  · rw [hload] at hfails
    cases hfails
  · rw [hload] at hread
    cases hread
    rw [he]
    exact ⟨rfl, ho⟩

/-! ### All runs -/

theorem AtRest.step (h : AtRest settings l) (act : Act) :
    AtRest settings (l.step digest source act).2 := by
  cases act with
  | move m => exact h.carried (move_carries m h.numbers)
  | opening => exact h.opening
  | closing meanwhile => exact h.closing meanwhile
  | reopening meanwhile => exact (h.closing meanwhile).opening

theorem AtRest.run (h : AtRest settings l) (acts : List Act) :
    AtRest settings (l.run digest source acts).2 := by
  induction acts generalizing l with
  | nil => exact h
  | cons act acts ih => exact ih (h.step act)

/-- A closed store tells nothing and stays closed as long as it is not opened. -/
theorem AtRest.step_silent (h : AtRest settings l) (act : Act) (hclosed : l.store.opened = none)
    (hn : (l.step digest source act).1.opened ≠ some (.ok ())) :
    (l.step digest source act).1.events = [] ∧
      (l.step digest source act).2.store.opened = none := by
  -- a store that is closed stays so when it cannot be opened
  have hfails : ∀ {k : Lifetime}, AtRest settings k → k.opening.1 ≠ .ok () →
      k.opening.2.store.opened = none := by
    intro k hk hne
    cases hopening : k.opening.1 with
    | ok u => exact absurd hopening hne
    | error cause =>
      have hisOpen : k.opening.2.store.isOpen = false := (hk.opening_error hopening).1
      simpa [FileStore.isOpen] using hisOpen
  cases act with
  | move m =>
    refine ⟨?_, opened_eq_none_of_place (move_carries m h.numbers).place hclosed⟩
    show (l.move digest source m).1.toList = []
    rw [move_silent m hclosed]
    rfl
  | opening =>
    refine ⟨rfl, hfails h ?_⟩
    intro hok
    exact hn (congrArg some hok)
  | closing meanwhile => exact ⟨h.closing_silent meanwhile hclosed, rfl⟩
  | reopening meanwhile =>
    refine ⟨h.closing_silent meanwhile hclosed, hfails (h.closing meanwhile) ?_⟩
    intro hok
    exact hn (congrArg some hok)

theorem AtRest.run_silent (h : AtRest settings l) (acts : List Act)
    (hclosed : l.store.opened = none)
    (hn : ∀ outcome ∈ (l.run digest source acts).1, outcome.opened ≠ some (.ok ())) :
    ∀ outcome ∈ (l.run digest source acts).1, outcome.events = [] := by
  induction acts generalizing l with
  | nil =>
    intro outcome hm
    cases hm
  | cons act acts ih =>
    obtain ⟨hsilent, hstays⟩ := h.step_silent act hclosed (hn _ List.mem_cons_self)
    intro outcome hm
    rcases List.mem_cons.1 hm with he | hm
    · rw [he]
      exact hsilent
    · exact ih (h.step act) hstays (fun x hx => hn x (List.mem_cons_of_mem _ hx)) outcome hm

/-- Nothing is told before the store has been opened. -/
def SilentUntilOpened (digest : Digest) (source : String) (l : Lifetime) : Prop :=
  ∀ acts, (∀ outcome ∈ (l.run digest source acts).1, outcome.opened ≠ some (.ok ())) →
    ∀ outcome ∈ (l.run digest source acts).1, outcome.events = []

theorem AtRest.silent (h : AtRest settings l) (hclosed : l.store.isOpen = false) :
    SilentUntilOpened digest source l := by
  intro acts hn
  have hnone : l.store.opened = none := by simpa [FileStore.isOpen] using hclosed
  exact h.run_silent acts hnone hn

/-- Whatever is done with a store and happens to it: at most one poll task runs, also while
closing waits for it, and one does exactly while the store is open, is to be polled, and is at a
path or remote. Opening an open store does nothing, whatever there is to read. A closed store that
can be read is opened and knows what was read, and a store that was opened is open. A store that
cannot be opened is closed and has no task, and so is one that was closed; it tells nothing
until it has been opened again. -/
theorem polls_while_open (digest : Digest) (source : String) (settings : FileSettings)
    (world : World) (acts : List Act) :
    let l := ((new settings world).run digest source acts).2
    l.running.length ≤ 1 ∧
    (l.running ≠ [] ↔ l.store.isOpen = true ∧ settings.refresh ≠ 0 ∧ ∃ location,
      settings.resolved? = some location ∧
      ((∃ path, location = .path path) ∨ ∃ url, location = .remote url)) ∧
    (l.store.tasks.isPolling = true ↔ l.running ≠ []) ∧
    (l.store.isOpen = true → ∀ w, { l with world := w }.opening = (.ok (), { l with world := w })) ∧
    (∀ o, l.store.isOpen = false → FileStore.load l.world.web l.world.files settings = .ok o →
      l.opening.1 = .ok () ∧ l.opening.2.store.opened = some o) ∧
    (∀ act, (l.step digest source act).1.opened = some (.ok ()) →
      (l.step digest source act).2.store.isOpen = true) ∧
    (∀ act cause, (l.step digest source act).1.opened = some (.error cause) →
      let failed := (l.step digest source act).2
      failed.store.isOpen = false ∧ failed.running = [] ∧
        failed.SilentUntilOpened digest source) ∧
    ∀ meanwhile, (l.cancelled.moves digest source meanwhile).2.running.length ≤ 1 ∧
      let closed := (l.closing digest source meanwhile).2
      closed.store.isOpen = false ∧ closed.running = [] ∧
        closed.SilentUntilOpened digest source := by
  intro l
  have h : AtRest settings l := (atRest_new settings world).run acts
  refine ⟨h.running_length_le, h.running_ne_nil_iff.trans h.held_iff,
    h.isPolling_iff.trans h.running_ne_nil_iff.symm, ?_, ?_, ?_, ?_, ?_⟩
  · intro hopen w
    exact opening_of_isOpen hopen
  · intro o hclosed hload
    exact h.opening_of_load hclosed hload
  · intro act hok
    cases act with
    | move m => cases hok
    | opening => exact h.opening_ok (Option.some.inj hok)
    | closing meanwhile => cases hok
    | reopening meanwhile => exact (h.closing meanwhile).opening_ok (Option.some.inj hok)
  · intro act cause he
    have hafter : AtRest settings (l.step digest source act).2 := h.step act
    have hfailed : (l.step digest source act).2.store.isOpen = false ∧
        (l.step digest source act).2.running = [] := by
      cases act with
      | move m => cases he
      | opening => exact h.opening_error (Option.some.inj he)
      | closing meanwhile => cases he
      | reopening meanwhile => exact (h.closing meanwhile).opening_error (Option.some.inj he)
    exact ⟨hfailed.1, hfailed.2, hafter.silent hfailed.1⟩
  · intro meanwhile
    have hcarries : Carries l.cancelled (l.cancelled.moves digest source meanwhile).2 :=
      moves_carries meanwhile h.cancelled.numbers
    -- while closing waits the task that is held is still the only one that may run
    have hwaits := h.cancelled.carried hcarries
    refine ⟨hwaits.running_length_le, rfl, ?_, (h.closing meanwhile).silent rfl⟩
    exact List.filter_eq_nil_iff.2 hwaits.not_running_brokenOff

/-- The settings of a remote store that is polled. -/
def farSettings : FileSettings := { url := some "http://host/levels", refresh := 5 }

/-- A world in which there is something at that URL. -/
def farWorld : World := ⟨{}, .serving "http://host/levels" "k=INFO\n"⟩

/-- A remote store that can be read is opened; it is opened a second time and its one task begins
a cycle. When it is closed the cycle is broken off, and what it would have read is not told. -/
theorem polls_while_open_remote :
    let l := new farSettings farWorld
    let busy := (l.run .plain "levels" [.opening, .opening, .move (.turn 0 {})]).2
    let closed := (busy.closing .plain "levels" []).2
    l.opening.1 = .ok () ∧ l.opening.2.store.isOpen = true ∧ busy.running.length = 1 ∧
      closed.store.isOpen = false ∧ closed.running = [] ∧
      ∀ outcome ∈ (closed.run .plain "levels"
        [.move (.turn 0 { found := some (.ok { text := "k=ERROR\n" }) })]).1,
        outcome.events = [] := by
  intro l busy closed
  obtain ⟨-, -, -, -, hloads, hopens, -⟩ := polls_while_open .plain "levels" farSettings farWorld []
  have hload : FileStore.load farWorld.web farWorld.files farSettings =
      .ok (.ofReading (.remote "http://host/levels") { text := "k=INFO\n" }) :=
    rfl
  have hok : l.opening.1 = .ok () := (hloads _ rfl hload).1
  obtain ⟨hle, hruns, -, -, -, -, -, hcloses⟩ := polls_while_open .plain "levels" farSettings
    farWorld [.opening, .opening, .move (.turn 0 {})]
  have hpolled : busy.running ≠ [] :=
    hruns.2 ⟨by decide +kernel, by decide, .remote "http://host/levels", rfl, .inr ⟨_, rfl⟩⟩
  obtain ⟨-, hclosed, hnone, hsilent⟩ := hcloses []
  refine ⟨hok, hopens .opening (congrArg some hok),
    Nat.le_antisymm hle (List.length_pos_iff.2 hpolled), hclosed, hnone, hsilent _ ?_⟩
  intro outcome hm
  have honly : outcome.opened = none := by
    rw [List.mem_singleton.1 hm]
  rw [honly]
  exact nofun

end Lifetime

end Admission

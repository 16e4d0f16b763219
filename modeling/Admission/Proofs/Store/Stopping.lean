import Admission.Proofs.Store.Polling

/-!
# Stopping — closing a store stops its task as the holder of a handle does

  While a store is being closed its task is cancelled and waited for, and if it takes too
  long it is broken off. `Poller.Task.stop` says what that means for a task by itself:
  its steps up to a limit of time, and then the end. In a lifetime the steps are turns,
  between which other things may happen.

  `closing_stops` shows that nothing is lost this way: for every plan of cycles, every
  outcome of overdue ticks and every timeout there is a course of closing that leaves the
  task as stopping it does.
-/

namespace Admission

namespace Lifetime

variable {digest : Digest} {source : String} {l : Lifetime} {number : Nat} {p : Poll}
  {plan : Poller.Plan}

/-! ### Steps of a task as turns -/

theorem find?_withHeld (f : Poller.Task → Poller.Task)
    (hp : l.polls.find? (fun p => p.number == number) = some p) :
    (l.withHeld f (some number)).polls.find? (fun p => p.number == number) =
      some { p with task := f p.task } := by
  have hnumbers : ∀ r : Poll,
      (if some number = some r.number then { r with task := f r.task } else r).number =
        r.number := by
    intro r
    split
    · rfl
    · rfl
  have hnumber : p.number = number := by simpa using List.find?_some hp
  have hfound := find?_map _ hnumbers hp
  rw [if_pos (congrArg some hnumber.symm)] at hfound
  exact hfound

/-- If all cycles go on, only the duration of the next one counts for the next step. -/
theorem next_eq (hplan : ∀ cycle, (plan cycle).ending = .proceed) (tickWins : Bool)
    (task : Poller.Task) : task.next plan tickWins =
      task.next (fun _ => { duration := (plan task.started).duration }) tickWins := by
  unfold Poller.Task.next
  cases task.phase with
  | waiting due => rfl
  | running cycle ends due => simp only [Poller.Task.endCycle, hplan cycle]
  | finished => rfl

/-- A step of a task is a turn that it can take, and the store holds the same task after it. -/
theorem find?_takeTurn (digest : Digest) (source : String) {t : Turn} {time : Nat}
    {task : Poller.Task} (hp : l.polls.find? (fun p => p.number == number) = some p)
    (hnext : p.task.next (fun _ => { duration := t.duration }) t.tickWins = some (time, task)) :
    (∃ q, (l.takeTurn digest source number t).2.polls.find? (fun p => p.number == number) =
      some q ∧ q.task = task) ∧
    (l.takeTurn digest source number t).2.store.tasks = l.store.tasks := by
  unfold takeTurn
  simp only [hp, hnext]
  split
  · next before read _ _ _ =>
    exact ⟨⟨_, find?_put hp rfl, rfl⟩, (conclude_keeps before read l.store).2.1⟩
  · exact ⟨⟨_, find?_put hp rfl, rfl⟩, rfl⟩
  · exact ⟨⟨_, find?_put hp rfl, rfl⟩, rfl⟩

/-- The steps of a task up to a limit of time are moves of the lifetime. -/
theorem exists_turns (digest : Digest) (source : String)
    (hplan : ∀ cycle, (plan cycle).ending = .proceed) (choice : Nat → Bool) (limit fuel : Nat)
    (hp : l.polls.find? (fun p => p.number == number) = some p) (hnow : p.task.now ≤ limit) :
    ∃ ms q, (l.moves digest source ms).2.polls.find? (fun p => p.number == number) = some q ∧
      (l.moves digest source ms).2.store.tasks = l.store.tasks ∧
      q.task = p.task.stepsUntil plan choice limit fuel ∧ q.task.now ≤ limit := by
  induction fuel generalizing l p with
  | zero => exact ⟨[], p, hp, rfl, rfl, hnow⟩
  | succ fuel ih =>
    unfold Poller.Task.stepsUntil
    cases hnext : p.task.next plan (choice p.task.started) with
    | none => exact ⟨[], p, hp, rfl, rfl, hnow⟩
    | some step =>
      obtain ⟨time, task⟩ := step
      by_cases hle : time ≤ limit
      · simp only [if_pos hle]
        rw [next_eq hplan] at hnext
        obtain ⟨⟨q, hq, htask⟩, htasks⟩ := find?_takeTurn digest source
          (t := { tickWins := choice p.task.started
                  duration := (plan p.task.started).duration }) hp hnext
        have hqnow : q.task.now ≤ limit := by
          rw [htask, Poller.Task.next_now hnext]
          exact hle
        obtain ⟨ms, q', hq', htasks', hsteps, hnow'⟩ := ih hq hqnow
        rw [htask] at hsteps
        exact ⟨.turn number _ :: ms, q', hq', htasks'.trans htasks, hsteps, hnow'⟩
      · simp only [if_neg hle]
        exact ⟨[], p, hp, rfl, rfl, hnow⟩

/-! ### The end of closing -/

/-- When closing ends, the task that was held is broken off. -/
theorem find?_brokenOff (hheld : l.store.tasks.held = some number)
    (hp : l.polls.find? (fun p => p.number == number) = some p) :
    l.brokenOff.polls.find? (fun p => p.number == number) =
      some { p with task := p.task.breakOff p.task.now } := by
  have hfound := find?_withHeld (fun task => task.breakOff task.now) hp
  rw [← hheld] at hfound
  exact hfound

theorem find?_pass (digest : Digest) (source : String) (milliseconds : Nat)
    (hp : l.polls.find? (fun p => p.number == number) = some p) :
    (l.move digest source (.pass milliseconds)).2.polls.find? (fun p => p.number == number) =
      some { p with task := p.task.rest (p.task.now + milliseconds) } :=
  find?_map (fun r => { r with task := r.task.rest (r.task.now + milliseconds) })
    (fun _ => rfl) hp

theorem moves_concat (ms : List Move) (m : Move) :
    (l.moves digest source (ms ++ [m])).2 = ((l.moves digest source ms).2.move digest source m).2 := by
  induction ms generalizing l with
  | nil => rfl
  | cons first ms ih => exact ih

/-- Closing can leave the task of a store as stopping it does, whatever its cycles are like. -/
theorem closing_stops (digest : Digest) (source : String)
    (hplan : ∀ cycle, (plan cycle).ending = .proceed) (choice : Nat → Bool) (timeout : Nat)
    (hheld : l.store.tasks.held = some number)
    (hp : l.polls.find? (fun p => p.number == number) = some p) (hhandle : p.task.held = true) :
    ∃ meanwhile q, (l.closing digest source meanwhile).2.polls.find?
        (fun p => p.number == number) = some q ∧
      q.task = p.task.stop plan choice timeout := by
  have hdropped : l.cancelled.polls.find? (fun p => p.number == number) =
      some { p with task := p.task.drop } := by
    unfold cancelled
    rw [hheld]
    exact find?_withHeld _ hp
  have hnow : p.task.drop.now ≤ p.task.now + timeout := Nat.le_add_right _ _
  obtain ⟨ms, q, hq, htasks, hsteps, hqnow⟩ := exists_turns digest source hplan choice
    (p.task.now + timeout) (Poller.Task.stepBound timeout) hdropped hnow
  have hstop : p.task.stop plan choice timeout = q.task.breakOff (p.task.now + timeout) := by
    unfold Poller.Task.stop
    rw [hhandle, hsteps]
    rfl
  have hstays : (l.cancelled.moves digest source ms).2.store.tasks.held = some number := by
    rw [htasks]
    exact hheld
  by_cases hends : q.task.phase = .finished
  · -- it came to its end by itself
    refine ⟨ms, _, find?_brokenOff hstays hq, ?_⟩
    rw [hstop]
    exact (Poller.Task.breakOff_finished hends).trans (Poller.Task.breakOff_finished hends).symm
  · -- the rest of the time passes, and it is broken off
    have htime : q.task.now + (p.task.now + timeout - q.task.now) = p.task.now + timeout := by
      omega
    have hpassed := find?_pass digest source (p.task.now + timeout - q.task.now) hq
    rw [← moves_concat, htime] at hpassed
    have hstill : (l.cancelled.moves digest source
        (ms ++ [.pass (p.task.now + timeout - q.task.now)])).2.store.tasks.held = some number := by
      rw [moves_concat]
      exact hstays
    refine ⟨_, _, find?_brokenOff hstill hpassed, ?_⟩
    rw [hstop]
    exact Poller.Task.breakOff_rest hends

end Lifetime

end Admission

import Admission.Proofs.Poller.Course

/-!
# Handshakes — how a task is stopped

  Whoever holds the handle of a task can stop it at any moment, or let go of the handle.
  `stop_handshake` says what they can rely on, at every moment of every course of a task:
  whatever its interval and its cycles are like, and whoever wins where a tick is overdue.

  Stopping takes no longer than its timeout, and no time at all where nothing is under way.
  A cycle under way comes to its end if there is time enough for it, and is broken off if
  not; after that nothing happens any more. To let go of the handle breaks nothing off. And
  of the futures none is lost or dropped twice.
-/

namespace Admission.Poller.Task

variable {plan : Plan} {choice : Nat → Bool} {t u : Task} {timeout : Nat}
  {cycle ends due : Nat}

/-! ### The steps of a task that is stopped -/

theorem stop_of_held (hheld : t.held = true) :
    t.stop plan choice timeout =
      (t.drop.stepsUntil plan choice (t.now + timeout) (stepBound timeout)).breakOff
        (t.now + timeout) := by
  unfold stop
  rw [hheld]
  rfl

theorem stop_of_not_held (hheld : t.held = false) : t.stop plan choice timeout = t := by
  unfold stop
  rw [hheld]
  rfl

theorem stepsUntil_of_finished (hphase : t.phase = .finished) (limit fuel : Nat) :
    t.stepsUntil plan choice limit fuel = t := by
  cases fuel with
  | zero => rfl
  | succ fuel =>
    unfold stepsUntil
    rw [next_eq_none_iff.2 hphase]

/-- A step that is due by the limit is taken. -/
theorem stepsUntil_of_le {limit time : Nat} {after : Task} (fuel : Nat)
    (hnext : t.next plan (choice t.started) = some (time, after)) (hlimit : time ≤ limit) :
    t.stepsUntil plan choice limit (fuel + 1) = after.stepsUntil plan choice limit fuel := by
  rw [stepsUntil, hnext]
  exact if_pos hlimit

/-- A step that is due after the limit is not taken. -/
theorem stepsUntil_of_lt {limit time : Nat} {after : Task} (fuel : Nat)
    (hnext : t.next plan (choice t.started) = some (time, after)) (hlimit : limit < time) :
    t.stepsUntil plan choice limit fuel = t := by
  cases fuel with
  | zero => rfl
  | succ fuel =>
    rw [stepsUntil, hnext]
    exact if_neg (Nat.not_le_of_lt hlimit)

theorem next_running (plan : Plan) (hphase : t.phase = .running cycle ends due) (wins : Bool) :
    t.next plan wins = some (ends, t.endCycle plan cycle ends due) :=
  next_eq_some_iff.2 (.ended hphase)

/-- A cancelled task that waits for a tick which is not due yet finishes at once. -/
theorem next_idle (plan : Plan) (hphase : t.phase = .waiting due)
    (hcancelled : t.cancelled = true) (hdue : t.now < due) (wins : Bool) :
    t.next plan wins = some (t.now, { t with phase := .finished }) :=
  next_eq_some_iff.2 (.left hphase hcancelled fun hwon => Nat.not_le_of_lt hdue hwon.2)

/-- Stopping begins with the next step, if that is due within the timeout. -/
theorem stop_of_step {time : Nat} {after : Task} (hheld : t.held = true)
    (hnext : t.drop.next plan (choice t.started) = some (time, after))
    (hlimit : time ≤ t.now + timeout) :
    t.stop plan choice timeout =
      (after.stepsUntil plan choice (t.now + timeout) (stepBound timeout - 1)).breakOff
        (t.now + timeout) := by
  rw [stop_of_held hheld]
  -- the bound is never zero
  exact congrArg (fun u : Task => u.breakOff (t.now + timeout))
    (stepsUntil_of_le (stepBound timeout - 1) hnext hlimit)

theorem breakOff_now_le {limit : Nat} (hnow : t.now ≤ limit) :
    t.now ≤ (t.breakOff limit).now ∧ (t.breakOff limit).now ≤ limit := by
  unfold breakOff
  split
  · exact ⟨Nat.le_refl _, hnow⟩
  · exact ⟨hnow, Nat.le_refl _⟩
  · exact ⟨hnow, Nat.le_refl _⟩

/-! ### What stopping does -/

theorem stop_phase (hheld : t.held = true) : (t.stop plan choice timeout).phase = .finished := by
  rw [stop_of_held hheld]
  exact breakOff_phase _ _

/-- Stopping takes no longer than the timeout. -/
theorem stop_now_le (h : Timely t) :
    t.now ≤ (t.stop plan choice timeout).now ∧
      (t.stop plan choice timeout).now ≤ t.now + timeout := by
  cases hheld : t.held with
  | false =>
    rw [stop_of_not_held hheld]
    exact ⟨Nat.le_refl _, Nat.le_add_right _ _⟩
  | true =>
    rw [stop_of_held hheld]
    obtain ⟨past, hcourse⟩ := stepsUntil_course plan choice t.drop (t.now + timeout)
      (stepBound timeout)
    have hpast : t.now ≤ _ := hcourse.now_le h.drop
    have hlimit := stepsUntil_now_le (t := t.drop) plan choice (stepBound timeout)
      (Nat.le_add_right t.now timeout)
    obtain ⟨hafter, hbefore⟩ := breakOff_now_le hlimit
    exact ⟨Nat.le_trans hpast hafter, hbefore⟩

/-- The task waits for a tick that is not due yet, or it has finished. -/
def Idle (t : Task) : Prop :=
  t.phase = .finished ∨ ∃ due, t.phase = .waiting due ∧ t.now < due

/-- Stopping takes no time where nothing is under way. -/
theorem stop_now_of_idle (h : t.Idle) : (t.stop plan choice timeout).now = t.now := by
  cases hheld : t.held with
  | false => rw [stop_of_not_held hheld]
  | true =>
    rcases h with hphase | ⟨due, hphase, hdue⟩
    · have hdrop : t.drop.phase = .finished := hphase
      rw [stop_of_held hheld, stepsUntil_of_finished hdrop, breakOff_finished hdrop]
      rfl
    · have hnext := next_idle (t := t.drop) plan hphase rfl hdue (choice t.started)
      rw [stop_of_step hheld hnext (Nat.le_add_right t.now timeout),
        stepsUntil_of_finished rfl, breakOff_finished rfl]
      rfl

/-- A cycle has come to its end at a time: its future is dropped and, unless the cycle broke down,
it wrote down its end. -/
def Completed (plan : Plan) (cycle ends : Nat) (t : Task) : Prop :=
  cycle < t.ended ∧ ((plan cycle).ending ≠ .collapse → Mark.ended cycle ends ∈ t.marks)

theorem Completed.grows (h : Completed plan cycle ends t) (hg : Grows t u) :
    Completed plan cycle ends u :=
  ⟨Nat.lt_of_lt_of_le h.1 hg.ended, fun hp => hg.marks.subset (h.2 hp)⟩

theorem completed_endCycle (hcycle : cycle = t.ended) :
    Completed plan cycle ends (t.endCycle plan cycle ends due) := by
  refine ⟨?_, fun hp => ?_⟩
  · show cycle < t.ended + 1
    omega
  · show Mark.ended cycle ends ∈ if _ then _ else _
    rw [if_neg hp]
    exact List.mem_cons_self

/-- A cycle under way that needs less than the timeout comes to its end, and if the task ends with
it, so does the stopping. -/
theorem stop_completes (hheld : t.held = true) (hphase : t.phase = .running cycle ends due)
    (hcycle : cycle = t.ended) (hlimit : ends < t.now + timeout) :
    Completed plan cycle ends (t.stop plan choice timeout) ∧
      ((plan cycle).ending ≠ .proceed → (t.stop plan choice timeout).now = ends) := by
  have hnext := next_running (t := t.drop) plan hphase (choice t.started)
  rw [stop_of_step hheld hnext (Nat.le_of_lt hlimit)]
  constructor
  · obtain ⟨past, hcourse⟩ := stepsUntil_course plan choice (t.drop.endCycle plan cycle ends due)
      (t.now + timeout) (stepBound timeout - 1)
    have hover : Completed plan cycle ends (t.drop.endCycle plan cycle ends due) :=
      completed_endCycle hcycle
    exact (hover.grows (hcourse.mono moves_happens).grows).grows (grows_breakOff _)
  · intro hp
    have hfinished : (t.drop.endCycle plan cycle ends due).phase = .finished := if_neg hp
    rw [stepsUntil_of_finished hfinished, breakOff_finished hfinished]
    rfl

/-- A cycle under way that needs more than the timeout is broken off when it is over, and nothing
else has happened until then. -/
theorem stop_aborts (hheld : t.held = true) (hphase : t.phase = .running cycle ends due)
    (hlimit : t.now + timeout < ends) :
    t.stop plan choice timeout =
      { t.drop with now := t.now + timeout, phase := .finished, ended := t.ended + 1 } := by
  have hnext := next_running (t := t.drop) plan hphase (choice t.started)
  rw [stop_of_held hheld, stepsUntil_of_lt _ hnext hlimit]
  unfold breakOff
  have hdrop : t.drop.phase = .running cycle ends due := hphase
  rw [hdrop]
  rfl

/-! ### What cycles write down -/

/-- Ends are written down of cycles that are over only. -/
def EndsOver (t : Task) : Prop := ∀ cycle time, Mark.ended cycle time ∈ t.marks → cycle < t.ended

theorem EndsOver.endCycle (h : t.EndsOver) (hcycle : cycle = t.ended) :
    (t.endCycle plan cycle ends due).EndsOver := by
  intro c time hmark
  show c < t.ended + 1
  have hmark : Mark.ended c time ∈ if (plan cycle).ending = .collapse then t.marks
    else Mark.ended cycle ends :: t.marks := hmark
  split at hmark
  · exact Nat.lt_succ_of_lt (h c time hmark)
  · rcases List.mem_cons.1 hmark with heq | hmark
    · obtain ⟨rfl, -⟩ := Mark.ended.inj heq
      omega
    · exact Nat.lt_succ_of_lt (h c time hmark)

theorem EndsOver.breakOff (h : t.EndsOver) (time : Nat) : (t.breakOff time).EndsOver := by
  have hg : Grows t (t.breakOff time) := grows_breakOff time
  intro cycle written hmark
  rw [breakOff_marks] at hmark
  exact Nat.lt_of_lt_of_le (h cycle written hmark) hg.ended

theorem EndsOver.happens {past : List Fate} (h : t.EndsOver) (ha : Accounted past t)
    (hr : Happens plan choice t u) : u.EndsOver := by
  cases hr with
  | drop => exact h
  | breakOff hnow hstill => exact h.breakOff _
  | moves hr =>
    cases hr with
    | rest hnow hstill => exact h
    | step hnext =>
      cases next_eq_some_iff.1 hnext with
      | taken hphase hwins =>
        intro cycle time hmark
        rcases List.mem_cons.1 hmark with heq | hmark
        · cases heq
        · exact h cycle time hmark
      | left hphase hcancelled hlost => exact h
      | ended hphase => exact h.endCycle (ha.of_inFlight (inFlight?_of_running hphase)).1

theorem Course.endsOver {interval : Nat} {past : List Fate}
    (h : Course (Happens plan choice) (Task.start interval) past t) : t.EndsOver := by
  induction h with
  | start =>
    intro cycle time hmark
    cases hmark
  | next h hr ih => exact ih.happens h.accounted hr

/-! ### Dropped handles -/

/-- Without anybody to break it off, a cycle under way is under way until it has come to its
end. -/
theorem running_or_completed {past : List Fate} (hphase : t.phase = .running cycle ends due)
    (hcycle : cycle = t.ended) (hnow : t.now ≤ ends) (h : Course (Moves plan choice) t past u) :
    (u.phase = .running cycle ends due ∧ u.ended = cycle ∧ u.now ≤ ends) ∨
      Completed plan cycle ends u := by
  refine h.keeps (P := fun u => (u.phase = .running cycle ends due ∧ u.ended = cycle ∧
    u.now ≤ ends) ∨ Completed plan cycle ends u) ?_ (.inl ⟨hphase, hcycle.symm, hnow⟩)
  intro v w hv hr
  rcases hv with ⟨hrunning, hended, hbefore⟩ | hover
  · cases hr with
    | rest hlater hstill =>
      exact .inl ⟨hrunning, hended, hstill ends _ (next_running plan hrunning _)⟩
    | step hnext =>
      rw [next_running plan hrunning] at hnext
      cases hnext
      exact .inr (completed_endCycle hended.symm)
  · exact .inr (hover.grows (Happens.moves hr).grows)

/-- Whoever sleeps until the end of a cycle under way finds that it has come to its end. -/
theorem sleep_completes (h : Timely t) (hphase : t.phase = .running cycle ends due)
    (hcycle : cycle = t.ended) {ms : Nat} (hends : ends ≤ t.now + ms) :
    Completed plan cycle ends (t.sleep plan choice ms) := by
  obtain ⟨past, hcourse⟩ := stepsUntil_course plan choice t (t.now + ms) (stepBound ms)
  have hstill := h.settles plan choice (Nat.le_refl t.now) (.inr (stepsLeft_lt_stepBound ms))
  rcases running_or_completed hphase hcycle (h.ahead cycle ends due hphase) hcourse with
    ⟨hrunning, -, -⟩ | hover
  · -- then the step in which it ends would have been left out
    have hlater := hstill ends _ (next_running plan hrunning _)
    omega
  · exact hover

/-! ### Futures one by one -/

/-- Of the cycles that are over each future was created once and dropped once. -/
theorem count_turns (n cycle : Nat) :
    (turns n).count (.created cycle) = (if cycle < n then 1 else 0) ∧
      (turns n).count (.dropped cycle) = if cycle < n then 1 else 0 := by
  induction n with
  | zero => simp [turns]
  | succ n ih =>
    obtain ⟨hcreated, hdropped⟩ := ih
    unfold turns
    rw [List.count_cons, List.count_cons, List.count_cons, List.count_cons, hcreated, hdropped]
    by_cases hlast : cycle = n
    · subst hlast
      simp
    · have hother : ¬ n = cycle := fun h => hlast h.symm
      have hless : cycle < n + 1 ↔ cycle < n := by omega
      simp [hother, hless]

theorem Accounted.count_created {past : List Fate} (h : Accounted past t) (cycle : Nat) :
    past.count (.created cycle) = if cycle < t.started then 1 else 0 := by
  cases hflight : t.inFlight? with
  | none =>
    obtain ⟨hcount, hpast⟩ := h.of_idle hflight
    rw [hpast, hcount]
    exact (count_turns _ _).1
  | some c =>
    obtain ⟨-, hcount, hpast⟩ := h.of_inFlight hflight
    -- the account is that of the cycles over, and one more future
    have hmore : past.count (.created cycle) = (turns (c + 1)).count (.created cycle) := by
      rw [hpast]
      simp [turns]
    rw [hmore, hcount]
    exact (count_turns _ _).1

theorem Accounted.count_dropped {past : List Fate} (h : Accounted past t) (cycle : Nat) :
    past.count (.dropped cycle) = if cycle < t.ended then 1 else 0 := by
  cases hflight : t.inFlight? with
  | none =>
    obtain ⟨-, hpast⟩ := h.of_idle hflight
    rw [hpast]
    exact (count_turns _ _).2
  | some c =>
    obtain ⟨hcycle, -, hpast⟩ := h.of_inFlight hflight
    rw [hpast, ← hcycle, List.count_cons, (count_turns _ _).2]
    simp

theorem Accounted.started_eq {past : List Fate} (h : Accounted past t) :
    t.started = t.ended + if t.inFlight?.isSome then 1 else 0 := by
  cases hflight : t.inFlight? with
  | none => exact (h.of_idle hflight).1
  | some c =>
    obtain ⟨hcycle, hcount, -⟩ := h.of_inFlight hflight
    rw [hcount, hcycle]
    rfl

/-! ### The handshake -/

/-- What whoever holds the handle of a task can rely on at a moment, after what became of the
futures of its cycles up to it. -/
structure Handshake (plan : Plan) (choice : Nat → Bool) (past : List Fate) (t : Task) : Prop where
  /-- Each future was created once when its cycle started, and before that not at all. -/
  created_once : ∀ cycle, past.count (.created cycle) = if cycle < t.started then 1 else 0
  /-- Each future was dropped once when its cycle was over, and before that not at all. -/
  dropped_once : ∀ cycle, past.count (.dropped cycle) = if cycle < t.ended then 1 else 0
  /-- Only the future of a cycle under way has not been dropped yet. -/
  one_open : t.started = t.ended + if t.inFlight?.isSome then 1 else 0
  /-- So once the task has finished as many were dropped as were created. -/
  even : t.phase = .finished → t.ended = t.started
  /-- Stopping is a course as any other, with an account of the same kind. -/
  stops : ∀ timeout, ∃ more, Course (Happens plan choice) t more (t.stop plan choice timeout)
  /-- Stopping takes no longer than the timeout. -/
  in_time : ∀ timeout, t.now ≤ (t.stop plan choice timeout).now ∧
    (t.stop plan choice timeout).now ≤ t.now + timeout
  /-- Stopping takes no time where nothing is under way. -/
  at_once : t.Idle → ∀ timeout, (t.stop plan choice timeout).now = t.now
  /-- A cycle under way that needs less than the timeout comes to its end, and if the task ends
  with it, so does the stopping. -/
  completes : t.held = true → ∀ cycle ends due timeout, t.phase = .running cycle ends due →
    ends < t.now + timeout →
      Completed plan cycle ends (t.stop plan choice timeout) ∧
        ((plan cycle).ending ≠ .proceed → (t.stop plan choice timeout).now = ends)
  /-- A cycle under way that needs more is broken off at the timeout: its future is dropped, and it
  never writes down an end. -/
  aborts : t.held = true → ∀ cycle ends due timeout, t.phase = .running cycle ends due →
    t.now + timeout < ends →
      (t.stop plan choice timeout).now = t.now + timeout ∧
        (t.stop plan choice timeout).started = t.started ∧
        (t.stop plan choice timeout).ended = cycle + 1 ∧
        ∀ time, Mark.ended cycle time ∉ (t.stop plan choice timeout).marks
  /-- After stopping nothing happens any more, whoever does what. -/
  silent : t.held = true → ∀ timeout more u,
    Course (Happens plan choice) (t.stop plan choice timeout) more u →
      u.phase = .finished ∧ u.marks = (t.stop plan choice timeout).marks ∧
        u.started = (t.stop plan choice timeout).started ∧
        u.ended = (t.stop plan choice timeout).ended ∧ more = []
  /-- Where the handle is only let go of, a cycle under way comes to its end. -/
  dropped_completes : ∀ cycle ends due, t.phase = .running cycle ends due →
    ∀ more u, Course (Moves plan choice) t.drop more u → ends < u.now →
      Completed plan cycle ends u
  /-- So it is for whoever lets go of the handle and sleeps until then. -/
  dropped_sleeps : ∀ cycle ends due, t.phase = .running cycle ends due →
    ∀ ms, ends ≤ t.now + ms → Completed plan cycle ends (t.drop.sleep plan choice ms)

/-- At every moment of every course of a poll task, whatever its interval and its cycles are like
and whoever wins where a tick is overdue: stopping the task returns within the timeout, and at once
where nothing is under way; a cycle under way comes to its end if it needs less time and is broken
off if it needs more; after stopping no cycle starts or comes to an end any more; letting go of the
handle breaks nothing off; and each future that was created is dropped exactly once. -/
theorem stop_handshake {interval : Nat} {past : List Fate}
    (h : Course (Happens plan choice) (start interval) past t) :
    Handshake plan choice past t := by
  -- every future has one fate, and what runs is the cycle that comes next in the count
  have hfutures : Accounted past t := h.accounted
  have htimely : Timely t := h.timely
  have hcurrent : ∀ cycle ends due, t.phase = .running cycle ends due → cycle = t.ended :=
    fun cycle ends due hphase => (hfutures.of_inFlight (inFlight?_of_running hphase)).1
  refine
    { created_once := hfutures.count_created
      dropped_once := hfutures.count_dropped
      one_open := hfutures.started_eq
      even := fun hphase => (hfutures.of_idle (inFlight?_of_finished hphase)).1.symm
      stops := fun timeout => stop_course htimely plan choice timeout
      in_time := fun timeout => stop_now_le htimely
      at_once := fun hidle timeout => stop_now_of_idle hidle
      completes := ?_, aborts := ?_, silent := ?_, dropped_completes := ?_,
      dropped_sleeps := ?_ }
  · intro hheld cycle ends due timeout hphase hlimit
    exact stop_completes hheld hphase (hcurrent cycle ends due hphase) hlimit
  · intro hheld cycle ends due timeout hphase hlimit
    have hcycle := hcurrent cycle ends due hphase
    rw [stop_aborts hheld hphase hlimit]
    refine ⟨rfl, rfl, by rw [hcycle], ?_⟩
    intro time hmark
    have hover : cycle < t.ended := h.endsOver cycle time hmark
    omega
  · intro hheld timeout more u hcourse
    exact hcourse.of_finished (stop_phase hheld)
  · intro cycle ends due hphase more u hcourse hlate
    have hdrop : t.drop.phase = .running cycle ends due := hphase
    have hnow : t.drop.now ≤ ends := htimely.ahead cycle ends due hphase
    rcases running_or_completed hdrop (hcurrent cycle ends due hphase) hnow hcourse with
      ⟨-, -, hbefore⟩ | hover
    · omega
    · exact hover
  · intro cycle ends due hphase ms hends
    exact sleep_completes htimely.drop hphase (hcurrent cycle ends due hphase) hends

/-- A task in the middle of a cycle that takes very long. -/
def amid : Task := (start 10).sleep overrun (fun _ => true) 30

/-- With a short timeout the cycle is broken off; with a longer one it comes to its end, and so it
does when the handle is only let go of. -/
theorem stop_handshake_overrun : ∃ past,
    Course (Happens overrun fun _ => true) (start 10) past amid ∧
      amid.held = true ∧ amid.phase = .running 0 45 20 ∧ amid.now = 30 ∧
      past.count (.created 0) = 1 ∧ past.count (.dropped 0) = 0 ∧
      (amid.stop overrun (fun _ => true) 10).now = 40 ∧
      (∀ time, Mark.ended 0 time ∉ (amid.stop overrun (fun _ => true) 10).marks) ∧
      Completed overrun 0 45 (amid.stop overrun (fun _ => true) 20) ∧
      Completed overrun 0 45 (amid.drop.sleep overrun (fun _ => true) 15) := by
  obtain ⟨past, hcourse⟩ := sleep_course (timely_start 10) overrun (fun _ => true) 30
  have hamid : Course (Happens overrun fun _ => true) (start 10) past amid :=
    hcourse.mono moves_happens
  have h := stop_handshake hamid
  have hphase : amid.phase = .running 0 45 20 := by decide
  have haborts := h.aborts rfl 0 45 20 10 hphase (by decide)
  have hcompletes := h.completes rfl 0 45 20 20 hphase (by decide)
  refine ⟨past, hamid, rfl, hphase, rfl, h.created_once 0, h.dropped_once 0, haborts.1,
    haborts.2.2.2, hcompletes.1, h.dropped_sleeps 0 45 20 hphase 15 (by decide)⟩

end Admission.Poller.Task

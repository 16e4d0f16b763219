import Admission.Proofs.Poller.Handshake

/-!
# Overdue ticks — which cycles start after a task was cancelled

  When a cycle ends, or while it waits, a task looks for its next tick and for a
  cancellation at the same moment. If it finds both, either may win, and where the tick
  wins another cycle starts although the task was cancelled before.

  `late_start_iff` says when that happens: exactly if the tick is due by the time at which
  the task looks again, and wins then. Where the task was stopped, that time must also lie
  within the timeout. Each further cycle after that has to be overdue as well, so all of
  them follow one another without a break.
-/

namespace Admission.Poller.Task

variable {plan : Plan} {choice : Nat → Bool} {t u : Task} {timeout : Nat}
  {cycle ends due : Nat}

/-- When the task looks for a tick or a cancellation again. -/
def looksAt (t : Task) : Nat :=
  match t.phase with
  | .running _ ends _ => ends
  | _ => t.now

/-- The next tick is due when the task looks for it again, and wins over a cancellation. -/
def Overtakes (plan : Plan) (choice : Nat → Bool) (t : Task) : Prop :=
  choice t.started = true ∧
    match t.phase with
    | .waiting due => due ≤ t.now
    | .running cycle ends due => (plan cycle).ending = .proceed ∧ due ≤ ends
    | .finished => False

theorem overtakes_of_waiting (hphase : t.phase = .waiting due) :
    Overtakes plan choice t ↔ choice t.started = true ∧ due ≤ t.now := by
  unfold Overtakes
  rw [hphase]

theorem overtakes_of_running (hphase : t.phase = .running cycle ends due) :
    Overtakes plan choice t ↔
      choice t.started = true ∧ (plan cycle).ending = .proceed ∧ due ≤ ends := by
  unfold Overtakes
  rw [hphase]

theorem not_overtakes_of_finished (hphase : t.phase = .finished) :
    ¬ Overtakes plan choice t := by
  unfold Overtakes
  rw [hphase]
  exact fun h => h.2

theorem looksAt_of_waiting (hphase : t.phase = .waiting due) : t.looksAt = t.now := by
  unfold looksAt
  rw [hphase]

theorem looksAt_of_running (hphase : t.phase = .running cycle ends due) : t.looksAt = ends := by
  unfold looksAt
  rw [hphase]

/-- The end of a cycle decides nothing: the next tick overtakes before it and after it, or not at
all. -/
theorem overtakes_endCycle (hphase : t.phase = .running cycle ends due) :
    Overtakes plan choice (t.endCycle plan cycle ends due) ↔ Overtakes plan choice t := by
  rw [overtakes_of_running hphase]
  by_cases hp : (plan cycle).ending = .proceed
  · have hwaits : (t.endCycle plan cycle ends due).phase = .waiting due := if_pos hp
    rw [overtakes_of_waiting hwaits]
    exact ⟨fun h => ⟨h.1, hp, h.2⟩, fun h => ⟨h.1, h.2.2⟩⟩
  · have hfinished : (t.endCycle plan cycle ends due).phase = .finished := if_neg hp
    exact ⟨fun h => absurd h (not_overtakes_of_finished hfinished), fun h => absurd h.2.1 hp⟩

/-- The time of a cancelled task that waits does not go on before its next step. -/
theorem StillUntil.le_now {time : Nat} (h : t.StillUntil plan choice time)
    (hphase : t.phase = .waiting due) (hcancelled : t.cancelled = true) : time ≤ t.now := by
  by_cases hwins : choice t.started = true ∧ due ≤ t.now
  · have htaken := h _ _ (next_eq_some_iff.2 (.taken hphase fun _ => hwins))
    omega
  · exact h _ _ (next_eq_some_iff.2 (.left hphase hcancelled hwins))

/-! ### Where no tick overtakes -/

/-- A cancelled task whose next tick does not overtake starts no cycle, and stays like that. -/
theorem Moves.of_not_overtakes (hr : Moves plan choice t u) (hcancelled : t.cancelled = true)
    (hn : ¬ Overtakes plan choice t) :
    u.started = t.started ∧ u.cancelled = true ∧ ¬ Overtakes plan choice u := by
  cases hr with
  | @rest time hnow hstill =>
    refine ⟨rfl, hcancelled, fun hovertakes => ?_⟩
    cases hphase : t.phase with
    | finished => exact not_overtakes_of_finished (t := t.rest time) hphase hovertakes
    | running cycle ends due =>
      have hwins := (overtakes_of_running (t := t.rest time) hphase).1 hovertakes
      exact hn ((overtakes_of_running hphase).2 hwins)
    | waiting due =>
      have hbefore := hstill.le_now hphase hcancelled
      have hwins := (overtakes_of_waiting (t := t.rest time) hphase).1 hovertakes
      exact hn ((overtakes_of_waiting hphase).2 ⟨hwins.1, Nat.le_trans hwins.2 hbefore⟩)
  | step hnext =>
    cases next_eq_some_iff.1 hnext with
    | taken hphase hwins => exact absurd ((overtakes_of_waiting hphase).2 (hwins hcancelled)) hn
    | left hphase hcancelled' hlost => exact ⟨rfl, hcancelled, not_overtakes_of_finished rfl⟩
    | ended hphase =>
      refine ⟨rfl, hcancelled, ?_⟩
      rw [overtakes_endCycle hphase]
      exact hn

theorem Course.started_eq {more : List Fate} (h : Course (Moves plan choice) t more u)
    (hcancelled : t.cancelled = true) (hn : ¬ Overtakes plan choice t) :
    u.started = t.started := by
  have hkeeps := h.keeps (P := fun u =>
      u.started = t.started ∧ u.cancelled = true ∧ ¬ Overtakes plan choice u)
    (fun _ _ hu hr => by
      obtain ⟨hstarted, hstays⟩ := hr.of_not_overtakes hu.2.1 hu.2.2
      exact ⟨hstarted.trans hu.1, hstays⟩)
    ⟨rfl, hcancelled, hn⟩
  exact hkeeps.1

/-! ### Where a tick overtakes -/

/-- A tick that overtakes is taken at once. -/
theorem Overtakes.next (h : Overtakes plan choice t) (hphase : t.phase = .waiting due) :
    t.next plan (choice t.started) = some (t.now, t.tick plan due t.now) := by
  have hwins := (overtakes_of_waiting hphase).1 h
  have htime : max due t.now = t.now := Nat.max_eq_right hwins.2
  have htaken : Stepped plan (choice t.started) t (max due t.now)
      (t.tick plan due (max due t.now)) := .taken hphase fun _ => hwins
  rw [htime] at htaken
  exact next_eq_some_iff.2 htaken

/-- By the time at which the task looks again, a cycle has started. -/
theorem Overtakes.started_lt (h : Overtakes plan choice t) {limit : Nat} (fuel : Nat)
    (hlimit : t.looksAt ≤ limit) :
    t.started < (t.stepsUntil plan choice limit (fuel + 2)).started := by
  have hgrows : ∀ (v : Task) fuel, v.started ≤ (v.stepsUntil plan choice limit fuel).started := by
    intro v fuel
    obtain ⟨past, hcourse⟩ := stepsUntil_course plan choice v limit fuel
    exact (hcourse.mono moves_happens).grows.started
  cases hphase : t.phase with
  | finished => exact absurd h (not_overtakes_of_finished hphase)
  | waiting due =>
    rw [looksAt_of_waiting hphase] at hlimit
    rw [stepsUntil_of_le _ (h.next hphase) hlimit]
    show t.started + 1 ≤ _
    exact hgrows (t.tick plan due t.now) _
  | running cycle ends due =>
    rw [looksAt_of_running hphase] at hlimit
    have hproceeds := ((overtakes_of_running hphase).1 h).2.1
    have hwaits : (t.endCycle plan cycle ends due).phase = .waiting due := if_pos hproceeds
    have hover := (overtakes_endCycle hphase).2 h
    rw [stepsUntil_of_le _ (next_running plan hphase _) hlimit,
      stepsUntil_of_le _ (hover.next hwaits) hlimit]
    show t.started + 1 ≤ _
    exact hgrows ((t.endCycle plan cycle ends due).tick plan due ends) _

/-! ### One late cycle after the other -/

/-- A cycle starts when the task looks for the first time after a moment, or when the cycle before
it has just ended. -/
def Follows (t u : Task) (cycle time : Nat) : Prop :=
  (cycle = t.started ∧ time = t.looksAt) ∨ ∃ n, cycle = n + 1 ∧ Mark.ended n time ∈ u.marks

theorem Follows.grows {v : Task} {time : Nat} (h : Follows t u cycle time) (hg : Grows u v) :
    Follows t v cycle time :=
  h.imp_right fun ⟨n, hn, hmark⟩ => ⟨n, hn, hg.marks.subset hmark⟩

/-- What holds of a cancelled task ever after. -/
structure Trailing (choice : Nat → Bool) (t u : Task) : Prop where
  /-- It stays cancelled. -/
  cancelled : u.cancelled = true
  /-- Each cycle that started since won over the cancellation, right after what was before it. -/
  late : ∀ k, t.started ≤ k → k < u.started → choice k = true ∧
    ∃ time, Mark.started k time ∈ u.marks ∧ Follows t u k time
  /-- While it waits, the next cycle would follow without a break. -/
  waiting : ∀ due, u.phase = .waiting due → Follows t u u.started u.now
  /-- The cycle under way is the last one that has started. -/
  running : ∀ cycle ends due, u.phase = .running cycle ends due → cycle + 1 = u.started

theorem Trailing.moves {v : Task} (h : Trailing choice t u) (hr : Moves plan choice u v) :
    Trailing choice t v := by
  have hlate : ∀ k, t.started ≤ k → k < u.started → choice k = true ∧
      ∃ time, Mark.started k time ∈ v.marks ∧ Follows t v k time := by
    intro k hk hless
    obtain ⟨hwins, time, hmark, hfollows⟩ := h.late k hk hless
    have hg : Grows u v := (Happens.moves hr).grows
    exact ⟨hwins, time, hg.marks.subset hmark, hfollows.grows hg⟩
  cases hr with
  | rest hnow hstill =>
    refine ⟨h.cancelled, hlate, ?_, h.running⟩
    intro due hphase
    have hbefore := hstill.le_now hphase h.cancelled
    rw [← Nat.le_antisymm hnow hbefore]
    exact h.waiting due hphase
  | @step time after hnext =>
    cases next_eq_some_iff.1 hnext with
    | @taken due hphase hwins =>
      obtain ⟨hwon, hdue⟩ := hwins h.cancelled
      have htime : max due u.now = u.now := Nat.max_eq_right hdue
      rw [htime] at hlate ⊢
      refine ⟨h.cancelled, ?_, nofun, ?_⟩
      · intro k hk hless
        rcases Nat.lt_succ_iff_lt_or_eq.1 hless with hbefore | rfl
        · exact hlate k hk hbefore
        · -- the cycle that starts now
          have hfollows := h.waiting due hphase
          exact ⟨hwon, u.now, List.mem_cons_self,
            hfollows.grows ⟨List.suffix_cons _ _, Nat.le_succ _, Nat.le_refl _⟩⟩
      · intro cycle ends later hrunning
        cases hrunning
        rfl
    | left hphase hcancelled hlost => exact ⟨h.cancelled, hlate, nofun, nofun⟩
    | @ended cycle _ due hphase =>
      have hlast := h.running cycle time due hphase
      refine ⟨h.cancelled, hlate, ?_, ?_⟩
      · intro later hwaits
        by_cases hp : (plan cycle).ending = .proceed
        · refine .inr ⟨cycle, hlast.symm, ?_⟩
          show Mark.ended cycle time ∈ if _ then _ else _
          rw [if_neg (by rw [hp]; decide)]
          exact List.mem_cons_self
        · have hfinished : (u.endCycle plan cycle time due).phase = .finished := if_neg hp
          rw [hfinished] at hwaits
          cases hwaits
      · intro c e d hrunning
        have hidle := inFlight?_of_running hrunning
        rw [inFlight?_endCycle] at hidle
        cases hidle

theorem trailing_drop {past : List Fate} (h : Accounted past t) : Trailing choice t t.drop := by
  refine ⟨rfl, ?_, ?_, ?_⟩
  · intro k hk hless
    exact absurd hless (Nat.not_lt_of_le hk)
  · intro due hphase
    exact .inl ⟨rfl, (looksAt_of_waiting hphase).symm⟩
  · intro cycle ends due hphase
    exact (h.of_inFlight (inFlight?_of_running hphase)).2.1.symm

/-! ### Cycles that start after a cancellation -/

/-- At every moment of every course of a poll task whose handle is still held, whatever its interval
and its cycles are like: after the handle is let go of no cycle starts any more exactly if the next
tick does not overtake, and where the task is stopped no cycle starts exactly if the tick does not
overtake within the timeout. All cycles that start nevertheless have won over the cancellation, the
first one when the task looked for it and each other one when the one before it had just ended. -/
theorem late_start_iff {interval : Nat} {past : List Fate}
    (h : Course (Happens plan choice) (start interval) past t) (hheld : t.held = true) :
    ((∀ more u, Course (Moves plan choice) t.drop more u → u.started = t.started) ↔
      ¬ Overtakes plan choice t) ∧
    (∀ timeout, (t.stop plan choice timeout).started = t.started ↔
      ¬ (Overtakes plan choice t ∧ t.looksAt ≤ t.now + timeout)) ∧
    ∀ more u, Course (Moves plan choice) t.drop more u → ∀ k, t.started ≤ k → k < u.started →
      choice k = true ∧ ∃ time, Mark.started k time ∈ u.marks ∧ Follows t u k time := by
  have hlooks : t.drop.looksAt = t.looksAt := rfl
  refine ⟨⟨fun hnone hovertakes => ?_, fun hn more u hcourse => ?_⟩, fun timeout => ?_, ?_⟩
  · -- a course up to the time at which the task looks again
    obtain ⟨more, hcourse⟩ := stepsUntil_course plan choice t.drop t.looksAt 2
    have hstarts := Overtakes.started_lt (t := t.drop) hovertakes 0 (Nat.le_of_eq hlooks)
    have hsame := hnone more _ hcourse
    exact absurd hsame (Nat.ne_of_gt hstarts)
  · exact hcourse.started_eq (t := t.drop) rfl hn
  · have hfuel : stepBound timeout = stepBound timeout - 2 + 2 := rfl
    have hgrows := grows_breakOff (t := t.drop.stepsUntil plan choice (t.now + timeout)
      (stepBound timeout)) (t.now + timeout)
    constructor
    · rintro hsame ⟨hovertakes, hlimit⟩
      have hstarts := Overtakes.started_lt (t := t.drop) hovertakes (stepBound timeout - 2) hlimit
      rw [stop_of_held hheld] at hsame
      have hbefore := hgrows.started
      rw [hsame, hfuel] at hbefore
      exact absurd hstarts (Nat.not_lt_of_le hbefore)
    · intro hn
      by_cases hovertakes : Overtakes plan choice t
      · -- the time at which the task looks again is over the limit
        have hlate : t.now + timeout < t.looksAt :=
          Nat.lt_of_not_le fun hlimit => hn ⟨hovertakes, hlimit⟩
        cases hphase : t.phase with
        | finished => exact absurd hovertakes (not_overtakes_of_finished hphase)
        | waiting due =>
          rw [looksAt_of_waiting hphase] at hlate
          omega
        | running cycle ends due =>
          rw [looksAt_of_running hphase] at hlate
          rw [stop_aborts hheld hphase hlate]
          rfl
      · obtain ⟨more, hcourse⟩ := stepsUntil_course plan choice t.drop (t.now + timeout)
          (stepBound timeout)
        have hsame := hcourse.started_eq (t := t.drop) rfl hovertakes
        rw [stop_of_held hheld]
        exact (breakOff_started _ _).trans hsame
  · intro more u hcourse
    have htrailing := hcourse.keeps (P := Trailing choice t) (fun _ _ hu hr => hu.moves hr)
      (trailing_drop h.accounted)
    exact htrailing.late

/-- The tick of the next cycle is overdue when a long one ends, and where it wins another cycle
starts after the handle was let go of, or while the task is being stopped. -/
theorem late_start_iff_overrun : ∃ past,
    Course (Happens overrun fun _ => true) (start 10) past amid ∧
      amid.held = true ∧ Overtakes overrun (fun _ => true) amid ∧
      (¬ ∀ more u, Course (Moves overrun fun _ => true) amid.drop more u →
        u.started = amid.started) ∧
      (amid.stop overrun (fun _ => true) 20).started ≠ amid.started ∧
      (amid.stop overrun (fun _ => true) 10).started = amid.started ∧
      Mark.started 1 45 ∈ (amid.drop.sleep overrun (fun _ => true) 20).marks := by
  obtain ⟨past, hcourse⟩ := sleep_course (timely_start 10) overrun (fun _ => true) 30
  have hamid : Course (Happens overrun fun _ => true) (start 10) past amid :=
    hcourse.mono moves_happens
  obtain ⟨hdropped, hstopped, -⟩ := late_start_iff hamid rfl
  have hphase : amid.phase = .running 0 45 20 := by decide
  have hovertakes : Overtakes overrun (fun _ => true) amid :=
    (overtakes_of_running hphase).2 ⟨rfl, rfl, by decide⟩
  have hlooks : amid.looksAt = 45 := looksAt_of_running hphase
  refine ⟨past, hamid, rfl, hovertakes, fun hnone => hdropped.1 hnone hovertakes,
    fun hsame => (hstopped 20).1 hsame ⟨hovertakes, ?_⟩, (hstopped 10).2 fun hin => ?_, by decide⟩
  · rw [hlooks]
    decide
  · have hlate := hin.2
    rw [hlooks] at hlate
    exact absurd hlate (by decide)

end Admission.Poller.Task

import Admission.Proofs.Poller.Schedule

/-!
# Courses — a task and what others do with it

  A task takes its steps by itself, each at its time, and between them time passes. Others
  may let go of its handle or break it off. A course is what becomes of a task in this way,
  moment by moment, together with the fates of the futures of its cycles. Courses are finer
  than sleeping and stopping: at a moment at which a step is due, anything else may come
  before it.

  Sleeping and stopping are courses (`sleep_course`, `stop_course`). For this their fuel has
  to last: a task that never falls behind (`Timely`) has taken all its steps up to the limit
  when the fuel is used up. What one moment makes of the next is said once for each kind of
  step; from that follow, for whole courses, that what is written down stays (`Grows`), that
  a finished task does nothing more, and what the futures come to (`Accounted`).
-/

namespace Admission.Poller

/-- What becomes of the future of a cycle. -/
inductive Fate where
  /-- It is created, and the cycle starts. -/
  | created (cycle : Nat)
  /-- It is dropped, whether the cycle has come to its end or not. -/
  | dropped (cycle : Nat)
  deriving DecidableEq, Repr

namespace Task

variable {plan : Plan} {choice : Nat → Bool} {t u after : Task} {time : Nat}

/-! ### From one moment to the next -/

/-- The cycle that is under way. -/
def inFlight? (t : Task) : Option Nat :=
  match t.phase with
  | .running cycle _ _ => some cycle
  | _ => none

/-- What became of futures from one moment to the next, of which the cycles under way are given;
last first. -/
def fates : Option Nat → Option Nat → List Fate
  | none, none => []
  | none, some cycle => [.created cycle]
  | some cycle, none => [.dropped cycle]
  | some cycle, some other => if cycle = other then [] else [.created other, .dropped cycle]

/-- The task takes no step before a time. -/
def StillUntil (plan : Plan) (choice : Nat → Bool) (time : Nat) (t : Task) : Prop :=
  ∀ later after, t.next plan (choice t.started) = some (later, after) → time ≤ later

/-- What a task does by itself. -/
inductive Moves (plan : Plan) (choice : Nat → Bool) (t : Task) : Task → Prop where
  /-- It takes its next step. -/
  | step {time : Nat} {after : Task} (hnext : t.next plan (choice t.started) = some (time, after)) :
      Moves plan choice t after
  /-- Time passes, but not beyond the next step. -/
  | rest {time : Nat} (hnow : t.now ≤ time) (hstill : t.StillUntil plan choice time) :
      Moves plan choice t (t.rest time)

/-- What may happen to a task. -/
inductive Happens (plan : Plan) (choice : Nat → Bool) (t : Task) : Task → Prop where
  /-- It moves by itself. -/
  | moves {u : Task} (h : Moves plan choice t u) : Happens plan choice t u
  /-- Nobody holds its handle any more. -/
  | drop : Happens plan choice t t.drop
  /-- It is broken off. -/
  | breakOff {time : Nat} (hnow : t.now ≤ time) (hstill : t.StillUntil plan choice time) :
      Happens plan choice t (t.breakOff time)

/-- What becomes of a task from moment to moment, and of its futures on the way; last first. -/
inductive Course (R : Task → Task → Prop) (t : Task) : List Fate → Task → Prop where
  /-- Nothing has happened yet. -/
  | start : Course R t [] t
  /-- One more moment. -/
  | next {past : List Fate} {u v : Task} (h : Course R t past u) (hstep : R u v) :
      Course R t (fates u.inFlight? v.inFlight? ++ past) v

namespace Course

variable {R S : Task → Task → Prop} {past more : List Fate} {v : Task}

/-- What each moment keeps, a course keeps. -/
theorem keeps {P : Task → Prop} (hstep : ∀ u v, P u → R u v → P v) (h : Course R t past u)
    (ht : P t) : P u := by
  induction h with
  | start => exact ht
  | next _ hr ih => exact hstep _ _ ih hr

theorem mono (hRS : ∀ u v, R u v → S u v) (h : Course R t past u) : Course S t past u := by
  induction h with
  | start => exact .start
  | next _ hr ih => exact ih.next (hRS _ _ hr)

theorem append (h : Course R t past u) (h' : Course R u more v) :
    Course R t (more ++ past) v := by
  induction h' with
  | start => exact h
  | next _ hr ih =>
    rw [List.append_assoc]
    exact ih.next hr

end Course

theorem moves_happens (u v : Task) (h : Moves plan choice u v) : Happens plan choice u v :=
  .moves h

/-! ### What stays -/

/-- Nothing that was written down or counted is lost. -/
structure Grows (t u : Task) : Prop where
  /-- The marks are the last ones of the marks later. -/
  marks : t.marks <:+ u.marks
  /-- Cycles only start. -/
  started : t.started ≤ u.started
  /-- Cycles only end. -/
  ended : t.ended ≤ u.ended

theorem Grows.refl (t : Task) : Grows t t := ⟨List.suffix_rfl, Nat.le_refl _, Nat.le_refl _⟩

theorem Grows.trans (h : Grows t u) (h' : Grows u after) : Grows t after :=
  ⟨h.marks.trans h'.marks, Nat.le_trans h.started h'.started, Nat.le_trans h.ended h'.ended⟩

theorem Grows.of_same (hmarks : u.marks = t.marks) (hstarted : u.started = t.started)
    (hended : u.ended = t.ended) : Grows t u :=
  ⟨hmarks ▸ List.suffix_rfl, Nat.le_of_eq hstarted.symm, Nat.le_of_eq hended.symm⟩

theorem grows_endCycle (cycle ends due : Nat) : Grows t (t.endCycle plan cycle ends due) := by
  refine ⟨?_, Nat.le_refl _, Nat.le_succ _⟩
  show t.marks <:+ if _ then _ else _
  split
  · exact List.suffix_rfl
  · exact List.suffix_cons _ _

theorem grows_breakOff (time : Nat) : Grows t (t.breakOff time) := by
  refine ⟨(breakOff_marks t time) ▸ List.suffix_rfl, Nat.le_of_eq (breakOff_started t time).symm, ?_⟩
  unfold breakOff
  split
  · exact Nat.le_refl _
  · exact Nat.le_succ _
  · exact Nat.le_refl _

theorem Happens.grows (h : Happens plan choice t u) : Grows t u := by
  cases h with
  | drop => exact .of_same rfl rfl rfl
  | breakOff hnow hstill => exact grows_breakOff _
  | moves h =>
    cases h with
    | rest hnow hstill => exact .of_same rfl rfl rfl
    | step hnext =>
      cases next_eq_some_iff.1 hnext with
      | taken hphase hwins => exact ⟨List.suffix_cons _ _, Nat.le_succ _, Nat.le_refl _⟩
      | left hphase hcancelled hlost => exact .of_same rfl rfl rfl
      | ended hphase => exact grows_endCycle _ _ _

theorem Course.grows {past : List Fate} (h : Course (Happens plan choice) t past u) :
    Grows t u :=
  h.keeps (P := Grows t) (fun _ _ hu hr => hu.trans hr.grows) (.refl t)

/-- To a task that has finished nothing happens any more, but that time passes. -/
theorem Happens.of_finished (h : Happens plan choice t u) (ht : t.phase = .finished) :
    u.phase = .finished ∧ u.marks = t.marks ∧ u.started = t.started ∧ u.ended = t.ended := by
  cases h with
  | drop => exact ⟨ht, rfl, rfl, rfl⟩
  | breakOff hnow hstill =>
    rw [breakOff_finished ht]
    exact ⟨ht, rfl, rfl, rfl⟩
  | moves h =>
    cases h with
    | rest hnow hstill => exact ⟨ht, rfl, rfl, rfl⟩
    | step hnext =>
      rw [next_eq_none_iff.2 ht] at hnext
      cases hnext

theorem inFlight?_of_finished (ht : t.phase = .finished) : t.inFlight? = none := by
  unfold inFlight?
  rw [ht]

theorem Course.of_finished {past : List Fate} (h : Course (Happens plan choice) t past u)
    (ht : t.phase = .finished) : u.phase = .finished ∧ u.marks = t.marks ∧
      u.started = t.started ∧ u.ended = t.ended ∧ past = [] := by
  induction h with
  | start => exact ⟨ht, rfl, rfl, rfl, rfl⟩
  | next _ hr ih =>
    obtain ⟨hphase, hmarks, hstarted, hended, hpast⟩ := ih
    obtain ⟨hphase', hmarks', hstarted', hended'⟩ := hr.of_finished hphase
    refine ⟨hphase', hmarks'.trans hmarks, hstarted'.trans hstarted, hended'.trans hended, ?_⟩
    rw [inFlight?_of_finished hphase, inFlight?_of_finished hphase', hpast]
    rfl

/-! ### Futures -/

/-- The fates of the first cycles when all of them are over, last first. -/
def turns : Nat → List Fate
  | 0 => []
  | n + 1 => .dropped n :: .created n :: turns n

/-- Each future was created and dropped in its turn, but for the one of the cycle under way, which
was only created. -/
def Accounted (past : List Fate) (t : Task) : Prop :=
  match t.inFlight? with
  | none => t.started = t.ended ∧ past = turns t.ended
  | some cycle => cycle = t.ended ∧ t.started = cycle + 1 ∧ past = .created cycle :: turns cycle

theorem accounted_start (interval : Nat) : Accounted [] (start interval) := by
  have hidle : (start interval).inFlight? = none := by
    unfold inFlight? start
    by_cases h : interval = 0
    · simp [h]
    · simp [h]
  unfold Accounted
  rw [hidle]
  exact ⟨rfl, rfl⟩

theorem Accounted.of_idle {past : List Fate} (h : Accounted past t) (ht : t.inFlight? = none) :
    t.started = t.ended ∧ past = turns t.ended := by
  unfold Accounted at h
  rw [ht] at h
  exact h

theorem Accounted.of_inFlight {past : List Fate} {cycle : Nat} (h : Accounted past t)
    (ht : t.inFlight? = some cycle) :
    cycle = t.ended ∧ t.started = cycle + 1 ∧ past = .created cycle :: turns cycle := by
  unfold Accounted at h
  rw [ht] at h
  exact h

theorem fates_self (cycle? : Option Nat) : fates cycle? cycle? = [] := by
  cases cycle? with
  | none => rfl
  | some cycle => exact if_pos rfl

/-- Where the cycle under way and the counts stay, so does the account. -/
theorem Accounted.of_same {past : List Fate} (h : Accounted past t)
    (hflight : u.inFlight? = t.inFlight?) (hstarted : u.started = t.started)
    (hended : u.ended = t.ended) : Accounted (fates t.inFlight? u.inFlight? ++ past) u := by
  rw [hflight, fates_self, List.nil_append]
  unfold Accounted
  rw [hflight, hstarted, hended]
  exact h

/-- Where the cycle under way is over, its future is dropped. -/
theorem Accounted.of_over {past : List Fate} {cycle : Nat} (h : Accounted past t)
    (ht : t.inFlight? = some cycle) (hu : u.inFlight? = none) (hstarted : u.started = t.started)
    (hended : u.ended = t.ended + 1) : Accounted (fates t.inFlight? u.inFlight? ++ past) u := by
  obtain ⟨hcycle, hcount, hpast⟩ := h.of_inFlight ht
  unfold Accounted
  rw [hu, ht, hstarted, hended, hpast, hcount, hcycle]
  exact ⟨rfl, rfl⟩

theorem inFlight?_of_waiting {due : Nat} (hphase : t.phase = .waiting due) :
    t.inFlight? = none := by
  unfold inFlight?
  rw [hphase]

theorem inFlight?_of_running {cycle ends due : Nat} (hphase : t.phase = .running cycle ends due) :
    t.inFlight? = some cycle := by
  unfold inFlight?
  rw [hphase]

theorem inFlight?_endCycle (cycle ends due : Nat) :
    (t.endCycle plan cycle ends due).inFlight? = none := by
  unfold inFlight? endCycle
  simp only
  split
  · next hrunning =>
    split at hrunning
    · cases hrunning
    · cases hrunning
  · rfl

theorem Accounted.breakOff {past : List Fate} (h : Accounted past t) (time : Nat) :
    Accounted (fates t.inFlight? (t.breakOff time).inFlight? ++ past) (t.breakOff time) := by
  have hover : (t.breakOff time).inFlight? = none := inFlight?_of_finished (breakOff_phase t time)
  cases hphase : t.phase with
  | finished =>
    rw [breakOff_finished hphase]
    exact h.of_same rfl rfl rfl
  | waiting due =>
    refine h.of_same (hover.trans (inFlight?_of_waiting hphase).symm) (breakOff_started t time) ?_
    unfold Task.breakOff
    rw [hphase]
  | running cycle ends due =>
    refine h.of_over (inFlight?_of_running hphase) hover (breakOff_started t time) ?_
    unfold Task.breakOff
    rw [hphase]

theorem Accounted.happens {past : List Fate} (h : Accounted past t)
    (hr : Happens plan choice t u) : Accounted (fates t.inFlight? u.inFlight? ++ past) u := by
  cases hr with
  | drop => exact h.of_same rfl rfl rfl
  | breakOff hnow hstill => exact h.breakOff _
  | moves hr =>
    cases hr with
    | rest hnow hstill => exact h.of_same rfl rfl rfl
    | step hnext =>
      cases next_eq_some_iff.1 hnext with
      | @taken due hphase hwins =>
        -- the number of the cycle that starts is the number of those that have started
        obtain ⟨hcount, hpast⟩ := h.of_idle (inFlight?_of_waiting hphase)
        have hflight : (t.tick plan due (max due t.now)).inFlight? = some t.started := rfl
        unfold Accounted
        rw [hflight, inFlight?_of_waiting hphase, hpast]
        refine ⟨hcount, rfl, ?_⟩
        rw [hcount]
        rfl
      | left hphase hcancelled hlost => exact h.of_same (inFlight?_of_waiting hphase).symm rfl rfl
      | ended hphase =>
        exact h.of_over (inFlight?_of_running hphase) (inFlight?_endCycle _ _ _) rfl rfl

/-- Whatever happens to a task, its futures are accounted for. -/
theorem Course.accounted {interval : Nat} {past : List Fate}
    (h : Course (Happens plan choice) (Task.start interval) past t) : Accounted past t := by
  induction h with
  | start => exact accounted_start interval
  | next _ hr ih => exact ih.happens hr

/-! ### Tasks that do not fall behind -/

/-- A task that can take each of its steps in time. -/
structure Timely (t : Task) : Prop where
  /-- It has finished, or there is some time between two ticks. -/
  ticking : t.phase = .finished ∨ 1 ≤ t.interval
  /-- The end of the cycle under way is not over. -/
  ahead : ∀ cycle ends due, t.phase = .running cycle ends due → t.now ≤ ends

theorem timely_start (interval : Nat) : Timely (start interval) := by
  unfold start
  by_cases h : interval = 0
  · refine ⟨.inl (if_pos h), ?_⟩
    intro cycle ends due hphase
    rw [if_pos h] at hphase
    cases hphase
  · refine ⟨.inr (Nat.pos_of_ne_zero h), ?_⟩
    intro cycle ends due hphase
    rw [if_neg h] at hphase
    cases hphase

theorem Timely.interval_pos (h : Timely t) (hphase : t.phase ≠ .finished) : 1 ≤ t.interval :=
  h.ticking.resolve_left hphase

theorem timely_of_finished (hphase : t.phase = .finished) : Timely t := by
  refine ⟨.inl hphase, ?_⟩
  intro cycle ends due hrunning
  rw [hphase] at hrunning
  cases hrunning

theorem Timely.drop (h : Timely t) : Timely t.drop := ⟨h.ticking, h.ahead⟩

theorem Timely.endCycle {cycle ends due : Nat} (h : Timely t)
    (hphase : t.phase = .running cycle ends due) : Timely (t.endCycle plan cycle ends due) := by
  refine ⟨.inr (h.interval_pos (by rw [hphase]; exact nofun)), ?_⟩
  intro c e d hrunning
  have hidle := inFlight?_of_running hrunning
  rw [inFlight?_endCycle] at hidle
  cases hidle

theorem Timely.happens (h : Timely t) (hr : Happens plan choice t u) : Timely u := by
  cases hr with
  | drop => exact h.drop
  | breakOff hnow hstill => exact timely_of_finished (breakOff_phase t _)
  | moves hr =>
    cases hr with
    | rest hnow hstill =>
      refine ⟨h.ticking, ?_⟩
      intro cycle ends due hphase
      exact hstill ends _ (next_eq_some_iff.2 (.ended hphase))
    | step hnext =>
      cases next_eq_some_iff.1 hnext with
      | taken hphase hwins =>
        refine ⟨.inr (h.interval_pos (by rw [hphase]; exact nofun)), ?_⟩
        intro cycle ends due hrunning
        cases hrunning
        exact Nat.le_add_right _ _
      | left hphase hcancelled hlost => exact timely_of_finished rfl
      | ended hphase => exact h.endCycle hphase

theorem Course.timely {interval : Nat} {past : List Fate}
    (h : Course (Happens plan choice) (Task.start interval) past t) : Timely t :=
  h.keeps (P := Timely) (fun _ _ hu hr => hu.happens hr) (timely_start interval)

/-- The next step of a task is not in the past, and unless the task has finished with it, fewer
steps are left. -/
theorem Timely.stepped (h : Timely t) {wins : Bool}
    (hnext : t.next plan wins = some (time, after)) :
    t.now ≤ time ∧ ∀ base limit, base ≤ t.now → time ≤ limit →
      after.phase = .finished ∨ after.stepsLeft base limit < t.stepsLeft base limit := by
  cases next_eq_some_iff.1 hnext with
  | taken hphase hwins =>
    refine ⟨Nat.le_max_right _ _, fun base limit hbase hlimit => .inr ?_⟩
    exact stepsLeft_tick (h.interval_pos (by rw [hphase]; exact nofun)) hphase hbase hlimit
  | left hphase hcancelled hlost => exact ⟨Nat.le_refl _, fun _ _ _ _ => .inl rfl⟩
  | @ended cycle ends due hphase =>
    refine ⟨h.ahead _ _ _ hphase, fun base limit hbase hlimit => ?_⟩
    by_cases hp : (plan cycle).ending = .proceed
    · exact .inr (stepsLeft_endCycle hphase hp)
    · exact .inl (if_neg hp)

/-- With one step more than are left, all steps up to the limit are taken. -/
theorem Timely.settles (h : Timely t) (plan : Plan) (choice : Nat → Bool) {base limit fuel : Nat}
    (hbase : base ≤ t.now) (hfuel : t.phase = .finished ∨ t.stepsLeft base limit < fuel) :
    (t.stepsUntil plan choice limit fuel).StillUntil plan choice (limit + 1) := by
  induction fuel generalizing t with
  | zero =>
    have hphase : t.phase = .finished := hfuel.resolve_right (Nat.not_lt_zero _)
    intro later after hnext
    unfold stepsUntil at hnext
    rw [next_eq_none_iff.2 hphase] at hnext
    cases hnext
  | succ fuel ih =>
    unfold stepsUntil
    cases hnext : t.next plan (choice t.started) with
    | none =>
      intro later after hlater
      rw [hnext] at hlater
      cases hlater
    | some step =>
      obtain ⟨time, after⟩ := step
      simp only
      -- each step within the limit leaves fewer to be made, and the fuel lasts for them
      by_cases hlimit : time ≤ limit
      · rw [if_pos hlimit]
        obtain ⟨hpast, hfewer⟩ := h.stepped hnext
        have hnow : base ≤ after.now := by
          rw [next_now hnext]
          exact Nat.le_trans hbase hpast
        refine ih (h.happens (.moves (.step hnext))) hnow ?_
        rcases hfewer base limit hbase hlimit with hfinished | hless
        · exact .inl hfinished
        · refine .inr ?_
          have hruns : t.phase ≠ .finished := fun hphase => by
            rw [next_eq_none_iff.2 hphase] at hnext
            cases hnext
          have hsteps := hfuel.resolve_left hruns
          omega
      · rw [if_neg hlimit]
        intro later after' hlater
        rw [hnext] at hlater
        cases hlater
        omega

/-! ### Sleeping and stopping -/

theorem stepsUntil_course (plan : Plan) (choice : Nat → Bool) (t : Task) (limit fuel : Nat) :
    ∃ past, Course (Moves plan choice) t past (t.stepsUntil plan choice limit fuel) := by
  induction fuel generalizing t with
  | zero => exact ⟨[], .start⟩
  | succ fuel ih =>
    unfold stepsUntil
    cases hnext : t.next plan (choice t.started) with
    | none => exact ⟨[], .start⟩
    | some step =>
      obtain ⟨time, after⟩ := step
      simp only
      by_cases hlimit : time ≤ limit
      · rw [if_pos hlimit]
        obtain ⟨past, hcourse⟩ := ih after
        exact ⟨_, (Course.start.next (Moves.step hnext)).append hcourse⟩
      · rw [if_neg hlimit]
        exact ⟨[], .start⟩

theorem stepsUntil_now_le (plan : Plan) (choice : Nat → Bool) {limit : Nat} (fuel : Nat)
    (hnow : t.now ≤ limit) :
    (t.stepsUntil plan choice limit fuel).now ≤ limit := by
  induction fuel generalizing t with
  | zero => exact hnow
  | succ fuel ih =>
    unfold stepsUntil
    cases hnext : t.next plan (choice t.started) with
    | none => exact hnow
    | some step =>
      obtain ⟨time, after⟩ := step
      simp only
      by_cases hlimit : time ≤ limit
      · rw [if_pos hlimit]
        refine ih ?_
        rw [next_now hnext]
        exact hlimit
      · rw [if_neg hlimit]
        exact hnow

/-- The time of a task that does not fall behind only goes on. -/
theorem Moves.now_le (h : Timely t) (hr : Moves plan choice t u) : t.now ≤ u.now := by
  cases hr with
  | rest hnow hstill => exact hnow
  | step hnext =>
    rw [next_now hnext]
    exact (h.stepped hnext).1

theorem Course.now_le {past : List Fate} (h : Course (Moves plan choice) t past u)
    (ht : Timely t) : t.now ≤ u.now := by
  have hkeeps : Timely u ∧ t.now ≤ u.now :=
    h.keeps (P := fun u => Timely u ∧ t.now ≤ u.now)
      (fun _ _ hu hr => ⟨hu.1.happens (.moves hr), Nat.le_trans hu.2 (hr.now_le hu.1)⟩)
      ⟨ht, Nat.le_refl _⟩
  exact hkeeps.2

/-- Where all steps up to now have been taken, the bound is enough fuel. -/
theorem stepsLeft_lt_stepBound (ms : Nat) : t.stepsLeft t.now (t.now + ms) < stepBound ms := by
  unfold stepsLeft stepBound tolerance
  cases t.phase with
  | waiting due => simp only; omega
  | running cycle ends due => simp only; omega
  | finished => simp only; omega

theorem StillUntil.of_le {limit : Nat} (h : t.StillUntil plan choice limit) (hle : time ≤ limit) :
    t.StillUntil plan choice time :=
  fun later after hnext => Nat.le_trans hle (h later after hnext)

/-- To sleep is a course that the task takes by itself, and no step is left out. -/
theorem sleep_course (h : Timely t) (plan : Plan) (choice : Nat → Bool) (ms : Nat) :
    ∃ past, Course (Moves plan choice) t past (t.sleep plan choice ms) := by
  obtain ⟨past, hcourse⟩ := stepsUntil_course plan choice t (t.now + ms) (stepBound ms)
  have hnow := stepsUntil_now_le plan choice (stepBound ms) (Nat.le_add_right t.now ms)
  have hstill := h.settles plan choice (Nat.le_refl t.now) (.inr (stepsLeft_lt_stepBound ms))
  exact ⟨_, hcourse.next (.rest hnow (hstill.of_le (Nat.le_succ _)))⟩

/-- To stop is a course in which the handle is let go of, and the task is broken off at the
limit. -/
theorem stop_course (h : Timely t) (plan : Plan) (choice : Nat → Bool) (timeout : Nat) :
    ∃ past, Course (Happens plan choice) t past (t.stop plan choice timeout) := by
  unfold stop
  cases t.held with
  | false => exact ⟨[], .start⟩
  | true =>
    have hdrop : Happens plan choice t t.drop := .drop
    obtain ⟨past, hcourse⟩ := stepsUntil_course plan choice t.drop (t.now + timeout)
      (stepBound timeout)
    have hnow := stepsUntil_now_le (t := t.drop) plan choice (stepBound timeout)
      (Nat.le_add_right t.now timeout)
    have hstill := h.drop.settles plan choice (Nat.le_refl t.drop.now)
      (.inr (stepsLeft_lt_stepBound timeout))
    have hsteps := (Course.start.next hdrop).append (hcourse.mono moves_happens)
    exact ⟨_, hsteps.next (.breakOff hnow (hstill.of_le (Nat.le_succ _)))⟩

end Task

end Admission.Poller

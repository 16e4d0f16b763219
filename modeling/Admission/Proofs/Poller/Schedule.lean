import Admission.Poller
import Mathlib.Algebra.GroupWithZero.Nat

/-!
# The schedule of a poller — when cycles start

  Nobody stops the task, and no cycle does. Then it can be said beforehand when each cycle
  is due and when it starts: the tick after one is due an interval later, or an interval
  after the start if that was too late, and a cycle starts when it is due or, if the one
  before still runs, when that one ends. `slot` is this rule, a recursion over the cycles
  that knows nothing of tasks and their steps.

  `starts_on_schedule` says that the task keeps to it. Whenever one looks, the cycles that
  have started and ended are those whose time has come, each at its time, and one after
  the other. What the rule comes to is said beside it (`Regular`): cycles do not overlap,
  missed ticks are not made up for, and cycles that are short enough never drift.

  A step of the task is taken with fuel, so it has to be shown as well that the fuel lasts:
  every tick is due later than the one before, and no tick but the first can be overdue by
  more than the tolerance (`stepsUntil_settles`).
-/

namespace Admission.Poller

/-! ### The rule -/

/-- When a cycle is due and when it starts. -/
structure Slot where
  /-- When its tick is due. -/
  due : Nat
  /-- When it starts. -/
  start : Nat

/-- The slot of each cycle, if every cycle goes on to the next. -/
def slot (interval : Nat) (plan : Plan) : Nat → Slot
  | 0 => ⟨interval, interval⟩
  | n + 1 =>
    let before := slot interval plan n
    let due := Task.dueAfter interval before.due before.start
    ⟨due, max due (before.start + (plan n).duration)⟩

/-- When a cycle is due. -/
def dueAt (interval : Nat) (plan : Plan) (n : Nat) : Nat := (slot interval plan n).due

/-- When a cycle starts. -/
def startAt (interval : Nat) (plan : Plan) (n : Nat) : Nat := (slot interval plan n).start

/-- When a cycle ends. -/
def endAt (interval : Nat) (plan : Plan) (n : Nat) : Nat :=
  startAt interval plan n + (plan n).duration

/-- What the times of cycles have to be like. -/
structure Regular (interval : Nat) (plan : Plan) (due start : Nat → Nat) : Prop where
  /-- The first cycle starts after one interval. -/
  first : due 0 = interval ∧ start 0 = interval
  /-- A cycle is due one interval after the one before was due, or one interval after that one
  started if it started too late. -/
  next_due : ∀ n, due (n + 1) =
    if start n ≤ due n + Task.tolerance then due n + interval else start n + interval
  /-- A cycle starts when it is due and the one before has ended. -/
  next_start : ∀ n, start (n + 1) = max (due (n + 1)) (start n + (plan n).duration)
  /-- A cycle does not start before the one before has ended. -/
  apart : ∀ n, start n + (plan n).duration ≤ start (n + 1)
  /-- Two starts are an interval apart, but for the tolerance, however long cycles take. -/
  spaced : ∀ n, start n + interval ≤ start (n + 1) + Task.tolerance
  /-- As long as no cycle takes longer than an interval, cycles start at its multiples. -/
  steady : ∀ n, (∀ m, m < n → (plan m).duration ≤ interval) → start n = (n + 1) * interval

variable {interval : Nat} {plan : Plan}

theorem dueAt_succ (n : Nat) :
    dueAt interval plan (n + 1) =
      Task.dueAfter interval (dueAt interval plan n) (startAt interval plan n) := rfl

theorem startAt_succ (n : Nat) :
    startAt interval plan (n + 1) = max (dueAt interval plan (n + 1)) (endAt interval plan n) := rfl

/-- A cycle is not started before it is due. -/
theorem dueAt_le_startAt (n : Nat) : dueAt interval plan n ≤ startAt interval plan n := by
  cases n with
  | zero => exact Nat.le_refl interval
  | succ n => exact Nat.le_max_left _ _

theorem startAt_le_endAt (n : Nat) : startAt interval plan n ≤ endAt interval plan n :=
  Nat.le_add_right _ _

theorem endAt_le_startAt_succ (n : Nat) : endAt interval plan n ≤ startAt interval plan (n + 1) :=
  Nat.le_max_right _ _

theorem startAt_mono {m n : Nat} (h : m ≤ n) :
    startAt interval plan m ≤ startAt interval plan n := by
  induction h with
  | refl => exact Nat.le_refl _
  | @step n _ ih =>
    exact Nat.le_trans ih (Nat.le_trans (startAt_le_endAt n) (endAt_le_startAt_succ n))

theorem endAt_le_startAt {m n : Nat} (h : m < n) :
    endAt interval plan m ≤ startAt interval plan n :=
  Nat.le_trans (endAt_le_startAt_succ m) (startAt_mono h)

theorem endAt_mono {m n : Nat} (h : m ≤ n) : endAt interval plan m ≤ endAt interval plan n := by
  rcases Nat.lt_or_eq_of_le h with hm | rfl
  · exact Nat.le_trans (endAt_le_startAt hm) (startAt_le_endAt n)
  · exact Nat.le_refl _

theorem lt_of_startAt_lt {m n : Nat} (h : startAt interval plan m < startAt interval plan n) :
    m < n := by
  rcases Nat.lt_or_ge m n with hm | hm
  · exact hm
  · exact absurd (startAt_mono hm) (Nat.not_le_of_lt h)

theorem lt_of_endAt_lt {m n : Nat} (h : endAt interval plan m < endAt interval plan n) :
    m < n := by
  rcases Nat.lt_or_ge m n with hm | hm
  · exact hm
  · exact absurd (endAt_mono hm) (Nat.not_le_of_lt h)

/-- Cycles that are short enough are never late, so no tick is moved. -/
theorem startAt_of_short (n : Nat) (h : ∀ m, m < n → (plan m).duration ≤ interval) :
    dueAt interval plan n = (n + 1) * interval ∧ startAt interval plan n = (n + 1) * interval := by
  induction n with
  | zero =>
    have hone : (0 + 1) * interval = interval := Nat.one_mul interval
    rw [hone]
    exact ⟨rfl, rfl⟩
  | succ n ih =>
    obtain ⟨hdue, hstart⟩ := ih fun m hm => h m (Nat.lt_succ_of_lt hm)
    have hshort : (plan n).duration ≤ interval := h n (Nat.lt_succ_self n)
    have hnext : (n + 1 + 1) * interval = (n + 1) * interval + interval :=
      Nat.succ_mul (n + 1) interval
    have hdue' : dueAt interval plan (n + 1) = (n + 1 + 1) * interval := by
      rw [dueAt_succ, hdue, hstart, hnext]
      unfold Task.dueAfter Task.tolerance
      rw [if_neg (by omega)]
    refine ⟨hdue', ?_⟩
    rw [startAt_succ, hdue']
    unfold endAt
    rw [hstart]
    omega

theorem regular_slot (interval : Nat) (plan : Plan) :
    Regular interval plan (dueAt interval plan) (startAt interval plan) where
  first := ⟨rfl, rfl⟩
  next_due n := by
    rw [dueAt_succ]
    unfold Task.dueAfter
    by_cases hlate : dueAt interval plan n + Task.tolerance < startAt interval plan n
    · rw [if_pos hlate, if_neg (by omega)]
    · rw [if_neg hlate, if_pos (by omega)]
  next_start n := startAt_succ n
  apart n := endAt_le_startAt_succ n
  spaced n := by
    have hstart : dueAt interval plan (n + 1) ≤ startAt interval plan (n + 1) :=
      dueAt_le_startAt (n + 1)
    rw [dueAt_succ] at hstart
    unfold Task.dueAfter at hstart
    split at hstart
    · omega
    · omega
  steady n h := (startAt_of_short n h).2

/-- The marks of the cycles up to one, which have all ended; last first. -/
def agenda (interval : Nat) (plan : Plan) : Nat → List Mark
  | 0 => []
  | n + 1 =>
    .ended n (endAt interval plan n) :: .started n (startAt interval plan n) ::
      agenda interval plan n

theorem mem_agenda {mark : Mark} {n : Nat} :
    mark ∈ agenda interval plan n ↔
      ∃ m, m < n ∧ (mark = .started m (startAt interval plan m) ∨
        mark = .ended m (endAt interval plan m)) := by
  induction n with
  | zero => simp [agenda]
  | succ n ih =>
    simp only [agenda, List.mem_cons, ih]
    constructor
    · rintro (rfl | rfl | ⟨m, hm, h⟩)
      · exact ⟨n, Nat.lt_succ_self n, .inr rfl⟩
      · exact ⟨n, Nat.lt_succ_self n, .inl rfl⟩
      · exact ⟨m, Nat.lt_succ_of_lt hm, h⟩
    · rintro ⟨m, hm, h⟩
      rcases Nat.lt_succ_iff_lt_or_eq.1 hm with hm | rfl
      · exact .inr (.inr ⟨m, hm, h⟩)
      · rcases h with h | h
        · exact .inr (.inl h)
        · exact .inl h

theorem started_mem_agenda {m n time : Nat} :
    Mark.started m time ∈ agenda interval plan n ↔ m < n ∧ time = startAt interval plan m := by
  rw [mem_agenda]
  constructor
  · rintro ⟨k, hk, h⟩
    obtain ⟨rfl, rfl⟩ : m = k ∧ time = startAt interval plan k := by simpa using h
    exact ⟨hk, rfl⟩
  · rintro ⟨hm, rfl⟩
    exact ⟨m, hm, .inl rfl⟩

theorem ended_mem_agenda {m n time : Nat} :
    Mark.ended m time ∈ agenda interval plan n ↔ m < n ∧ time = endAt interval plan m := by
  rw [mem_agenda]
  constructor
  · rintro ⟨k, hk, h⟩
    obtain ⟨rfl, rfl⟩ : m = k ∧ time = endAt interval plan k := by simpa using h
    exact ⟨hk, rfl⟩
  · rintro ⟨hm, rfl⟩
    exact ⟨m, hm, .inr rfl⟩

/-! ### Tasks that keep to it -/

namespace Task

/-- When the next step of a task is taken. -/
def upcoming (t : Task) : Nat :=
  match t.phase with
  | .waiting due => max due t.now
  | .running _ ends _ => ends
  | .finished => t.now

/-- When the next tick is due. -/
def pending (t : Task) : Nat :=
  match t.phase with
  | .waiting due => due
  | .running _ _ due => due
  | .finished => t.now

/-- Whether all steps up to now have been taken. -/
def Settled (t : Task) : Prop := t.now < t.upcoming

/-- Where the schedule has a task that nobody has cancelled. -/
inductive Placed (interval : Nat) (plan : Plan) (t : Task) : Prop where
  /-- It waits for the tick of a cycle. -/
  | waiting (n : Nat) (hphase : t.phase = .waiting (dueAt interval plan n)) (hcount : t.started = n)
      (hnext : max (dueAt interval plan n) t.now = startAt interval plan n)
      (hover : ∀ m, m < n → endAt interval plan m ≤ t.now)
      (hmarks : t.marks = agenda interval plan n)
  /-- A cycle is under way. -/
  | running (n : Nat)
      (hphase : t.phase = .running n (endAt interval plan n) (dueAt interval plan (n + 1)))
      (hcount : t.started = n + 1)
      (hbegun : startAt interval plan n ≤ t.now) (hlast : t.now ≤ endAt interval plan n)
      (hmarks : t.marks = .started n (startAt interval plan n) :: agenda interval plan n)

/-- A task that keeps to the schedule. -/
structure OnSchedule (interval : Nat) (plan : Plan) (t : Task) : Prop where
  /-- It has the interval of the schedule. -/
  same : t.interval = interval
  /-- It has not been cancelled. -/
  free : t.cancelled = false
  /-- It is where the schedule has it. -/
  placed : Placed interval plan t

theorem onSchedule_start (h : 1 ≤ interval) : OnSchedule interval plan (start interval) := by
  have hpos : interval ≠ 0 := by omega
  have hphase : (start interval).phase = .waiting interval := if_neg hpos
  refine ⟨rfl, rfl, .waiting 0 hphase rfl ?_ ?_ rfl⟩
  · exact Nat.max_eq_left (Nat.zero_le interval)
  · intro m hm
    exact absurd hm (Nat.not_lt_zero m)

theorem settled_start (h : 1 ≤ interval) : (start interval).Settled := by
  have hpos : interval ≠ 0 := by omega
  have hphase : (start interval).phase = .waiting interval := if_neg hpos
  unfold Settled upcoming
  rw [hphase]
  exact Nat.lt_of_lt_of_le h (Nat.le_max_left interval 0)

variable {t : Task}

/-- A number of steps that are left at most up to a time, if all steps before a base have been
taken: each tick is due later than the one before, and from the base on it is not overdue by more
than the tolerance. -/
def stepsLeft (base limit : Nat) (t : Task) : Nat :=
  2 * (limit + 1 - max t.pending (base - tolerance)) +
    match t.phase with
    | .running _ _ _ => 1
    | _ => 0

/-! ### Steps -/

/-- When a tick is taken, fewer steps are left: the tick after it is due later, and not long before
the base. -/
theorem stepsLeft_tick {due base limit : Nat} (hi : 1 ≤ t.interval) (hphase : t.phase = .waiting due)
    (hbase : base ≤ t.now) (hlimit : max due t.now ≤ limit) :
    (t.tick plan due (max due t.now)).stepsLeft base limit < t.stepsLeft base limit := by
  have hlater : due < dueAfter t.interval due (max due t.now) ∧
      base - tolerance < dueAfter t.interval due (max due t.now) := by
    unfold dueAfter
    split
    · omega
    · omega
  have hleft : (t.tick plan due (max due t.now)).stepsLeft base limit = 2 * (limit + 1 -
      max (dueAfter t.interval due (max due t.now)) (base - tolerance)) + 1 := rfl
  rw [hleft]
  unfold stepsLeft pending
  rw [hphase]
  simp only
  omega

/-- When a cycle ends and the task goes on, fewer steps are left. -/
theorem stepsLeft_endCycle {cycle ends due base limit : Nat}
    (hphase : t.phase = .running cycle ends due) (hp : (plan cycle).ending = .proceed) :
    (t.endCycle plan cycle ends due).stepsLeft base limit < t.stepsLeft base limit := by
  have hleft : (t.endCycle plan cycle ends due).stepsLeft base limit =
      2 * (limit + 1 - max due (base - tolerance)) := by
    unfold stepsLeft pending endCycle
    simp only
    rw [if_pos hp]
    rfl
  rw [hleft]
  unfold stepsLeft pending
  rw [hphase]
  simp only
  omega

/-- The tick of a cycle is taken when the schedule has its start, and leaves the task on
schedule. -/
theorem next_of_waiting {n : Nat} (h : OnSchedule interval plan t)
    (hphase : t.phase = .waiting (dueAt interval plan n)) (hcount : t.started = n)
    (hnext : max (dueAt interval plan n) t.now = startAt interval plan n)
    (hmarks : t.marks = agenda interval plan n) (wins : Bool) :
    t.next plan wins =
        some (t.upcoming, t.tick plan (dueAt interval plan n) (startAt interval plan n)) ∧
      OnSchedule interval plan (t.tick plan (dueAt interval plan n) (startAt interval plan n)) := by
  have hup : t.upcoming = startAt interval plan n := by
    unfold upcoming
    rw [hphase]
    exact hnext
  constructor
  · have htime : Nat.max (dueAt interval plan n) t.now = startAt interval plan n := hnext
    unfold next
    simp only [hphase, h.free, Bool.false_and, Bool.false_eq_true, if_false]
    rw [htime, hup]
  · refine ⟨h.same, h.free, .running n ?_ ?_ (Nat.le_refl _) (startAt_le_endAt n) ?_⟩
    · show Phase.running t.started (startAt interval plan n + (plan t.started).duration)
        (dueAfter t.interval (dueAt interval plan n) (startAt interval plan n)) = _
      rw [hcount, h.same]
      rfl
    · show t.started + 1 = n + 1
      rw [hcount]
    · show Mark.started t.started (startAt interval plan n) :: t.marks = _
      rw [hcount, hmarks]

/-- A cycle ends when the schedule has its end, and leaves the task on schedule. -/
theorem next_of_running {n : Nat} (hp : ∀ n, (plan n).ending = .proceed)
    (h : OnSchedule interval plan t)
    (hphase : t.phase = .running n (endAt interval plan n) (dueAt interval plan (n + 1)))
    (hcount : t.started = n + 1)
    (hmarks : t.marks = .started n (startAt interval plan n) :: agenda interval plan n)
    (wins : Bool) :
    t.next plan wins =
        some (t.upcoming, t.endCycle plan n (endAt interval plan n) (dueAt interval plan (n + 1))) ∧
      OnSchedule interval plan
        (t.endCycle plan n (endAt interval plan n) (dueAt interval plan (n + 1))) := by
  constructor
  · unfold next upcoming
    simp only [hphase]
  · refine ⟨h.same, h.free, .waiting (n + 1) ?_ hcount ?_ ?_ ?_⟩
    · show (if (plan n).ending = .proceed then _ else Phase.finished) = _
      rw [if_pos (hp n)]
    · exact (startAt_succ n).symm
    · intro m hm
      exact endAt_mono (Nat.le_of_lt_succ hm)
    · show (if (plan n).ending = .collapse then t.marks
        else Mark.ended n (endAt interval plan n) :: t.marks) = _
      rw [if_neg (by rw [hp n]; decide), hmarks]
      rfl

/-- A task on schedule always has a next step, which is not in the past, keeps it on schedule
and leaves fewer steps. -/
theorem OnSchedule.next (h : OnSchedule interval plan t) (hi : 1 ≤ interval)
    (hp : ∀ n, (plan n).ending = .proceed) (wins : Bool) :
    ∃ after, t.next plan wins = some (t.upcoming, after) ∧ OnSchedule interval plan after ∧
      t.now ≤ t.upcoming ∧ after.now = t.upcoming ∧
      ∀ base limit, base ≤ t.now → t.upcoming ≤ limit →
        after.stepsLeft base limit < t.stepsLeft base limit := by
  cases h.placed with
  | waiting n hphase hcount hnext hover hmarks =>
    obtain ⟨hstep, hafter⟩ := next_of_waiting h hphase hcount hnext hmarks wins
    have hup : t.upcoming = startAt interval plan n := by
      unfold upcoming
      rw [hphase]
      exact hnext
    refine ⟨_, hstep, hafter, by rw [hup]; omega, hup.symm, ?_⟩
    intro base limit hbase hlimit
    rw [← hnext]
    refine stepsLeft_tick (by rw [h.same]; exact hi) hphase hbase ?_
    rw [hnext, ← hup]
    exact hlimit
  | running n hphase hcount hbegun hlast hmarks =>
    obtain ⟨hstep, hafter⟩ := next_of_running hp h hphase hcount hmarks wins
    have hup : t.upcoming = endAt interval plan n := by
      unfold upcoming
      rw [hphase]
    refine ⟨_, hstep, hafter, by rw [hup]; exact hlast, hup.symm, ?_⟩
    intro base limit _ _
    exact stepsLeft_endCycle hphase (hp n)

/-! ### Runs -/

/-- A task without steps left has taken all steps up to the limit. -/
theorem OnSchedule.lt_upcoming (h : OnSchedule interval plan t) {base limit : Nat}
    (hbase : base ≤ limit) (hleft : t.stepsLeft base limit = 0) : limit < t.upcoming := by
  cases h.placed with
  | waiting n hphase hcount hnext hover hmarks =>
    unfold stepsLeft pending at hleft
    rw [hphase] at hleft
    simp only at hleft
    unfold upcoming
    rw [hphase]
    simp only
    omega
  | running n hphase hcount hbegun hlast hmarks =>
    unfold stepsLeft at hleft
    rw [hphase] at hleft
    simp only at hleft
    omega

/-- With fuel for the steps that are left, all steps up to the limit are taken. -/
theorem stepsUntil_settles (hi : 1 ≤ interval) (hp : ∀ n, (plan n).ending = .proceed)
    (choice : Nat → Bool) {base limit fuel : Nat} (h : OnSchedule interval plan t)
    (hbase : base ≤ t.now) (hnow : t.now ≤ limit) (hfuel : t.stepsLeft base limit ≤ fuel) :
    OnSchedule interval plan (t.stepsUntil plan choice limit fuel) ∧
      (t.stepsUntil plan choice limit fuel).now ≤ limit ∧
      limit < (t.stepsUntil plan choice limit fuel).upcoming := by
  induction fuel generalizing t with
  | zero =>
    have hnone : t.stepsLeft base limit = 0 := by omega
    exact ⟨h, hnow, h.lt_upcoming (Nat.le_trans hbase hnow) hnone⟩
  | succ fuel ih =>
    obtain ⟨after, hstep, hafter, hlater, htime, hfewer⟩ := h.next hi hp (choice t.started)
    unfold stepsUntil
    rw [hstep]
    simp only
    by_cases hlimit : t.upcoming ≤ limit
    · rw [if_pos hlimit]
      have hless := hfewer base limit hbase hlimit
      exact ih hafter (by omega) (by omega) (by omega)
    · rw [if_neg hlimit]
      exact ⟨h, hnow, by omega⟩

/-- Time passes without a step. -/
theorem OnSchedule.rest (h : OnSchedule interval plan t) {time : Nat} (hnow : t.now ≤ time)
    (hup : time < t.upcoming) : OnSchedule interval plan (t.rest time) ∧ (t.rest time).Settled := by
  cases h.placed with
  | waiting n hphase hcount hnext hover hmarks =>
    -- the rest ends before the next tick is due
    have hdue : time < dueAt interval plan n := by
      unfold upcoming at hup
      rw [hphase] at hup
      simp only at hup
      omega
    constructor
    · refine ⟨h.same, h.free, .waiting n hphase hcount ?_ ?_ hmarks⟩
      · show max (dueAt interval plan n) time = startAt interval plan n
        omega
      · intro m hm
        exact Nat.le_trans (hover m hm) hnow
    · show time < upcoming (t.rest time)
      unfold upcoming Task.rest
      rw [hphase]
      simp only
      omega
  | running n hphase hcount hbegun hlast hmarks =>
    -- the rest ends before the cycle does
    have hends : time < endAt interval plan n := by
      unfold upcoming at hup
      rw [hphase] at hup
      exact hup
    constructor
    · refine ⟨h.same, h.free, .running n hphase hcount ?_ ?_ hmarks⟩
      · exact Nat.le_trans hbegun hnow
      · exact Nat.le_of_lt hends
    · show time < upcoming (t.rest time)
      unfold upcoming Task.rest
      rw [hphase]
      exact hends

/-- Some time later the task is on schedule still, and has taken all steps. -/
theorem OnSchedule.sleep (h : OnSchedule interval plan t) (hi : 1 ≤ interval)
    (hp : ∀ n, (plan n).ending = .proceed) (choice : Nat → Bool) (ms : Nat) :
    OnSchedule interval plan (t.sleep plan choice ms) ∧ (t.sleep plan choice ms).Settled := by
  -- what was due before now has been taken, so the bound is enough fuel
  have hfuel : t.stepsLeft t.now (t.now + ms) ≤ stepBound ms := by
    unfold stepsLeft stepBound tolerance
    cases t.phase with
    | waiting due => simp only; omega
    | running cycle ends due => simp only; omega
    | finished => simp only; omega
  obtain ⟨hafter, hnow, hup⟩ := stepsUntil_settles hi hp choice h (Nat.le_refl t.now)
    (Nat.le_add_right t.now ms) hfuel
  exact hafter.rest hnow hup

/-- A task after some time has passed, and again some time. -/
def sleepAll (plan : Plan) (choice : Nat → Bool) (t : Task) (naps : List Nat) : Task :=
  naps.foldl (fun t ms => t.sleep plan choice ms) t

theorem OnSchedule.sleepAll (h : OnSchedule interval plan t) (hs : t.Settled) (hi : 1 ≤ interval)
    (hp : ∀ n, (plan n).ending = .proceed) (choice : Nat → Bool) (naps : List Nat) :
    OnSchedule interval plan (t.sleepAll plan choice naps) ∧
      (t.sleepAll plan choice naps).Settled ∧
      (t.sleepAll plan choice naps).now = t.now + naps.sum := by
  induction naps generalizing t with
  | nil => exact ⟨h, hs, rfl⟩
  | cons ms rest ih =>
    obtain ⟨hafter, hsettled⟩ := h.sleep hi hp choice ms
    obtain ⟨hend, hrest, hnow⟩ := ih hafter hsettled
    refine ⟨hend, hrest, ?_⟩
    have htime : (t.sleep plan choice ms).now = t.now + ms := rfl
    rw [List.sum_cons, ← Nat.add_assoc, ← htime]
    exact hnow

/-! ### What a task has done -/

/-- The marks of a task up to now. -/
structure Keeps (interval : Nat) (plan : Plan) (t : Task) : Prop where
  /-- The cycles took turns: each one has ended before the next one started. -/
  turns : ∃ n, t.marks = agenda interval plan n ∨
    t.marks = .started n (startAt interval plan n) :: agenda interval plan n
  /-- A cycle has started if its time has come, and then it started at its time. -/
  starts : ∀ n time, Mark.started n time ∈ t.marks ↔
    time = startAt interval plan n ∧ time ≤ t.now
  /-- So it is with the ends. -/
  ends : ∀ n time, Mark.ended n time ∈ t.marks ↔ time = endAt interval plan n ∧ time ≤ t.now

/-- A task on schedule that has taken all steps has done what the schedule has up to now. -/
theorem OnSchedule.keeps (h : OnSchedule interval plan t) (hs : t.Settled) :
    Keeps interval plan t := by
  cases h.placed with
  | waiting n hphase hcount hnext hover hmarks =>
    have hup : t.now < startAt interval plan n := by
      unfold Settled upcoming at hs
      rw [hphase] at hs
      rw [← hnext]
      exact hs
    refine ⟨⟨n, .inl hmarks⟩, ?_, ?_⟩
    · intro m time
      rw [hmarks, started_mem_agenda]
      constructor
      · rintro ⟨hm, rfl⟩
        exact ⟨rfl, Nat.le_trans (startAt_le_endAt m) (hover m hm)⟩
      · rintro ⟨rfl, htime⟩
        exact ⟨lt_of_startAt_lt (Nat.lt_of_le_of_lt htime hup), rfl⟩
    · intro m time
      rw [hmarks, ended_mem_agenda]
      constructor
      · rintro ⟨hm, rfl⟩
        exact ⟨rfl, hover m hm⟩
      · rintro ⟨rfl, htime⟩
        have hbegun : startAt interval plan m ≤ t.now := Nat.le_trans (startAt_le_endAt m) htime
        exact ⟨lt_of_startAt_lt (Nat.lt_of_le_of_lt hbegun hup), rfl⟩
  | running n hphase hcount hbegun hlast hmarks =>
    have hup : t.now < endAt interval plan n := by
      unfold Settled upcoming at hs
      rw [hphase] at hs
      exact hs
    refine ⟨⟨n, .inr hmarks⟩, ?_, ?_⟩
    · intro m time
      rw [hmarks, List.mem_cons, Mark.started.injEq, started_mem_agenda]
      constructor
      · rintro (⟨rfl, rfl⟩ | ⟨hm, rfl⟩)
        · exact ⟨rfl, hbegun⟩
        · exact ⟨rfl, Nat.le_trans (startAt_mono (Nat.le_of_lt hm)) hbegun⟩
      · rintro ⟨rfl, htime⟩
        rcases Nat.lt_trichotomy m n with hm | rfl | hm
        · exact .inr ⟨hm, rfl⟩
        · exact .inl ⟨rfl, rfl⟩
        · -- a later cycle starts when this one has ended
          have hlate : endAt interval plan n ≤ startAt interval plan m := endAt_le_startAt hm
          omega
    · intro m time
      rw [hmarks, List.mem_cons, ended_mem_agenda]
      simp only [reduceCtorEq, false_or]
      constructor
      · rintro ⟨hm, rfl⟩
        exact ⟨rfl, Nat.le_trans (endAt_le_startAt hm) hbegun⟩
      · rintro ⟨rfl, htime⟩
        exact ⟨lt_of_endAt_lt (Nat.lt_of_le_of_lt htime hup), rfl⟩

/-- A poll task that nobody stops, and whose cycles all go on, keeps to the schedule, whatever its
interval and however long its cycles take: after any stretches of time its marks are those of the
cycles whose time has come, each at its time. The schedule starts the first cycle after one
interval, and each further one when it is due and the one before has ended; it never makes two
cycles overlap or come closer than an interval less the tolerance; and where no cycle has taken
longer than an interval, the next starts at the exact multiple. -/
theorem starts_on_schedule (hi : 1 ≤ interval) (hp : ∀ n, (plan n).ending = .proceed) :
    Regular interval plan (dueAt interval plan) (startAt interval plan) ∧
    ∀ (choice : Nat → Bool) (naps : List Nat),
      ((start interval).sleepAll plan choice naps).now = naps.sum ∧
      Keeps interval plan ((start interval).sleepAll plan choice naps) := by
  refine ⟨regular_slot interval plan, fun choice naps => ?_⟩
  obtain ⟨hend, hsettled, hnow⟩ :=
    (onSchedule_start hi).sleepAll (settled_start hi) hi hp choice naps
  refine ⟨?_, hend.keeps hsettled⟩
  rw [hnow]
  exact Nat.zero_add naps.sum

/-- Cycles of which one takes very long and the next one makes up for a little of it. -/
def overrun : Plan := Plan.ofList [⟨35, .proceed⟩, ⟨3, .proceed⟩, ⟨14, .proceed⟩]

theorem proceeds_overrun (n : Nat) : (overrun n).ending = .proceed := by
  match n with
  | 0 => rfl
  | 1 => rfl
  | 2 => rfl
  | n + 3 => rfl

/-- After a cycle that overran by far the ticks are moved; after one that overran by less than the
tolerance they are not, and the cycle that follows comes early. -/
theorem starts_on_schedule_overrun :
    1 ≤ 10 ∧ (∀ n, (overrun n).ending = .proceed) ∧
    Mark.started 2 55 ∈ ((start 10).sleepAll overrun (fun _ => true) [30, 52]).marks ∧
    Mark.started 3 69 ∈ ((start 10).sleepAll overrun (fun _ => true) [30, 52]).marks ∧
    Mark.started 4 75 ∈ ((start 10).sleepAll overrun (fun _ => true) [30, 52]).marks ∧
    Mark.started 5 85 ∉ ((start 10).sleepAll overrun (fun _ => true) [30, 52]).marks := by
  obtain ⟨-, hrun⟩ := starts_on_schedule (by decide : 1 ≤ 10) proceeds_overrun
  obtain ⟨hnow, hkeeps⟩ := hrun (fun _ => true) [30, 52]
  have htime : ((start 10).sleepAll overrun (fun _ => true) [30, 52]).now = 82 := hnow
  have hstarts := hkeeps.starts
  rw [htime] at hstarts
  refine ⟨by decide, proceeds_overrun, (hstarts 2 55).2 ?_, (hstarts 3 69).2 ?_,
    (hstarts 4 75).2 ?_, ?_⟩
  · decide
  · decide
  · decide
  · rw [hstarts]
    decide

end Task

end Admission.Poller

/-!
# Pollers — cycles at regular times

  A poll task makes one cycle per tick. The first tick is due one interval after the
  task starts, and a cycle runs to its end before the next tick is taken. Each tick is
  due one interval after the one before was due; but if that one was taken too late,
  one interval after it was taken, so that missed ticks are not made up for.

  Whoever holds the handle of a task can stop it: the task is cancelled, a cycle under
  way gets some time to end, and after that it is broken off. To drop the handle only
  cancels the task. A cancelled task that waits for a tick finishes; if the tick is
  overdue at that moment either may win, so the outcome is a parameter of the steps.

  Times are milliseconds of a clock that starts at zero.
-/

namespace Admission.Poller

/-! ### Cycles -/

/-- What comes after a cycle. -/
inductive Ending where
  /-- The task goes on. -/
  | proceed
  /-- The task finishes. -/
  | stop
  /-- The cycle breaks down and the task with it. -/
  | collapse
  deriving DecidableEq, Repr, Inhabited

/-- A cycle as it will be. -/
structure Cycle where
  /-- How long the cycle takes. -/
  duration : Nat := 0
  /-- What comes after it. -/
  ending : Ending := .proceed
  deriving DecidableEq, Repr, Inhabited

/-- The cycles of a task, by number. -/
abbrev Plan := Nat → Cycle

/-- The plan of the given cycles; those after them take no time. -/
def Plan.ofList (cycles : List Cycle) : Plan := fun n => cycles.getD n {}

/-! ### Tasks -/

/-- What a task does at a moment. -/
inductive Phase where
  /-- It waits for a tick. -/
  | waiting (due : Nat)
  /-- A cycle is under way; the tick after it has its time already. -/
  | running (cycle ends due : Nat)
  /-- It has finished. -/
  | finished
  deriving DecidableEq, Repr, Inhabited

/-- Something that a cycle wrote down. -/
inductive Mark where
  /-- A cycle started. -/
  | started (cycle time : Nat)
  /-- A cycle came to its end. -/
  | ended (cycle time : Nat)
  deriving DecidableEq, Repr

/-- A poll task. -/
structure Task where
  /-- The time between two ticks. -/
  interval : Nat
  /-- The time now. -/
  now : Nat := 0
  /-- What the task does. -/
  phase : Phase
  /-- How many cycles have started. -/
  started : Nat := 0
  /-- How many cycles are over, whichever way. -/
  ended : Nat := 0
  /-- Whether the task has been cancelled. -/
  cancelled : Bool := false
  /-- Whether somebody holds the handle. -/
  held : Bool := true
  /-- What cycles wrote down, last first. -/
  marks : List Mark := []
  deriving DecidableEq, Repr, Inhabited

namespace Task

/-- How late a tick may be taken without changing when the next one is due. -/
def tolerance : Nat := 5

/-- A task that starts at time zero; there are no ticks without a time between them. -/
def start (interval : Nat) : Task :=
  { interval, phase := if interval = 0 then .finished else .waiting interval }

/-- When the tick after one is due. -/
def dueAfter (interval due taken : Nat) : Nat :=
  -- a tick that is taken too late moves all those after it
  if due + tolerance < taken then taken + interval else due + interval

/-- The task after a tick was taken. -/
def tick (plan : Plan) (due time : Nat) (t : Task) : Task :=
  { t with
    now := time
    phase := .running t.started (time + (plan t.started).duration) (dueAfter t.interval due time)
    started := t.started + 1
    marks := .started t.started time :: t.marks }

/-- The task after a cycle came to its end. -/
def endCycle (plan : Plan) (cycle time due : Nat) (t : Task) : Task :=
  let ending := (plan cycle).ending
  { t with
    now := time
    phase := if ending = .proceed then .waiting due else .finished
    ended := t.ended + 1
    marks := if ending = .collapse then t.marks else .ended cycle time :: t.marks }

/-- The time of the next step of a task, and the task after it; a task that has finished
takes none. `tickWins` tells what a cancelled task does when a tick is overdue. -/
def next (plan : Plan) (tickWins : Bool) (t : Task) : Option (Nat × Task) :=
  match t.phase with
  | .finished => none
  | .running cycle ends due => some (ends, t.endCycle plan cycle ends due)
  | .waiting due =>
    -- a cancellation and an overdue tick are ready at once, and either may be seen first
    if t.cancelled && !(tickWins && due ≤ t.now) then some (t.now, { t with phase := .finished })
    else
      let time := Nat.max due t.now
      some (time, t.tick plan due time)

/-- The task at a later time. -/
def rest (time : Nat) (t : Task) : Task := { t with now := time }

/-- The task after its steps up to a time; `choice` tells for each number of cycles whether
an overdue tick wins over a cancellation. -/
def stepsUntil (plan : Plan) (choice : Nat → Bool) (limit : Nat) : Nat → Task → Task
  | 0, t => t
  | fuel + 1, t =>
    match t.next plan (choice t.started) with
    | none => t
    | some (time, after) => if time ≤ limit then stepsUntil plan choice limit fuel after else t

/-- A number of steps that a task cannot exceed in a time: every tick but the first is due
later than the one before, by at least one millisecond. -/
def stepBound (time : Nat) : Nat := 2 * (time + 10)

/-- The task after a number of milliseconds. -/
def sleep (plan : Plan) (choice : Nat → Bool) (ms : Nat) (t : Task) : Task :=
  (t.stepsUntil plan choice (t.now + ms) (stepBound ms)).rest (t.now + ms)

/-- The task after it was broken off at a time. -/
def breakOff (time : Nat) (t : Task) : Task :=
  match t.phase with
  | .finished => t
  | .running _ _ _ => { t with now := time, phase := .finished, ended := t.ended + 1 }
  | .waiting _ => { t with now := time, phase := .finished }

/-- The task without anybody who holds its handle. -/
def drop (t : Task) : Task := { t with cancelled := true, held := false }

/-- The task after it was stopped: a cycle under way ends or, after a number of
milliseconds, is broken off. Nothing is done without the handle. -/
def stop (plan : Plan) (choice : Nat → Bool) (timeout : Nat) (t : Task) : Task :=
  if !t.held then t
  else
    let limit := t.now + timeout
    -- the task goes on until it sees the cancellation; what is under way at the limit is lost
    (t.drop.stepsUntil plan choice limit (stepBound timeout)).breakOff limit

/-- Whether the task has finished, as the holder of the handle sees it. -/
def isFinished (t : Task) : Option Bool :=
  if t.held then some (t.phase = .finished) else none

/-! ### Small laws -/

/-- What the next step of a task can be, with its time and the task after it. -/
inductive Stepped (plan : Plan) (tickWins : Bool) (t : Task) : Nat → Task → Prop where
  /-- A tick is taken; if the task has been cancelled it must be overdue and win. -/
  | taken {due : Nat} (hphase : t.phase = .waiting due)
      (hwins : t.cancelled = true → tickWins = true ∧ due ≤ t.now) :
      Stepped plan tickWins t (max due t.now) (t.tick plan due (max due t.now))
  /-- The task sees that it has been cancelled. -/
  | left {due : Nat} (hphase : t.phase = .waiting due) (hcancelled : t.cancelled = true)
      (hlost : ¬ (tickWins = true ∧ due ≤ t.now)) :
      Stepped plan tickWins t t.now { t with phase := .finished }
  /-- The cycle under way comes to its end. -/
  | ended {cycle ends due : Nat} (hphase : t.phase = .running cycle ends due) :
      Stepped plan tickWins t ends (t.endCycle plan cycle ends due)

theorem next_eq_some_iff {plan : Plan} {tickWins : Bool} {t after : Task} {time : Nat} :
    t.next plan tickWins = some (time, after) ↔ Stepped plan tickWins t time after := by
  constructor
  · intro h
    unfold next at h
    split at h
    · cases h
    · next hphase =>
      cases h
      exact .ended hphase
    · next due hphase =>
      -- a waiting task leaves if it is cancelled and no due tick wins against that
      split at h
      · next hleft =>
        cases h
        simp only [Bool.and_eq_true, Bool.not_eq_true', Bool.and_eq_false_imp,
          decide_eq_false_iff_not] at hleft
        exact .left hphase hleft.1 fun hwon => hleft.2 hwon.1 hwon.2
      · next htaken =>
        cases h
        refine .taken hphase fun hcancelled => ?_
        simpa [hcancelled] using htaken
  · intro h
    unfold next
    cases h with
    | @taken due hphase hwins =>
      simp only [hphase]
      have htaken : (t.cancelled && !(tickWins && decide (due ≤ t.now))) = false := by
        cases hcancelled : t.cancelled with
        | false => rfl
        | true => simp [hwins hcancelled]
      rw [if_neg (by rw [htaken]; decide)]
    | @left due hphase hcancelled hlost =>
      simp only [hphase]
      have hleft : (t.cancelled && !(tickWins && decide (due ≤ t.now))) = true := by
        rw [hcancelled, Bool.true_and, Bool.not_eq_true', Bool.and_eq_false_imp]
        intro hwins
        exact decide_eq_false fun hdue => hlost ⟨hwins, hdue⟩
      rw [if_pos hleft]
    | ended hphase => simp only [hphase]

/-- A task that has not finished always has a next step. -/
theorem next_eq_none_iff {plan : Plan} {tickWins : Bool} {t : Task} :
    t.next plan tickWins = none ↔ t.phase = .finished := by
  unfold next
  cases t.phase with
  | finished => simp
  | running cycle ends due => simp
  | waiting due =>
    simp only [reduceCtorEq, iff_false]
    split
    · simp
    · simp

/-- A step of a task brings it to the time of the step. -/
theorem next_now {plan : Plan} {tickWins : Bool} {t after : Task} {time : Nat}
    (h : t.next plan tickWins = some (time, after)) : after.now = time := by
  cases next_eq_some_iff.1 h with
  | taken hphase hwins => rfl
  | left hphase hcancelled hlost => rfl
  | ended hphase => rfl

theorem breakOff_phase (t : Task) (time : Nat) : (t.breakOff time).phase = .finished := by
  unfold breakOff
  split
  · assumption
  · rfl
  · rfl

/-- Breaking a task off leaves what its cycles wrote down. -/
theorem breakOff_marks (t : Task) (time : Nat) : (t.breakOff time).marks = t.marks := by
  unfold breakOff
  split
  · rfl
  · rfl
  · rfl

/-- Breaking a task off starts no cycle. -/
theorem breakOff_started (t : Task) (time : Nat) : (t.breakOff time).started = t.started := by
  unfold breakOff
  split
  · rfl
  · rfl
  · rfl

theorem breakOff_finished {t : Task} {time : Nat} (h : t.phase = .finished) :
    t.breakOff time = t := by
  unfold breakOff
  rw [h]

/-- To break a task off at a time is to let it rest until then, and to break it off. -/
theorem breakOff_rest {t : Task} {time : Nat} (h : t.phase ≠ .finished) :
    (t.rest time).breakOff time = t.breakOff time := by
  unfold breakOff rest
  cases hphase : t.phase with
  | finished => exact absurd hphase h
  | running cycle ends due => rfl
  | waiting due => rfl

end Task

end Admission.Poller

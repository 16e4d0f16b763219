import Admission.Poller
import Admission.Proofs.Files.Replace
import Admission.Proofs.Store.Telling

/-!
# Lifetimes — a store with its poll tasks and the world around it

  Over its lifetime a store is opened and closed again and again, and while it is open a
  poll task may look after it. A task goes through its phases as `Poller` has them: it
  waits for a tick, a cycle begins with a sample of what was seen last, and when the cycle
  ends it concludes with what it has read. In between anything may happen to the store and
  to the world around it, and closing has to wait for the cycle or to break it off.

  What requests to remote stores come to is part of the world and changes with it. A cycle
  that nothing disturbs is `pollCycle` (`takeTurn_twice`).
-/

namespace Admission

/-! ### The world around a store -/

/-- What a store reads from. -/
structure World where
  /-- The files. -/
  files : Files
  /-- The remote stores. -/
  web : Web

/-- Where a store is, if its settings say so. -/
def FileSettings.resolved? (settings : FileSettings) : Option Location :=
  settings.location?.bind fun url => (Location.resolve url settings.resources).toOption

namespace FileStore

/-- Where an open store is. -/
def place (s : FileStore) : Option Location := s.opened.map OpenFile.location

/-- A store that was loaded is where its settings say. -/
theorem place_of_load {web : Web} {fs : Files} {settings : FileSettings} {o : OpenFile}
    (h : load web fs settings = .ok o) : settings.resolved? = some o.location := by
  obtain ⟨url, location, r, hurl, hresolve, -, rfl⟩ := load_eq_ok h
  unfold FileSettings.resolved?
  rw [hurl, Option.bind_some, hresolve]
  rfl

end FileStore

/-! ### Poll tasks at work -/

/-- A poll task of a store. -/
structure Poll where
  /-- How many tasks there were before. -/
  number : Nat
  /-- What the task does. -/
  task : Poller.Task
  /-- What the store had seen last when the cycle began, if it was open then. -/
  sampled : Option Fingerprint := none

/-- Whether the task runs. -/
def Poll.isRunning (p : Poll) : Bool := p.task.phase != .finished

/-- A store over its lifetime. -/
structure Lifetime where
  /-- What the store reads from. -/
  world : World
  /-- The store. -/
  store : FileStore
  /-- All its poll tasks, those that have finished among them. -/
  polls : List Poll := []

namespace Lifetime

/-- The lifetime of a store before it is opened for the first time. -/
def new (settings : FileSettings) (world : World) : Lifetime := { world, store := { settings } }

/-- The poll tasks that run. -/
def running (l : Lifetime) : List Poll := l.polls.filter Poll.isRunning

/-- The lifetime with another state of one task. -/
def put (p : Poll) (l : Lifetime) : Lifetime :=
  { l with polls := l.polls.map fun q => if q.number = p.number then p else q }

/-- The lifetime after something was done with the task that the store holds. -/
def withHeld (f : Poller.Task → Poller.Task) (held : Option Nat) (l : Lifetime) : Lifetime :=
  { l with polls := l.polls.map fun q =>
      if held = some q.number then { q with task := f q.task } else q }

/-- What may turn out one way or the other when a task takes its next step. -/
structure Turn where
  /-- Whether a tick that is overdue wins over a cancellation. -/
  tickWins : Bool := false
  /-- How long a cycle takes that begins. -/
  duration : Nat := 0
  /-- What a cycle has read that ends, unless the file looked as it did. -/
  found : Option (Except Fault Reading) := none

/-- What happens to a store between opening and closing it. -/
inductive Move where
  /-- The store is changed. -/
  | change (c : Change)
  /-- The world changes from outside. -/
  | outside (world : World)
  /-- Time passes in which no task takes a step. -/
  | pass (milliseconds : Nat)
  /-- A task takes its next step: a tick is taken and a cycle begins, a cycle ends, or the task
  sees that it is cancelled. -/
  | turn (number : Nat) (t : Turn)

section
variable (digest : Digest) (source : String)

/-- What is told when a task takes its next step, and the lifetime after it. -/
def takeTurn (number : Nat) (t : Turn) (l : Lifetime) : Option ChangeEvent × Lifetime :=
  match l.polls.find? fun p => p.number == number with
  | none => (none, l)
  | some p =>
    match p.task.next (fun _ => { duration := t.duration }) t.tickWins with
    | none => (none, l)
    | some (_, task) =>
      match p.task.phase, p.sampled, t.found with
      | .running _ _ _, some sampled, some read =>
        let (event, store) := l.store.conclude digest source sampled read
        (event, { l with store }.put { p with task })
      | .running _ _ _, _, _ => (none, l.put { p with task })
      | _, _, _ =>
        let sampled := l.store.opened.map fun o => o.seen.fingerprint digest
        (none, l.put { p with task, sampled })

/-- What is told when something happens, and the lifetime after it. -/
def move (l : Lifetime) : Move → Option ChangeEvent × Lifetime
  | .change c =>
    let (outcome, files, store) := l.store.change source c l.world.files
    (ChangeEvent.ofOutcome outcome, { l with world := { l.world with files }, store })
  | .outside world => (none, { l with world })
  | .pass milliseconds =>
    (none, { l with polls := l.polls.map fun p =>
      { p with task := p.task.rest (p.task.now + milliseconds) } })
  | .turn number t => l.takeTurn digest source number t

/-- What is told when several things happen one after the other, and the lifetime after them. -/
def moves (l : Lifetime) : List Move → List ChangeEvent × Lifetime
  | [] => ([], l)
  | m :: ms =>
    let (event, l) := l.move digest source m
    let (events, l) := l.moves ms
    (event.toList ++ events, l)

/-! ### Opening and closing -/

/-- An attempt to open the store, and the lifetime after it. Where a task is started, one that the
store holds already loses its holder. -/
def opening (l : Lifetime) : Except Fault Unit × Lifetime :=
  let (outcome, store) := l.store.openStore l.world.web l.world.files
  if store.tasks.started = l.store.tasks.started then (outcome, { l with store })
  else
    let task := Poller.Task.start store.settings.refresh
    let l' := l.withHeld Poller.Task.drop l.store.tasks.held
    (outcome, { l' with store, polls := { number := l.store.tasks.started, task } :: l'.polls })

/-- The lifetime when closing has begun: the task that the store holds is cancelled. -/
def cancelled (l : Lifetime) : Lifetime := l.withHeld Poller.Task.drop l.store.tasks.held

/-- The lifetime when closing ends: the task is broken off if it still runs, and the store is
closed. -/
def brokenOff (l : Lifetime) : Lifetime :=
  { l.withHeld (fun task => task.breakOff task.now) l.store.tasks.held with
    store := l.store.closeStore }

/-- What is told while the store is closed, and the lifetime after it. While closing waits for the
task, things happen as before. -/
def closing (meanwhile : List Move) (l : Lifetime) : List ChangeEvent × Lifetime :=
  let (events, l) := l.cancelled.moves digest source meanwhile
  (events, l.brokenOff)

/-- What is done with a store. -/
inductive Act where
  /-- Something happens to it. -/
  | move (m : Move)
  /-- It is opened. -/
  | opening
  /-- It is closed. -/
  | closing (meanwhile : List Move)
  /-- It is closed and opened again. -/
  | reopening (meanwhile : List Move)

/-- What an act brings. -/
structure Outcome where
  /-- How opening went, if the store was to be opened. -/
  opened : Option (Except Fault Unit) := none
  /-- What was told. -/
  events : List ChangeEvent := []

/-- What an act brings, and the lifetime after it. -/
def step (l : Lifetime) : Act → Outcome × Lifetime
  | .move m =>
    let (event, l) := l.move digest source m
    ({ events := event.toList }, l)
  | .opening =>
    let (outcome, l) := l.opening
    ({ opened := some outcome }, l)
  | .closing meanwhile =>
    let (events, l) := l.closing digest source meanwhile
    ({ events }, l)
  | .reopening meanwhile =>
    let (events, l) := l.closing digest source meanwhile
    let (outcome, l) := l.opening
    ({ opened := some outcome, events }, l)

/-- What several acts bring one after the other, and the lifetime after them. -/
def run (l : Lifetime) : List Act → List Outcome × Lifetime
  | [] => ([], l)
  | act :: acts =>
    let (outcome, l) := l.step digest source act
    let (outcomes, l) := l.run acts
    (outcome :: outcomes, l)

/-! ### Whole cycles -/

/-- What a cycle has read that begins and ends without anything in between. -/
def findings (l : Lifetime) : Option (Except Fault Reading) :=
  l.store.opened.bind fun o =>
    if FileStore.looksUnchanged l.world.files o then none
    else some (o.location.read l.world.web l.world.files)

variable {digest source} {l : Lifetime} {number : Nat}

/-- A task is found under its number when all tasks change and keep their numbers. -/
theorem find?_map {polls : List Poll} {p : Poll} (f : Poll → Poll)
    (hf : ∀ p, (f p).number = p.number)
    (hp : polls.find? (fun p => p.number == number) = some p) :
    (polls.map f).find? (fun p => p.number == number) = some (f p) := by
  have hsame : (fun p : Poll => p.number == number) ∘ f = fun p => p.number == number := by
    funext p
    simp only [Function.comp, hf]
  rw [List.find?_map, hsame, hp, Option.map_some]

theorem find?_put {p q : Poll} (hp : l.polls.find? (fun p => p.number == number) = some p)
    (hq : q.number = p.number) : (l.put q).polls.find? (fun p => p.number == number) = some q := by
  have hnumbers : ∀ r : Poll, (if r.number = q.number then q else r).number = r.number := by
    intro r
    split
    · next hr => exact hr.symm
    · rfl
  have hfound := find?_map _ hnumbers hp
  rw [if_pos hq.symm] at hfound
  exact hfound

/-- A cycle that nothing disturbs is a whole cycle of the store. -/
theorem takeTurn_twice {p : Poll} {due : Nat}
    (hp : l.polls.find? (fun p => p.number == number) = some p)
    (hwaits : p.task.phase = .waiting due) (hfree : p.task.cancelled = false) (duration : Nat) :
    let began := (l.takeTurn digest source number { duration }).2
    let ended := began.takeTurn digest source number { found := l.findings }
    (ended.1, ended.2.store) = l.store.pollCycle digest source l.world.web l.world.files := by
  intro began ended
  -- the tick is taken, and what the store has seen is sampled
  have hbegan : began = l.put { p with
      task := p.task.tick (fun _ => { duration }) due (Nat.max due p.task.now)
      sampled := l.store.opened.map fun o => o.seen.fingerprint digest } := by
    show (l.takeTurn digest source number { duration }).2 = _
    unfold takeTurn Poller.Task.next
    simp only [hp, hwaits, hfree, Bool.false_and, Bool.false_eq_true, if_false]
  have hfind : began.polls.find? (fun p => p.number == number) = some { p with
      task := p.task.tick (fun _ => { duration }) due (Nat.max due p.task.now)
      sampled := l.store.opened.map fun o => o.seen.fingerprint digest } := by
    rw [hbegan]
    exact find?_put hp rfl
  have hstore : began.store = l.store := by
    rw [hbegan]
    rfl
  show ((began.takeTurn digest source number { found := l.findings }).1,
    (began.takeTurn digest source number { found := l.findings }).2.store) = _
  unfold takeTurn Poller.Task.next FileStore.pollCycle findings
  simp only [hfind, Poller.Task.tick, hstore]
  cases l.store.opened with
  | none => exact congrArg (Prod.mk none) hstore
  | some o =>
    by_cases hlooks : FileStore.looksUnchanged l.world.files o = true
    · simp only [hlooks, Option.bind_some, Option.map_some, if_true]
      exact congrArg (Prod.mk none) hstore
    · simp only [hlooks, Option.bind_some, Option.map_some, Bool.false_eq_true, if_false]
      rfl

end

end Lifetime

end Admission

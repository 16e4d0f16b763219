import Admission.Event

/-!
# Registries — who is told about a change

  A registry lists listeners in the order in which they were registered, each under an
  id that is never given twice. An event goes to the listeners that are registered when
  its delivery begins, each once and in that order, whatever they do meanwhile.

  What a listener may do when it is called is told by a list of acts: remove a
  registration, register another listener, deliver a further event before it returns,
  or fail, which ends its own acts and no other listener's. A `Circle` is a registry
  with the trail of everything that happened in it.
-/

namespace Admission

/-! ### Registrations -/

/-- The name of a registration. -/
structure ListenerId where
  /-- How many registrations came before. -/
  number : Nat
  deriving DecidableEq, Repr, Inhabited

/-- The listeners of a repository. -/
structure Registry (α : Type) where
  /-- The registered listeners, first registered first. -/
  listeners : List (ListenerId × α) := []
  /-- How many registrations there have been. -/
  given : Nat := 0
  deriving Repr, Inhabited

namespace Registry

variable {α : Type}

/-- The id of the next registration. -/
def nextId (r : Registry α) : ListenerId := ⟨r.given⟩

/-- The registry with one more listener. -/
def add (r : Registry α) (listener : α) : Registry α :=
  ⟨r.listeners ++ [(r.nextId, listener)], r.given + 1⟩

/-- Whether an id is registered. -/
def contains (r : Registry α) (id : ListenerId) : Bool := r.listeners.any fun l => l.1 == id

/-- The registry without an id. -/
def remove (r : Registry α) (id : ListenerId) : Registry α :=
  { r with listeners := r.listeners.filter fun l => l.1 != id }

/-- The number of registered listeners. -/
def size (r : Registry α) : Nat := r.listeners.length

/-- Whether no listener is registered. -/
def isEmpty (r : Registry α) : Bool := r.listeners.isEmpty

end Registry

/-! ### Listeners that act -/

/-- What a listener does when it is called. -/
inductive Act (α : Type) where
  /-- Takes a registration away. -/
  | remove (id : ListenerId)
  /-- Registers a listener. -/
  | add (listener : α)
  /-- Delivers a further event. -/
  | deliver (event : ChangeEvent)
  /-- Fails; what it would have done after that is not done. -/
  | fail

/-- Something that happened in a circle. -/
inductive Happening (α : Type) where
  /-- A listener was registered. -/
  | added (id : ListenerId) (listener : α)
  /-- A registration was to be taken away; tells whether it was there. -/
  | removed (id : ListenerId) (present : Bool)
  /-- A delivery began. -/
  | began (event : ChangeEvent)
  /-- A listener was called. -/
  | called (id : ListenerId) (listener : α) (event : ChangeEvent)
  /-- The listener that was called last and has not returned failed. -/
  | failed
  /-- The listener that was called last and has not returned did return. -/
  | returned (id : ListenerId)
  /-- A delivery came to its end. -/
  | ended (event : ChangeEvent)

/-- A registry with what happened in it. -/
structure Circle (α : Type) where
  /-- The registered listeners. -/
  registry : Registry α := {}
  /-- What happened, last first. -/
  trail : List (Happening α) := []
  deriving Inhabited

namespace Circle

variable {α : Type}

/-- The circle after something happened that changes no registration. -/
def note (c : Circle α) (h : Happening α) : Circle α := { c with trail := h :: c.trail }

/-- The circle with one more listener. -/
def add (c : Circle α) (listener : α) : Circle α :=
  ⟨c.registry.add listener, .added c.registry.nextId listener :: c.trail⟩

/-- The circle without an id. -/
def remove (c : Circle α) (id : ListenerId) : Circle α :=
  ⟨c.registry.remove id, .removed id (c.registry.contains id) :: c.trail⟩

/-- The id that was last given to a listener of some description, whether or not it is
still registered. -/
def lastGiven? (c : Circle α) (describes : α → Bool) : Option ListenerId :=
  c.trail.findSome? fun
    | .added id listener => if describes listener then some id else none
    | _ => none

/-- The circle after the acts of a listener, given how a further event is delivered. -/
def perform (deliver : ChangeEvent → Circle α → Option (Circle α)) :
    List (Act α) → Circle α → Option (Circle α)
  | [], c => some c
  | .remove id :: acts, c => perform deliver acts (c.remove id)
  | .add listener :: acts, c => perform deliver acts (c.add listener)
  | .deliver event :: acts, c => (deliver event c).bind (perform deliver acts)
  | .fail :: _, c => some (c.note .failed)

/-- How listeners behave: what one does about an event, as the circle is when it is
called. -/
abbrev Behaviour (α : Type) := Circle α → α → ChangeEvent → List (Act α)

/-- The circle after some listeners were called, one after the other. -/
def callAll (behaviour : Behaviour α) (deliver : ChangeEvent → Circle α → Option (Circle α))
    (event : ChangeEvent) : List (ListenerId × α) → Circle α → Option (Circle α)
  | [], c => some c
  | (id, listener) :: rest, c => do
    let called := c.note (.called id listener event)
    -- how a listener behaves may depend on what earlier ones did
    let after ← perform deliver (behaviour called listener event) called
    callAll behaviour deliver event rest (after.note (.returned id))

/-- The circle after the delivery of an event to the listeners that are registered now.
Deliveries may nest `depth` times; there is no result if they nest more often. -/
def dispatch (behaviour : Behaviour α) : Nat → ChangeEvent → Circle α → Option (Circle α)
  | 0, _, _ => none
  | depth + 1, event, c => do
    -- the list as it is now, whoever comes or goes from here on
    let after ← callAll behaviour (dispatch behaviour depth) event c.registry.listeners
      (c.note (.began event))
    some (after.note (.ended event))

end Circle

end Admission

import Admission.Registry
import Admission.Store.File
import Admission.Store.Stub

/-!
# Repositories — stores with listeners

  A repository is a store of one of three kinds together with the listeners that are
  told about its changes. Opening and closing it leaves the listeners registered.
-/

namespace Admission

/-- Who listens to a repository. -/
inductive Subscriber where
  /-- A listener that records every event. -/
  | recorder
  /-- A listener that records every event under its name, and then may fail. -/
  | observer (name : String) (fails : Bool)
  /-- The token table of a selector. -/
  | table (selector : String)
  deriving DecidableEq, Repr, Inhabited

/-- The store of a repository. -/
inductive Backing where
  /-- A store in memory. -/
  | memory (s : MemoryStore)
  /-- A store at a location. -/
  | file (s : FileStore)
  /-- A store that fails on demand. -/
  | stub (s : Stub)
  deriving DecidableEq, Inhabited

namespace Backing

/-- Whether the store has a location, as far as it needs one. -/
def isDefined : Backing → Bool
  | memory _ => true
  | file s => s.isDefined
  | stub s => !s.refusals.location

/-- Whether the store is open. -/
def isOpen : Backing → Bool
  | memory s => s.isOpen
  | file s => s.isOpen
  | stub s => s.store.isOpen

/-- The entries, while the store is open. -/
def snapshot : Backing → Except Fault Entries
  | memory s => s.snapshot
  | file s => s.snapshot
  | stub s => s.snapshot

/-- The value of a key, while the store is open. -/
def get? (key : String) : Backing → Except Fault (Option String)
  | stub s => s.store.snapshot.map fun entries => entries.get? key
  | b => b.snapshot.map fun entries => entries.get? key

/-- The keys, ascending, while the store is open. -/
def keys (b : Backing) : Except Fault (List String) := b.snapshot.map KeyMap.keys

/-- An attempt to open the store, and the store after it. -/
def openStore (web : Web) (fs : Files) : Backing → Except Fault Unit × Backing
  | memory s => (.ok (), memory s.opened)
  | file s =>
    let (outcome, s) := s.openStore web fs
    (outcome, file s)
  | stub s =>
    let (outcome, s) := s.opened
    (outcome, stub s)

/-- The store, closed. -/
def closeStore : Backing → Backing
  | memory s => memory s.closed
  | file s => file s.closeStore
  | stub s => stub s.closed

/-- The event that tells a change, if it comes to something, and the files and the store
after it. -/
def change (source : String) (c : Change) (fs : Files) :
    Backing → Except Fault (Option ChangeEvent) × Files × Backing
  | memory s =>
    let (outcome, s) := s.change source c
    (outcome, fs, memory s)
  | file s =>
    let (outcome, fs, s) := s.change source c fs
    (outcome, fs, file s)
  | stub s =>
    let (outcome, s) := s.change source c
    (outcome, fs, stub s)

/-- The event that a poll cycle tells, and the store after it. -/
def pollCycle (digest : Digest) (source : String) (web : Web) (fs : Files) :
    Backing → Option ChangeEvent × Backing
  | file s =>
    let (event, s) := s.pollCycle digest source web fs
    (event, file s)
  | b => (none, b)

end Backing

/-- A store with its listeners. -/
structure Repository where
  /-- The store. -/
  backing : Backing
  /-- Who is told about changes. -/
  listeners : Registry Subscriber := {}
  deriving Inhabited

namespace Repository

/-- A closed repository to which a recorder listens. -/
def recorded (backing : Backing) : Repository :=
  { backing, listeners := Registry.add {} .recorder }

/-- The repository with one more listener. -/
def listen (r : Repository) (who : Subscriber) : Repository :=
  { r with listeners := r.listeners.add who }

/-- The repository without a registration. -/
def unlisten (r : Repository) (id : ListenerId) : Repository :=
  { r with listeners := r.listeners.remove id }

end Repository

end Admission

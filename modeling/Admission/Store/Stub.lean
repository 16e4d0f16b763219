import Admission.Store.Memory

/-!
# Stubs — stores that fail on demand

  A stub takes the place of a store in a rehearsal. It holds entries like a store in
  memory, but it tells nobody about changes, and three switches make it refuse to be
  opened, refuse to be read, or look as if it had no location.
-/

namespace Admission

/-- What a stub refuses. -/
structure Refusals where
  /-- It cannot be opened. -/
  opening : Bool := false
  /-- It cannot be read. -/
  reading : Bool := false
  /-- It looks as if it had no location. -/
  location : Bool := false
  deriving DecidableEq, Repr, Inhabited

/-- A store that fails on demand. -/
structure Stub where
  /-- The entries. -/
  store : MemoryStore := {}
  /-- What it refuses now. -/
  refusals : Refusals := {}
  deriving DecidableEq, Inhabited

namespace Stub

/-- The entries, while the stub is open, unless it refuses. -/
def snapshot (s : Stub) : Except Fault Entries :=
  if s.refusals.reading then .error (.stated .io "snapshot refused") else s.store.snapshot

/-- An attempt to open the stub, and the stub after it. -/
def opened (s : Stub) : Except Fault Unit × Stub :=
  if s.refusals.opening then (.error (.stated .config "open refused"), s)
  else (.ok (), { s with store := s.store.opened })

/-- The stub, closed. -/
def closed (s : Stub) : Stub := { s with store := s.store.closed }

/-- The stub after a change, which it tells nobody. -/
def change (source : String) (c : Change) (s : Stub) :
    Except Fault (Option ChangeEvent) × Stub :=
  let (outcome, store) := s.store.change source c
  (outcome.map fun _ => none, { s with store })

end Stub

end Admission

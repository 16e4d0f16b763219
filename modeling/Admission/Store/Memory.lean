import Admission.Store.Change

/-!
# Memory stores — entries that are kept in memory

  The entries stay when the store is closed; only they cannot be used then. There is
  nothing outside that could change them.
-/

namespace Admission

/-- A store in memory. -/
structure MemoryStore where
  /-- What the store holds. -/
  entries : Entries := KeyMap.empty
  /-- Whether the store can be used. -/
  isOpen : Bool := false
  deriving DecidableEq, Inhabited

namespace MemoryStore

/-- The entries, while the store is open. -/
def snapshot (s : MemoryStore) : Except Fault Entries :=
  if s.isOpen then .ok s.entries else .error .memoryClosed

/-- The store, open. -/
def opened (s : MemoryStore) : MemoryStore := { s with isOpen := true }

/-- The store, closed. -/
def closed (s : MemoryStore) : MemoryStore := { s with isOpen := false }

/-- The event that tells a change, if it comes to something, and the store after it. -/
def change (source : String) (c : Change) (s : MemoryStore) :
    Except Fault (Option ChangeEvent) × MemoryStore :=
  match c.check with
  | .error cause => (.error cause, s)
  | .ok () =>
    if !s.isOpen then (.error .memoryClosed, s)
    else
      match c.onEntries source s.entries with
      | none => (.ok none, s)
      | some (event, entries) => (.ok (some event), { s with entries })

/-- The event that tells that all entries were replaced, and the store after that. -/
def replaceAll (source : String) (entries : Entries) (s : MemoryStore) :
    Except Fault (Option ChangeEvent) × MemoryStore :=
  if !s.isOpen then (.error .memoryClosed, s)
  else (.ok (some (.replaced source)), { s with entries })

end MemoryStore

end Admission

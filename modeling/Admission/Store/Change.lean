import Admission.Document
import Admission.Event

/-!
# Changes — what a user asks of a store

  A change sets a key, removes a key or clears the store. What it comes to depends on
  the store: setting a key always changes it, removing one does so only if the key is
  there, and clearing only if there is any key. A change that comes to something is
  told by exactly one event.

  The same change is defined on the entries of a store and on its document; the event
  is the same.
-/

namespace Admission

/-- What a user asks of a store. -/
inductive Change where
  /-- Gives a key a value. -/
  | set (key value : String)
  /-- Takes a key away. -/
  | remove (key : String)
  /-- Takes all keys away. -/
  | clear
  deriving DecidableEq, Repr

namespace Change

/-- Refuses a change that would not be read back as it was written. -/
def check : Change → Except Fault Unit
  | set key value => checkEntry key value
  | _ => .ok ()

/-- What a change makes of the entries of a store, with the event that tells it; nothing if
it comes to nothing. -/
def onEntries (source : String) (entries : Entries) : Change → Option (ChangeEvent × Entries)
  | set key value =>
    some (.stored source key value (entries.contains key), entries.insert key value)
  | remove key =>
    if entries.contains key then some (.removed source key, entries.erase key) else none
  | clear => if entries.isEmpty then none else some (.emptied source, KeyMap.empty)

/-- What a change makes of the document of a store, with the event that tells it; nothing
if it comes to nothing. -/
def onDocument (source : String) (d : Document) : Change → Option (ChangeEvent × Document)
  | set key value =>
    let exchanged := d.exchange key value
    some (.stored source key value exchanged.1.isSome, exchanged.2)
  | remove key =>
    let taken := d.take key
    if taken.1.isSome then some (.removed source key, taken.2) else none
  | clear =>
    let drained := d.drain
    if drained.1 then some (.emptied source, drained.2) else none

end Change

end Admission

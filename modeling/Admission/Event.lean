import Admission.Fault

/-!
# Change events — what a repository tells about its store

  An event says that one key was added, set or cleared, that all were cleared, that the
  whole store was read anew, or that it could not be read. It carries the repository
  that it comes from, and the key, the value and the cause as far as its kind has them.
-/

namespace Admission

/-- What kind of change an event tells. -/
inductive ChangeKind where
  /-- A key that was not there has a value. -/
  | keyAdded
  /-- A key that was there has another value. -/
  | keySet
  /-- A key is gone. -/
  | keyCleared
  /-- All keys are gone. -/
  | cleared
  /-- The whole store was replaced. -/
  | reloaded
  /-- The store could not be read; nothing changed. -/
  | failed
  deriving DecidableEq, Repr

/-- The name of a kind. -/
def ChangeKind.name : ChangeKind → String
  | .keyAdded => "key_added"
  | .keySet => "key_set"
  | .keyCleared => "key_cleared"
  | .cleared => "cleared"
  | .reloaded => "reloaded"
  | .failed => "error"

/-- The kinds, in the order of their declaration. -/
def ChangeKind.all : List ChangeKind := [keyAdded, keySet, keyCleared, cleared, reloaded, failed]

/-- The kind with a given name. -/
def ChangeKind.ofName? (name : String) : Option ChangeKind :=
  all.find? fun kind => kind.name == name

/-- What a repository tells about its store. -/
structure ChangeEvent where
  /-- The repository that the event comes from. -/
  source : String
  /-- What kind of change it is. -/
  kind : ChangeKind
  /-- The key concerned. -/
  key : Option String := none
  /-- The value of the key. -/
  value : Option String := none
  /-- Why the store could not be read. -/
  cause : Option Fault := none
  deriving DecidableEq, Repr

namespace ChangeEvent

/-- A key has a new value; `before` tells whether it had one before. -/
def stored (source key value : String) (before : Bool) : ChangeEvent :=
  { source, kind := if before then .keySet else .keyAdded, key := some key, value := some value }

/-- A key is gone. -/
def removed (source key : String) : ChangeEvent :=
  { source, kind := .keyCleared, key := some key }

/-- All keys are gone. -/
def emptied (source : String) : ChangeEvent := { source, kind := .cleared }

/-- The whole store was replaced. -/
def replaced (source : String) : ChangeEvent := { source, kind := .reloaded }

/-- The store could not be read. -/
def unread (source : String) (cause : Fault) : ChangeEvent :=
  { source, kind := .failed, cause := some cause }

end ChangeEvent

end Admission

import Admission.Event
import Admission.Registry
import Admission.Table

/-!
# Selectors — the policy that answers queries

  A selector answers whether an event is admitted. While it is wired to a repository it
  holds a table of tokens that follows the repository's events; otherwise every answer
  is its default.

  Opening a selector opens its repository, registers the table with it and loads all
  tokens; if that fails nothing stays registered and the selector stays closed.
  Closing takes the registration away, closes the repository and drops the tokens. What
  a repository does when it is used so is left to a `Host`.
-/

namespace Admission

/-! ### Hosts -/

/-- How selectors use repositories: `ρ` names repositories, `σ` is the state they are in. -/
structure Host (ρ σ : Type) where
  /-- Whether a repository is defined. -/
  isDefined : ρ → σ → Bool × σ
  /-- Opens a repository. -/
  openStore : ρ → σ → Except Fault Unit × σ
  /-- Closes a repository. -/
  closeStore : ρ → σ → σ
  /-- Reads a repository. -/
  snapshot : ρ → σ → Except Fault Entries × σ
  /-- Registers the selector's table. -/
  subscribe : ρ → σ → ListenerId × σ
  /-- Takes a registration away. -/
  unsubscribe : ρ → ListenerId → σ → σ

/-! ### Selectors -/

/-- A policy that answers queries. -/
structure Selector (ρ : Type) where
  /-- The answer where no token applies. -/
  whenUndefined : Bool := true
  /-- The repository. -/
  repository : Option ρ := none
  /-- The tokens in force. -/
  table : TokenMap := {}
  /-- Whether the selector is open. -/
  isOpen : Bool := false
  /-- Whether the tokens follow the repository. -/
  isWired : Bool := false
  /-- The registration of the table. -/
  listener : Option ListenerId := none
  deriving Inhabited

namespace Selector

variable {ρ σ : Type}

/-! ### Queries -/

/-- Whether an event is admitted. -/
def evaluate (s : Selector ρ) (severity : Severity) (key : String) (value : Option String) :
    Bool :=
  if !s.isWired then s.whenUndefined
  else
    match s.table.get? key with
    | some token => token.admits severity value
    | none => s.whenUndefined

/-- The token of a key as it was written. -/
def get? (s : Selector ρ) (key : String) : Option String := (s.table.get? key).map Token.raw

/-- The keys with a token, ascending. -/
def keys (s : Selector ρ) : List String := s.table.keys

/-! ### Events -/

/-- The table after an event, given what the repository holds when it is told. -/
def applied (snapshot : Except Fault Entries) (event : ChangeEvent) (table : TokenMap) :
    TokenMap :=
  match event.kind, event.key with
  | .keyAdded, some key | .keySet, some key => table.upsert key (event.value.getD "")
  | .keyCleared, some key => table.remove key
  | .cleared, _ => table.clear
  -- the table stays if the store cannot be read
  | .reloaded, _ => (table.rebuildFrom snapshot).2
  | _, _ => table

/-- The selector after its table was told an event. -/
def hear (snapshot : Except Fault Entries) (event : ChangeEvent) (s : Selector ρ) :
    Selector ρ :=
  { s with table := applied snapshot event s.table }

/-! ### Lifecycle -/

/-- The repository, if there is one and it is defined. -/
def definedRepository (h : Host ρ σ) (s : Selector ρ) (world : σ) : Option ρ × σ :=
  match s.repository with
  | none => (none, world)
  | some r =>
    let (defined, world) := h.isDefined r world
    (if defined then some r else none, world)

/-- Wires a selector to a repository that is open: registers the table and loads all
tokens. If they cannot be read the registration is taken away again and the repository is
closed. -/
def wire (h : Host ρ σ) (r : ρ) (s : Selector ρ) (world : σ) :
    Except Fault Unit × Selector ρ × σ :=
  -- registered before it is read, so no change in between is missed
  let (id, world) := h.subscribe r world
  let (source, world) := h.snapshot r world
  match s.table.rebuildFrom source with
  | (.ok _, table) =>
    (.ok (), { s with table, isOpen := true, isWired := true, listener := some id }, world)
  | (.error cause, _) => (.error cause, s, h.closeStore r (h.unsubscribe r id world))

/-- Opens a selector; nothing is done to an open one. -/
def openOn (h : Host ρ σ) (s : Selector ρ) (world : σ) : Except Fault Unit × Selector ρ × σ :=
  if s.isOpen then (.ok (), s, world)
  else
    match s.definedRepository h world with
    | (none, world) => (.ok (), { s with isOpen := true }, world)
    | (some r, world) =>
      match h.openStore r world with
      | (.error cause, world) => (.error cause, s, world)
      | (.ok (), world) => s.wire h r world

/-- Closes a selector; nothing is done to a closed one. -/
def closeOn (h : Host ρ σ) (s : Selector ρ) (world : σ) : Selector ρ × σ :=
  if !s.isOpen then (s, world)
  else
    -- the table is cleared even if there was no repository to fill it
    let closed := { s with isOpen := false, isWired := false, table := s.table.clear }
    match s.repository with
    | none => (closed, world)
    | some r =>
      let world :=
        match s.listener with
        | some id => h.unsubscribe r id world
        | none => world
      ({ closed with listener := none }, h.closeStore r world)

/-- Closes a selector and opens it again. -/
def reopenOn (h : Host ρ σ) (s : Selector ρ) (world : σ) : Except Fault Unit × Selector ρ × σ :=
  let (s, world) := s.closeOn h world
  s.openOn h world

/-- Gives a selector another repository; an open one is closed before and opened again
after that. -/
def setRepositoryOn (h : Host ρ σ) (repository : Option ρ) (s : Selector ρ) (world : σ) :
    Except Fault Unit × Selector ρ × σ :=
  if s.isOpen then
    let (s, world) := s.closeOn h world
    ({ s with repository } : Selector ρ).openOn h world
  else (.ok (), { s with repository }, world)

end Selector

end Admission

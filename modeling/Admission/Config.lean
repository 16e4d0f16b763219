import Admission.Deployment
import Admission.Text.Number
import Admission.Toml.Document

/-!
# Configurations — what a selector is built from

  A configuration says what a selector answers where no token applies, and what
  repository it uses. It is read from a TOML document, in which every setting may be
  missing and settings of other names do not count. Two environment variables override
  the location and the poll interval.

  Two configurations are refused: one with a close timeout of zero, and one with a
  repository in memory that was given a location.
-/

namespace Admission

/-! ### Settings -/

/-- What kind of repository a selector uses. -/
inductive RepositoryKind where
  /-- A document at a location. -/
  | file
  /-- Entries in memory. -/
  | memory
  deriving DecidableEq, Repr, Inhabited

namespace RepositoryKind

/-- The name of a kind. -/
def name : RepositoryKind → String
  | file => "file"
  | memory => "memory"

/-- The kind of a name. -/
def ofName? (s : String) : Option RepositoryKind := [file, memory].find? fun k => k.name == s

end RepositoryKind

/-- The settings of a repository. -/
structure RepositoryConfig where
  /-- The kind. -/
  kind : RepositoryKind := .file
  /-- The location. -/
  url : Option String := none
  /-- The milliseconds between two poll cycles. -/
  refreshTime : Nat := 0
  /-- The milliseconds that closing waits for a poll cycle. -/
  closeTimeout : Nat := 2000
  deriving DecidableEq, Repr, Inhabited

/-- The settings of a selector. -/
structure Config where
  /-- The answer where no token applies. -/
  defaultWhenUndefined : Bool := true
  /-- The settings of its repository. -/
  repository : RepositoryConfig := {}
  deriving DecidableEq, Repr, Inhabited

/-! ### Reading settings -/

namespace RepositoryKind

/-- Whether a value is an empty table or array, as it may stand for the missing content of
a kind. -/
def isHollow : Toml.Value → Bool
  | .array items => items.isEmpty
  | .table _ entries => entries.isEmpty
  | .tables rows => rows.isEmpty
  | _ => false

/-- The kind that a value names: by a text, or by the key of a table that holds nothing
else. -/
def ofValue? : Toml.Value → Option RepositoryKind
  | .string s => ofName? s
  | .table _ [(key, v)] => if isHollow v then ofName? key else none
  | _ => none

end RepositoryKind

namespace Config

/-- A text. -/
def text? : Toml.Value → Option String
  | .string s => some s
  | _ => none

/-- A natural number. -/
def natural? : Toml.Value → Option Nat
  | .integer i => if 0 ≤ i then some i.toNat else none
  | _ => none

/-- A truth value. -/
def boolean? : Toml.Value → Option Bool
  | .boolean b => some b
  | _ => none

/-- The setting that a value gives, or the default if there is no value. -/
def setting {α : Type} (read : Toml.Value → Option α) (default : α) : Option Toml.Value → Option α
  | none => some default
  | some v => read v

/-- The settings of a repository, given the value of each setting. -/
def repositoryOf (kind url refreshTime closeTimeout : Option Toml.Value) :
    Option RepositoryConfig := do
  let default : RepositoryConfig := {}
  return {
    kind := ← setting RepositoryKind.ofValue? default.kind kind
    url := ← setting (fun v => some <$> text? v) default.url url
    refreshTime := ← setting natural? default.refreshTime refreshTime
    closeTimeout := ← setting natural? default.closeTimeout closeTimeout }

/-- The settings of a repository in a list, in the order of their declaration. -/
def repositoryOfList (items : List Toml.Value) : Option RepositoryConfig :=
  repositoryOf items[0]? items[1]? items[2]? items[3]?

/-- The settings of a repository that a value gives: by name in a table, or in order in an
array. A date is a table with a setting of another name. -/
def repository? : Toml.Value → Option RepositoryConfig
  | .table _ t =>
    let t : Toml.Table := t
    repositoryOf (t.get? "kind") (t.get? "url") (t.get? "refresh_time")
      (t.get? "close_timeout_ms")
  | .array items => repositoryOfList items
  | .tables rows => repositoryOfList (rows.map (.table .header))
  | .datetime => some {}
  | _ => none

/-- The settings in a document. -/
def ofTable? (t : Toml.Table) : Option Config := do
  return {
    defaultWhenUndefined := ← setting boolean? true (t.get? "default_when_undefined")
    repository := ← setting repository? {} (t.get? "repository") }

/-! ### Checks -/

/-- Whether a location is given that is not blank. -/
def hasLocation (c : Config) : Bool := c.repository.url.any fun url => !Text.isBlankText url

/-- Refuses configurations that contradict themselves. -/
def validate (c : Config) : Except Fault Unit :=
  if c.repository.closeTimeout = 0 then .error .zeroCloseTimeout
  else if c.repository.kind = .memory && c.hasLocation then .error .memoryWithLocation
  else .ok ()

/-- The configuration in a TOML document. -/
def ofToml (s : String) : Except Fault Config :=
  match Toml.ofText? s with
  | none => .error (.invalidSettings .notToml)
  | some t =>
    match ofTable? t with
    | none => .error (.invalidSettings .wrongType)
    | some c => c.validate.map fun _ => c

/-- The configuration in a file. -/
def ofFile (fs : Files) (path : String) : Except Fault Config :=
  match fs.readText path with
  | .error cause => .error (.unreadableSettings cause)
  | .ok s => ofToml s

/-! ### The environment -/

/-- The overrides in the environment. -/
structure Overrides where
  /-- The location. -/
  url : Option String := none
  /-- The poll interval, in digits. -/
  refresh : Option String := none
  deriving DecidableEq, Repr, Inhabited

/-- The configuration with another location. -/
def withUrl (c : Config) (url : Option String) : Config :=
  match url with
  | none => c
  | some url => { c with repository := { c.repository with url := some url } }

/-- The configuration with another poll interval. -/
def withRefresh (c : Config) (refreshTime : Nat) : Config :=
  { c with repository := { c.repository with refreshTime } }

/-- Overrides settings by the environment; what was overridden before a fault stays so. -/
def override (o : Overrides) (c : Config) : Except Fault Unit × Config :=
  let c := c.withUrl o.url
  match o.refresh with
  | none => (c.validate, c)
  | some digits =>
    match Text.readNumber (Text.trimBoth digits.toList) with
    | .error cause => (.error (.invalidRefresh cause), c)
    | .ok n =>
      let c := c.withRefresh n
      (c.validate, c)

/-! ### Building -/

/-- The store of a configuration, closed. -/
def backing (c : Config) (resources : Bundle) : Backing :=
  match c.repository.kind with
  | .memory => .memory {}
  | .file =>
    let settings : FileSettings := {
      url := c.repository.url
      refresh := c.repository.refreshTime
      closeTimeout := c.repository.closeTimeout
      resources }
    -- a blank location counts as none
    .file { settings := { settings with url := settings.location? } }

/-- The deployment with the selector of a configuration and its repository, both closed. -/
def deploy (c : Config) (selector repository : String) (resources : Bundle) (d : Deployment) :
    Deployment :=
  (d.addRepository repository (c.backing resources)).addSelector selector (some repository)
    c.defaultWhenUndefined

end Config

end Admission

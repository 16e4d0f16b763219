import Admission.CommandLine.Arguments
import Admission.Config

/-!
# Runs — what a command line does

  A run reads the configuration, opens the selector that it describes, carries out one
  command and closes the selector. What it comes to is an exit code, two texts and the
  files afterwards.

  To watch a store is a run that lasts: it tells every event of the repository until it
  is ended from outside.
-/

namespace Admission.CommandLine

/-! ### Preparation -/

/-- The name of the selector in a run. -/
def selectorName : String := "selector"

/-- The name of the repository in a run. -/
def repositoryName : String := "store"

/-- The poll interval of a watch when the configuration has none. -/
def watchInterval : Nat := 1000

/-- The poll interval of a watch: the one that was asked for, or the configured one if there
is one. -/
def watchRefresh (asked : Option Nat) (configured : Nat) : Nat :=
  asked.getD (if configured = 0 then watchInterval else configured)

/-- The configuration in a file, or the one without settings. -/
def loadConfig (fs : Files) : Option String → Except Fault Config
  | none => .ok {}
  | some path => Config.ofFile fs path

/-- The configuration of a run. -/
def Invocation.config (i : Invocation) (env : Config.Overrides) (fs : Files) :
    Except Fault Config := do
  let c ← loadConfig fs i.options.config
  let (outcome, c) := c.override env
  outcome
  -- the location of the command line comes after the checks, and is not checked
  let c := c.withUrl i.options.url
  match i.command with
  | .watch asked => .ok (c.withRefresh (watchRefresh asked c.repository.refreshTime))
  | _ => .ok c

/-- The path of the store of a configuration, if the store is at one. -/
def storePath? (c : Config) : Option String :=
  match c.repository.kind, c.repository.url with
  | .file, some url =>
    match Location.resolve url {} with
    | .ok (.path path) => some path
    | _ => none
  | _, _ => none

/-- The places that a run looks at, as far as the files that are known tell. -/
def Invocation.places (i : Invocation) (env : Config.Overrides) (fs : Files) : List Place :=
  let store := (i.config env fs).toOption.bind storePath?
  (i.options.config.toList ++ store.toList).flatMap fs.trail

/-- The selector of a run with its repository, both closed. -/
def deployment (c : Config) (web : Web) (fs : Files) : Deployment :=
  c.deploy selectorName repositoryName {} { stores := { files := fs, web } }

/-- The selector of a deployment. -/
def selectorOf (d : Deployment) : Selector String := (d.selectors.get? selectorName).getD {}

/-! ### Commands -/

/-- A line of output. -/
def line (s : String) : String := s ++ "\n"

/-- The tokens as one JSON document. -/
def tokensJson (s : Selector String) : String :=
  let members := s.table.tokens.entries.map fun (key, token) =>
    Text.jsonString key ++ ":" ++ Text.jsonString token.raw
  "\x7b" ++ ",".intercalate members ++ "\x7d"

/-- What an operation says, and the deployment after it. -/
def carryOut (d : Deployment) (op : Deployment.Operation) : Except Fault String × Deployment :=
  match d.perform op with
  | (.failed cause, d) => (.error cause, d)
  | (_, d) => (.ok "", d)

/-- What a command says about an open selector, and the deployment after it. -/
def Command.execute (d : Deployment) : Command → Except Fault String × Deployment
  | check severity key value =>
    (.ok (line (toString ((selectorOf d).evaluate severity key value))), d)
  | get key =>
    match (selectorOf d).get? key with
    | some raw => (.ok (line raw), d)
    | none => (.error (.noToken key), d)
  | keys json =>
    let s := selectorOf d
    (.ok (if json then line (tokensJson s) else String.join (s.keys.map line)), d)
  | set severity key value =>
    carryOut d (.changeThrough selectorName (.set key (Token.render severity value)))
  | remove key => carryOut d (.changeThrough selectorName (.remove key))
  | watch _ =>
    if (d.stores.backing? repositoryName).any Backing.isDefined then (.ok "", d)
    else (.error .nothingToWatch, d)

/-- What a run says, and the files after it. -/
def Invocation.execute (i : Invocation) (env : Config.Overrides) (web : Web) (fs : Files) :
    Except Fault String × Files :=
  match i.config env fs with
  | .error cause => (.error cause, fs)
  | .ok c =>
    match (deployment c web fs).perform (.openSelector selectorName) with
    | (.failed cause, d) => (.error cause, d.stores.files)
    | (_, d) =>
      let (said, d) := i.command.execute d
      -- the selector is closed also if the command failed
      (said, (d.perform (.closeSelector selectorName)).2.stores.files)

/-! ### Outcomes -/

/-- What a run comes to. -/
structure Outcome where
  /-- The exit code: 0, or 1 after a fault, or 2 if nothing known was asked for. -/
  exit : Nat
  /-- What is written to the standard output. -/
  stdout : String := ""
  /-- What is written to the standard error output. -/
  stderr : String := ""
  deriving DecidableEq, Repr

/-- The name and the version of the program. -/
def versionText : String := "trace-selector 0.1.0"

/-- The outcome of saying something, or of a fault. -/
def Outcome.of : Except Fault String → Outcome
  | .ok said => { exit := 0, stdout := said }
  | .error cause => { exit := 1, stderr := line s!"Error: {cause.shown}" }

/-- What a command line comes to, and the files after it. -/
def run (arguments : List String) (env : Config.Overrides) (web : Web) (fs : Files) :
    Outcome × Files :=
  match Request.ofArguments arguments with
  | .version => ({ exit := 0, stdout := line versionText }, fs)
  | .misuse => ({ exit := 2 }, fs)
  | .run i =>
    let (said, fs) := i.execute env web fs
    (.of said, fs)

/-! ### Watching -/

/-- The deployment of a watch that has begun: an open selector, and a repository whose
recorder writes down every event. -/
def beginWatch (i : Invocation) (env : Config.Overrides) (web : Web) (fs : Files) :
    Except Fault Deployment := do
  let c ← i.config env fs
  match (deployment c web fs).perform (.openSelector selectorName) with
  | (.failed cause, _) => .error cause
  | (_, d) =>
    let (said, d) := i.command.execute d
    discard said
    .ok d

/-- The events that the recorder wrote down, first event first, and the deployment without
them. -/
def takeEvents (d : Deployment) : List ChangeEvent × Deployment :=
  ((d.notes repositoryName).map Note.event, { d with journal := [] })

/-- The events of one poll cycle, and the deployment after it. -/
def watchCycle (d : Deployment) : List ChangeEvent × Deployment :=
  takeEvents (d.cycles watchHorizon repositoryName)
where
  /-- A time in which every task makes a cycle. -/
  watchHorizon : Nat := Text.numberLimit

/-- An event as a JSON document, without the time and the source. -/
def eventJson (e : ChangeEvent) : String :=
  let text (s : Option String) : String := (s.map Text.jsonString).getD "null"
  let cause := e.cause.map Fault.message
  let members := [("kind", Text.jsonString e.kind.name), ("key", text e.key),
    ("value", text e.value), ("cause", text cause)]
  "\x7b" ++ ",".intercalate (members.map fun (name, v) => Text.jsonString name ++ ":" ++ v) ++
    "\x7d"

end Admission.CommandLine

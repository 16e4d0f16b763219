import Admission.Repository
import Admission.Selector

/-!
# Deployments — selectors, repositories and files at work together

  A deployment is a tree of files, the repositories that keep their stores there, and
  the selectors that use the repositories; all of them are known by name. It proceeds
  by operations: calls of selectors and repositories, changes of the files and
  of the remote stores from outside, and the passing of time, in which open stores look
  at what they were read from.

  Events are delivered while the operation that causes them is under way: to each
  listener of the repository in turn, and what the recorders among them are told is
  written to the journal.
-/

namespace Admission

/-! ### Repositories and their files -/

/-- The repositories by name, and what they read from. -/
structure Stores where
  /-- The files. -/
  files : Files := {}
  /-- The remote stores. -/
  web : Web := .down
  /-- The repositories. -/
  repositories : KeyMap Repository := KeyMap.empty
  /-- How poll cycles tell texts apart. -/
  digest : Digest := Digest.plain
  deriving Inhabited

namespace Stores

/-- The store of a repository. -/
def backing? (w : Stores) (name : String) : Option Backing :=
  (w.repositories.get? name).map Repository.backing

/-- The stores with one repository replaced by what a function makes of it. -/
def modify (w : Stores) (name : String) (f : Repository → Repository) : Stores :=
  match w.repositories.get? name with
  | some r => { w with repositories := w.repositories.insert name (f r) }
  | none => w

/-- The stores with the store of one repository replaced. -/
def putBacking (w : Stores) (name : String) (b : Backing) : Stores :=
  w.modify name fun r => { r with backing := b }

/-- The entries of a repository, while it is open. -/
def snapshot (w : Stores) (name : String) : Except Fault Entries :=
  match w.backing? name with
  | some b => b.snapshot
  | none => .error .noDefinedRepository

/-- An attempt to open a repository. -/
def openStore (name : String) (w : Stores) : Except Fault Unit × Stores :=
  match w.backing? name with
  | none => (.error .noDefinedRepository, w)
  | some b =>
    let (outcome, b) := b.openStore w.web w.files
    (outcome, w.putBacking name b)

/-- Closes a repository. -/
def closeStore (name : String) (w : Stores) : Stores :=
  w.modify name fun r => { r with backing := r.backing.closeStore }

/-- Closes a repository and attempts to open it again. -/
def reopenStore (name : String) (w : Stores) : Except Fault Unit × Stores :=
  (w.closeStore name).openStore name

/-- The id that the next listener of a repository gets. -/
def nextListener (w : Stores) (name : String) : ListenerId :=
  ((w.repositories.get? name).map fun r => r.listeners.nextId).getD ⟨0⟩

/-- How the selector of a given name uses the repositories. -/
def host (selector : String) : Host String Stores where
  isDefined name w := ((w.backing? name).any Backing.isDefined, w)
  openStore := openStore
  closeStore := closeStore
  snapshot name w := (w.snapshot name, w)
  subscribe name w := (w.nextListener name, w.modify name (·.listen (.table selector)))
  unsubscribe name id w := w.modify name (·.unlisten id)

end Stores

/-! ### Deployments -/

/-- What a recorder was told. -/
structure Note where
  /-- The repository. -/
  repository : String
  /-- The name of the observer; the recorder of the repository itself has none. -/
  observer : Option String
  /-- The event. -/
  event : ChangeEvent
  deriving DecidableEq, Repr

/-- Selectors, repositories and files. -/
structure Deployment where
  /-- The repositories and the files. -/
  stores : Stores := {}
  /-- The selectors. -/
  selectors : KeyMap (Selector String) := KeyMap.empty
  /-- What recorders were told, last first. -/
  journal : List Note := []
  deriving Inhabited

/-- What an operation came to. -/
inductive Reply where
  /-- It succeeded. -/
  | done
  /-- It failed. -/
  | failed (cause : Fault)
  /-- The files could not be used so. -/
  | refused (cause : FileFault)
  /-- A listener was registered. -/
  | registered (id : ListenerId)
  /-- A registration was to be taken away; tells whether it was there. -/
  | removed (present : Bool)
  deriving DecidableEq, Repr

/-- The reply about an outcome. -/
def Reply.ofOutcome : Except Fault Unit → Reply
  | .ok () => .done
  | .error cause => .failed cause

namespace Deployment

/-! ### Delivery -/

/-- The deployment after a listener of a repository was told an event. -/
def tell (name : String) (event : ChangeEvent) (d : Deployment) : Subscriber → Deployment
  | .recorder => { d with journal := ⟨name, none, event⟩ :: d.journal }
  | .observer who _ => { d with journal := ⟨name, some who, event⟩ :: d.journal }
  | .table selector =>
    match d.selectors.get? selector with
    | none => d
    | some s =>
      { d with selectors := d.selectors.insert selector (s.hear (d.stores.snapshot name) event) }

/-- The deployment after an event was delivered to the listeners of a repository. -/
def deliver (name : String) (event : ChangeEvent) (d : Deployment) : Deployment :=
  match d.stores.repositories.get? name with
  | none => d
  | some r => r.listeners.listeners.foldl (fun d l => d.tell name event l.2) d

/-- The deployment after an event, if there is one. -/
def deliverAny (name : String) (event : Option ChangeEvent) (d : Deployment) : Deployment :=
  match event with
  | none => d
  | some event => d.deliver name event

/-- The deployment after a repository came to an outcome, which its listeners are told. -/
def settle (name : String) (outcome : Except Fault (Option ChangeEvent)) (d : Deployment) :
    Reply × Deployment :=
  match outcome with
  | .error cause => (.failed cause, d)
  | .ok event => (.done, d.deliverAny name event)

/-! ### Calls of repositories -/

/-- A change of a repository. -/
def change (name : String) (c : Change) (d : Deployment) : Reply × Deployment :=
  match d.stores.backing? name with
  | none => (.failed .noDefinedRepository, d)
  | some b =>
    let (outcome, files, b) := b.change name c d.stores.files
    -- the store and the files have moved before anybody is told
    let stores := { d.stores with files }.putBacking name b
    { d with stores }.settle name outcome

/-- Replaces all entries of a repository in memory. -/
def replaceAll (name : String) (entries : Entries) (d : Deployment) : Reply × Deployment :=
  match d.stores.backing? name with
  | some (.memory s) =>
    let (outcome, s) := s.replaceAll name entries
    { d with stores := d.stores.putBacking name (.memory s) }.settle name outcome
  | _ => (.done, d)

/-- Sets the switches of a stub. -/
def refuse (name : String) (refusals : Refusals) (d : Deployment) : Reply × Deployment :=
  match d.stores.backing? name with
  | some (.stub s) =>
    (.done, { d with stores := d.stores.putBacking name (.stub { s with refusals }) })
  | _ => (.done, d)

/-- Registers an observer with a repository. -/
def listen (name observer : String) (fails : Bool) (d : Deployment) : Reply × Deployment :=
  (.registered (d.stores.nextListener name),
    { d with stores := d.stores.modify name (·.listen (.observer observer fails)) })

/-- Takes a registration away. -/
def unlisten (name : String) (id : ListenerId) (d : Deployment) : Reply × Deployment :=
  (.removed ((d.stores.repositories.get? name).any fun r => r.listeners.contains id),
    { d with stores := d.stores.modify name (·.unlisten id) })

/-! ### Calls of selectors -/

/-- The deployment after a call of a selector. -/
def call (name : String)
    (f : Host String Stores → Selector String → Stores →
      Except Fault Unit × Selector String × Stores)
    (d : Deployment) : Reply × Deployment :=
  match d.selectors.get? name with
  | none => (.done, d)
  | some s =>
    let (outcome, s, stores) := f (Stores.host name) s d.stores
    (.ofOutcome outcome, { d with stores, selectors := d.selectors.insert name s })

/-- A change of the repository of a selector. -/
def changeThrough (name : String) (c : Change) (d : Deployment) : Reply × Deployment :=
  match d.selectors.get? name with
  | none => (.done, d)
  | some s =>
    match (s.definedRepository (Stores.host name) d.stores).1 with
    | none => (.failed .noDefinedRepository, d)
    | some r => d.change r c

/-! ### The world outside -/

/-- The deployment after the files were changed from outside. -/
def touch (f : Files → Except FileFault Files) (d : Deployment) : Reply × Deployment :=
  match f d.stores.files with
  | .error cause => (.refused cause, d)
  | .ok files => (.done, { d with stores := { d.stores with files } })

/-- The deployment after the remote stores changed. -/
def rehost (web : Web) (d : Deployment) : Deployment :=
  { d with stores := { d.stores with web } }

/-- The deployment after a poll cycle of one repository. -/
def cycle (name : String) (d : Deployment) : Deployment :=
  match d.stores.backing? name with
  | none => d
  | some b =>
    let (event, b) := b.pollCycle d.stores.digest name d.stores.web d.stores.files
    { d with stores := d.stores.putBacking name b }.deliverAny name event

/-- The tasks of a repository that make a cycle within a number of milliseconds. -/
def dueTasks (name : String) (within : Nat) (d : Deployment) : List Nat :=
  match d.stores.backing? name with
  | some (.file s) => if s.settings.refresh ≤ within then s.tasks.running else []
  | _ => []

/-- The deployment after each task of a repository that makes a cycle in time has made
one. -/
def cycles (within : Nat) (d : Deployment) (name : String) : Deployment :=
  (d.dueTasks name within).foldl (fun d _ => d.cycle name) d

/-- The deployment after a number of milliseconds; a further cycle of the same task finds
nothing new. -/
def pass (within : Nat) (d : Deployment) : Deployment :=
  d.stores.repositories.keys.foldl (cycles within) d

/-- What a poll cycle read when it found a content at a path. -/
def readingOf (path : String) (content : Content) (stamp : Stamp) : Except Fault Reading :=
  match content.text? with
  | .ok text => .ok (.ofFile text ⟨content, stamp⟩)
  | .error cause => .error (.cannotRead path cause)

/-- What happens while a poll cycle is under way: time passes, a change is made, and unless
the change writes a file, the content is put at the path. -/
def overtake (name path : String) (content : Content) (c : Option Change) (d : Deployment) :
    Reply × Deployment :=
  let files := { d.stores.files with clock := d.stores.files.clock + 1 }
  let d := { d with stores := { d.stores with files } }
  match c with
  | none => (.done, (d.touch (·.replace path content)).2)
  | some c =>
    let (reply, d) := d.change name c
    -- the change wrote nothing, so the content gets into the file all the same
    (reply, if d.stores.files = files then (d.touch (·.replace path content)).2 else d)

/-- The end of a poll cycle that began when a repository had a fingerprint. -/
def endCycle (name : String) (sampled : Fingerprint) (read : Except Fault Reading)
    (d : Deployment) : Deployment :=
  match d.stores.backing? name with
  | some (.file s) =>
    let (event, s) := s.conclude d.stores.digest name sampled read
    { d with stores := d.stores.putBacking name (.file s) }.deliverAny name event
  | _ => d

/-- The fingerprint with which a poll cycle of a repository begins. -/
def fingerprint? (name : String) (d : Deployment) : Option Fingerprint :=
  match d.stores.backing? name with
  | some (.file s) => s.opened.map fun o => o.seen.fingerprint d.stores.digest
  | _ => none

/-- A poll cycle that is overtaken by a change: the cycle begins, the change is made, and
only then the cycle gets the content of the file. Unless the change writes the file, the
content is what the file holds in the end. -/
def race (name path : String) (content : Content) (c : Option Change) (d : Deployment) :
    Reply × Deployment :=
  let read := readingOf path content d.stores.files.clock
  let (reply, d') := d.overtake name path content c
  match d.fingerprint? name with
  -- what the cycle compares with is from before the change
  | some sampled => (reply, d'.endCycle name sampled read)
  | none => (reply, d')

/-! ### Operations -/

/-- What can happen to a deployment. -/
inductive Operation where
  /-- A selector is opened. -/
  | openSelector (name : String)
  /-- A selector is closed. -/
  | closeSelector (name : String)
  /-- A selector is closed and opened again. -/
  | reopenSelector (name : String)
  /-- A selector gets another repository. -/
  | setRepository (name : String) (repository : Option String)
  /-- The repository of a selector is changed through the selector. -/
  | changeThrough (name : String) (c : Change)
  /-- A repository is opened. -/
  | openRepository (name : String)
  /-- A repository is closed. -/
  | closeRepository (name : String)
  /-- A repository is closed and opened again. -/
  | reopenRepository (name : String)
  /-- A repository is changed. -/
  | change (name : String) (c : Change)
  /-- All entries of a repository in memory are replaced. -/
  | replaceAll (name : String) (entries : Entries)
  /-- An observer is registered with a repository. -/
  | listen (name observer : String) (fails : Bool)
  /-- A registration is taken away. -/
  | unlisten (name : String) (id : ListenerId)
  /-- The switches of a stub are set. -/
  | refuse (name : String) (refusals : Refusals)
  /-- A stub tells an event. -/
  | emit (name : String) (event : ChangeEvent)
  /-- The files change from outside. -/
  | touch (f : Files → Except FileFault Files)
  /-- The remote stores change. -/
  | rehost (web : Web)
  /-- A number of milliseconds passes. -/
  | pass (milliseconds : Nat)
  /-- A poll cycle is overtaken by a change. -/
  | race (name path : String) (content : Content) (c : Option Change)

/-- Performs an operation. -/
def perform (d : Deployment) : Operation → Reply × Deployment
  | .openSelector name => d.call name Selector.openOn
  | .closeSelector name =>
    d.call name fun h s w =>
      let (s, w) := s.closeOn h w
      (.ok (), s, w)
  | .reopenSelector name => d.call name Selector.reopenOn
  | .setRepository name repository => d.call name fun h => Selector.setRepositoryOn h repository
  | .changeThrough name c => d.changeThrough name c
  | .openRepository name =>
    let (outcome, stores) := d.stores.openStore name
    (.ofOutcome outcome, { d with stores })
  | .closeRepository name => (.done, { d with stores := d.stores.closeStore name })
  | .reopenRepository name =>
    let (outcome, stores) := d.stores.reopenStore name
    (.ofOutcome outcome, { d with stores })
  | .change name c => d.change name c
  | .replaceAll name entries => d.replaceAll name entries
  | .listen name observer fails => d.listen name observer fails
  | .unlisten name id => d.unlisten name id
  | .refuse name refusals => d.refuse name refusals
  | .emit name event => (.done, d.deliver name event)
  | .touch f => d.touch f
  | .rehost web => (.done, d.rehost web)
  | .pass milliseconds => (.done, d.pass milliseconds)
  | .race name path content c => d.race name path content c

/-- The deployment after operations, one after the other. -/
def performAll (d : Deployment) (ops : List Operation) : Deployment :=
  ops.foldl (fun d op => (d.perform op).2) d

/-! ### Building -/

/-- The deployment with one more repository, to which a recorder listens. -/
def addRepository (name : String) (backing : Backing) (d : Deployment) : Deployment :=
  { d with stores := { d.stores with
      repositories := d.stores.repositories.insert name (.recorded backing) } }

/-- The deployment with one more selector, which is closed. -/
def addSelector (name : String) (repository : Option String) (whenUndefined : Bool)
    (d : Deployment) : Deployment :=
  { d with selectors := d.selectors.insert name { whenUndefined, repository } }

/-- The notes about one repository, first note first. -/
def notes (d : Deployment) (name : String) : List Note :=
  (d.journal.filter fun n => n.repository == name).reverse

end Deployment

end Admission

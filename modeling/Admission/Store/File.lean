import Admission.Files
import Admission.Location
import Admission.Store.Change

/-!
# File stores — a document at a location

  A file store is opened by reading the document at its location. While it is open the
  file may change behind its back, so a poll task looks at the file again and again: a
  file with the stamp and the size that were seen last is taken to be unchanged, any
  other one is read, and if the digest of its text is another one the store is replaced
  and one event tells it. That the file cannot be read is told once, until it has been
  read again.

  A change of the store's own is written first: the new text is put next to the file
  and then takes its place, and only then the store follows and tells it. So a change
  that fails leaves everything as it was, and the file never holds half a document.
-/

namespace Admission

/-! ### Settings -/

/-- What a file store is made from. -/
structure FileSettings where
  /-- Where the store is; without a location the store stays undefined. -/
  url : Option String := none
  /-- The milliseconds between two poll cycles; none are made if it is zero. -/
  refresh : Nat := 0
  /-- The milliseconds that closing waits for a poll cycle. -/
  closeTimeout : Nat := 2000
  /-- The texts that the location may name. -/
  resources : Bundle := {}
  deriving DecidableEq, Inhabited

/-- The location in force, which is not blank. -/
def FileSettings.location? (s : FileSettings) : Option String :=
  s.url.filter fun url => !Text.isBlankText url

/-! ### Reading -/

/-- How texts are told apart: two texts with the same digest count as the same text. -/
abbrev Digest := String → List UInt8

/-- The digest that takes no text for another one: the bytes of the text itself. -/
def Digest.plain : Digest := fun text => text.toUTF8.toList

/-- What is compared when two readings are. -/
structure Fingerprint where
  /-- The stamp of the file. -/
  stamp : Option Stamp
  /-- The number of bytes in the file. -/
  size : Option Nat
  /-- The digest of the text. -/
  digest : List UInt8
  deriving DecidableEq, Repr

/-- A text that was read or written, with the stamp and size that its file had. -/
structure Reading where
  /-- The text. -/
  text : String
  /-- The stamp of the file. -/
  stamp : Option Stamp := none
  /-- The number of bytes in the file. -/
  size : Option Nat := none
  deriving DecidableEq, Repr, Inhabited

/-- Whether a file has the stamp and the size of a reading. -/
def Reading.looksLike (r : Reading) (f : StoredFile) : Bool :=
  r.stamp == some f.stamp && r.size == some f.content.size

/-- The fingerprint of a reading. -/
def Reading.fingerprint (digest : Digest) (r : Reading) : Fingerprint :=
  ⟨r.stamp, r.size, digest r.text⟩

/-- The reading of a text that was found in a file. -/
def Reading.ofFile (text : String) (f : StoredFile) : Reading :=
  ⟨text, some f.stamp, some f.content.size⟩

/-- What requests to remote stores come to. -/
structure Web where
  /-- Whether requests can be made at all. -/
  client : Except Fault Unit
  /-- What a request for a URL brings. -/
  request : String → Except Fault String

/-- No request can be made for any URL. -/
def Web.down : Web := ⟨.ok (), fun _ => .error .noRequest⟩

/-- There is a text at one URL, and no request can be made for another one. -/
def Web.serving (url text : String) : Web where
  client := .ok ()
  request asked := if asked = url then .ok text else .error .noRequest

instance : Inhabited Web := ⟨.down⟩

/-- Whether what is needed to read at a location can be had. -/
def Location.prepare (web : Web) : Location → Except Fault Unit
  | .remote _ => web.client
  | _ => .ok ()

/-- Reads the text at a location. -/
def Location.read (web : Web) (fs : Files) : Location → Except Fault Reading
  | .remote url => (web.request url).map fun text => { text }
  | .resource _ text => .ok { text }
  | .path p =>
    match fs.find p with
    | .error cause => .error (.cannotStat p cause)
    | .ok .directory => .error (.cannotRead p .isDirectory)
    | .ok (.file f) =>
      match f.content.text? with
      | .error cause => .error (.cannotRead p cause)
      | .ok text => .ok (.ofFile text f)

/-! ### Poll tasks -/

/-- The poll tasks of a store. -/
structure PollTasks where
  /-- The tasks that run. -/
  running : List Nat := []
  /-- The task that the store holds. -/
  held : Option Nat := none
  /-- How many tasks there have been. -/
  started : Nat := 0
  deriving DecidableEq, Repr, Inhabited

namespace PollTasks

/-- The tasks without the one that the store holds. -/
def stop (t : PollTasks) : PollTasks :=
  match t.held with
  | none => t
  | some task => { t with running := t.running.filter (· != task), held := none }

/-- The tasks with a new one, which the store holds. -/
def start (t : PollTasks) : PollTasks :=
  { running := t.started :: t.stop.running, held := some t.started, started := t.started + 1 }

/-- Whether the store holds a task that runs. -/
def isPolling (t : PollTasks) : Bool := t.held.any t.running.contains

end PollTasks

/-! ### The store -/

/-- What an open store knows. -/
structure OpenFile where
  /-- Where the store is. -/
  location : Location
  /-- The document as it was read or written last. -/
  document : Document
  /-- The values of the document. -/
  entries : Entries
  /-- The text that was read or written last, with the stamp and size seen last. -/
  seen : Reading
  /-- Whether it was told that the file cannot be read, and it has not been read since. -/
  failing : Bool := false
  deriving DecidableEq

/-- A store at a location. -/
structure FileStore where
  /-- What the store is made from. -/
  settings : FileSettings := {}
  /-- What the store knows while it is open. -/
  opened : Option OpenFile := none
  /-- The poll tasks. -/
  tasks : PollTasks := {}
  deriving DecidableEq, Inhabited

namespace OpenFile

/-- What is known after a text was read. -/
def ofReading (location : Location) (r : Reading) : OpenFile :=
  let document := Document.parse r.text
  { location, document, entries := document.entries, seen := r }

/-- What is known after a document was written with a text. -/
def written (o : OpenFile) (document : Document) (r : Reading) : OpenFile :=
  { o with document, entries := document.entries, seen := r }

end OpenFile

namespace FileStore

/-- Whether the store has a location. -/
def isDefined (s : FileStore) : Bool := s.settings.location?.isSome

/-- Whether the store is open. -/
def isOpen (s : FileStore) : Bool := s.opened.isSome

/-- The fault of using the store while it is closed. -/
def closedFault (s : FileStore) : Fault := .storeClosed (s.settings.url.getD "")

/-- The entries, while the store is open. -/
def snapshot (s : FileStore) : Except Fault Entries :=
  match s.opened with
  | some o => .ok o.entries
  | none => .error s.closedFault

/-! ### Opening and closing -/

/-- Finds and reads the document of a store. -/
def load (web : Web) (fs : Files) (settings : FileSettings) : Except Fault OpenFile := do
  match settings.location? with
  | none => .error .noLocation
  | some url =>
    let location ← Location.resolve url settings.resources
    location.prepare web
    match location.read web fs with
    | .error cause => .error (.unreadableStore location.shown cause)
    | .ok r => .ok (.ofReading location r)

/-- An attempt to open the store, and the store after it; nothing is done to an open
store. -/
def openStore (web : Web) (fs : Files) (s : FileStore) : Except Fault Unit × FileStore :=
  if s.isOpen then (.ok (), s)
  else
    match load web fs s.settings with
    | .error cause => (.error cause, s)
    | .ok o =>
      -- nothing is told: listeners that stayed registered keep what they knew
      let polled := s.settings.refresh != 0 && o.location.isPollable
      (.ok (), { s with opened := some o, tasks := if polled then s.tasks.start else s.tasks })

/-- The store, closed; its poll task ends. -/
def closeStore (s : FileStore) : FileStore :=
  { s with opened := none, tasks := s.tasks.stop }

/-! ### Own changes -/

/-- What is at a path after a text was written there. -/
def readingOf (fs : Files) (path text : String) : Reading :=
  match fs.findFile path with
  | .ok f => .ofFile text f
  | .error _ => { text }

/-- The files after a text took the place of a file. -/
def write (fs : Files) (path text : String) : Except Fault Files :=
  match fs.stage path with
  | .error cause => .error (.cannotStage path cause)
  | .ok () =>
    match fs.replace path (.text text) with
    | .error cause => .error (.cannotReplace path cause)
    | .ok fs => .ok fs

/-- The event that tells a change, if it comes to something, and the files and the store
after it. -/
def change (source : String) (c : Change) (fs : Files) (s : FileStore) :
    Except Fault (Option ChangeEvent) × Files × FileStore :=
  match c.check with
  | .error cause => (.error cause, fs, s)
  | .ok () =>
    match s.opened with
    | none => (.error s.closedFault, fs, s)
    | some o =>
      match o.location with
      | .path path =>
        match c.onDocument source o.document with
        | none => (.ok none, fs, s)
        | some (event, document) =>
          -- the document is the one that was read last, whatever the file holds by now
          match write fs path document.render with
          | .error cause => (.error cause, fs, s)
          | .ok after =>
            let o := o.written document (readingOf after path document.render)
            (.ok (some event), after, { s with opened := some o })
      | location => (.error (.readOnlyStore location.shown), fs, s)

/-! ### Poll cycles -/

/-- Whether what is at the location looks as it did when it was seen last. -/
def looksUnchanged (fs : Files) (o : OpenFile) : Bool :=
  match o.location with
  | .path path =>
    match fs.find path with
    | .ok (.file f) => o.seen.looksLike f
    | _ => false
  | _ => false

/-- The store after a poll cycle has read a text; `sampled` is the fingerprint of what was
seen last when the cycle began. If the store has changed meanwhile the text is dropped, and
if the digest of the text is not a new one nothing is told. -/
def publish (digest : Digest) (source : String) (sampled : Fingerprint) (r : Reading)
    (s : FileStore) : Option ChangeEvent × FileStore :=
  match s.opened with
  | none => (none, s)
  | some o =>
    -- an own change came in between, and what was read may be older
    if o.seen.fingerprint digest != sampled then (none, s)
    else if digest r.text = digest o.seen.text then
      (none, { s with opened := some { o with seen := r, failing := false } })
    else (some (.replaced source), { s with opened := some (.ofReading o.location r) })

/-- The store after a poll cycle could not read it. -/
def report (source : String) (cause : Fault) (s : FileStore) : Option ChangeEvent × FileStore :=
  match s.opened with
  | none => (none, s)
  | some o =>
    if o.failing then (none, s)
    else (some (.unread source cause), { s with opened := some { o with failing := true } })

/-- The store after a poll cycle has tried to read it. -/
def conclude (digest : Digest) (source : String) (sampled : Fingerprint)
    (read : Except Fault Reading) (s : FileStore) : Option ChangeEvent × FileStore :=
  match read with
  | .ok r => publish digest source sampled r s
  | .error cause => report source cause s

/-- A whole poll cycle: the event that it tells, and the store after it. -/
def pollCycle (digest : Digest) (source : String) (web : Web) (fs : Files) (s : FileStore) :
    Option ChangeEvent × FileStore :=
  match s.opened with
  | none => (none, s)
  | some o =>
    -- such a file is not read, so a fault that was told of it stays told
    if looksUnchanged fs o then (none, s)
    else conclude digest source (o.seen.fingerprint digest) (o.location.read web fs) s

end FileStore

end Admission

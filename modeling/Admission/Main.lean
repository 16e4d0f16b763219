import Admission.CommandLine.Run

/-!
# The command line — arguments, environment, files and streams

  A run works on a tree of files. The program brings into the tree what the machine has
  at the places that the run looks at, lets the run work on the tree, and puts the files
  that the run changed back: each is written next to its place and then takes it.

  To watch a store the program brings its file into the tree again before every poll
  cycle; a file that holds something else than before has a new stamp there. Requests it
  makes none, so remote stores are out of its reach.
-/

namespace Admission.CommandLine

/-! ### The files of the machine -/

/-- The error code of what should be a directory and is none. -/
def notDirectoryCode : UInt32 := 20

/-- What the machine has under a name, if anything; a file gets a stamp. -/
def look (stamp : Stamp) (name : String) : IO (Option Node) := do
  match ← (IO.FS.readBinFile name).toBaseIO with
  | .ok bytes => return some (.file ⟨.ofBytes bytes.toList, stamp⟩)
  | .error (.noFileOrDirectory _ _ _) => return none
  | .error (.inappropriateType _ code _) =>
    return if code == notDirectoryCode then none else some .directory
  | .error cause => throw cause

/-- The content of a node, if it is a file. -/
def contentOf : Option Node → Option Content
  | some (.file f) => some f.content
  | _ => none

/-- The tree with what the machine has at a place; a file with the content that it had
before keeps its stamp. -/
def bring (fs : Files) (place : Place) : IO Files := do
  let name := Files.nameOf place
  let before := fs.nodes.get? name
  match ← look fs.clock name with
  | none => return { fs with nodes := fs.nodes.erase name }
  | some node =>
    if (contentOf before).isSome && contentOf before == contentOf (some node) then return fs
    else return { fs with nodes := fs.nodes.insert name node, clock := fs.clock + 1 }

/-- The tree with what the machine has at the places that a run looks at: first those that
are known from the arguments, then those that the configuration tells. -/
def bringAll (i : Invocation) (env : Config.Overrides) (fs : Files) : IO Files := do
  let fs ← (i.places env fs).foldlM bring fs
  (i.places env fs).foldlM bring fs

/-- Puts a file in its place on the machine. -/
def putBack (name : String) (content : Content) : IO Unit := do
  let bytes := match content with
    | .text s => s.toUTF8
    | .undecodable bytes => ⟨bytes.toArray⟩
  let staged := name ++ ".staged"
  IO.FS.writeBinFile staged bytes
  IO.FS.rename staged name

/-- Puts the files that are others in the second tree back. -/
def putBackAll (before after : Files) : IO Unit := do
  for (name, node) in after.nodes.entries do
    if before.nodes.get? name != some node then
      if let some content := contentOf (some node) then putBack name content

/-- The tree that knows nothing but the working directory. -/
def emptyTree : IO Files := do
  return { home := Path.steps (toString (← IO.FS.realPath ".")) }

/-! ### Runs -/

/-- The overrides in the environment. -/
def environment : IO Config.Overrides := do
  return {
    url := ← IO.getEnv "TRACE_SELECTOR_URL"
    refresh := ← IO.getEnv "TRACE_SELECTOR_REFRESH_TIME" }

/-- Writes the texts of an outcome, and tells its exit code. -/
def finish (o : Outcome) : IO UInt32 := do
  IO.print o.stdout
  IO.eprint o.stderr
  return o.exit.toUInt32

/-- The longest time to sleep. -/
def longestSleep : Nat := 0xffffffff

/-- Writes every event of a deployment until the program is ended from outside. -/
partial def follow (i : Invocation) (env : Config.Overrides) (interval : Nat)
    (d : Deployment) : IO UInt32 := do
  IO.sleep (min interval longestSleep).toUInt32
  let files ← bringAll i env d.stores.files
  let (events, d) := watchCycle { d with stores := { d.stores with files } }
  for e in events do
    IO.println (eventJson e)
  (← IO.getStdout).flush
  follow i env interval d

/-- Watches a store. -/
def watch (i : Invocation) (env : Config.Overrides) (fs : Files) : IO UInt32 := do
  match beginWatch i env .down fs with
  | .error cause => finish (.of (.error cause))
  | .ok d =>
    let refresh := ((i.config env fs).toOption.map (·.repository.refreshTime)).getD 0
    follow i env (watchRefresh none refresh) d

/-- Does what a command line asks for. -/
def start (arguments : List String) : IO UInt32 := do
  let env ← environment
  let tree ← emptyTree
  match Request.ofArguments arguments with
  | .run i =>
    let before ← bringAll i env tree
    match i.command with
    | .watch _ => watch i env before
    | _ =>
      let (outcome, after) := run arguments env .down before
      putBackAll before after
      finish outcome
  | _ => finish (run arguments env .down tree).1

end Admission.CommandLine

/-- The program. -/
def main (arguments : List String) : IO UInt32 := Admission.CommandLine.start arguments

import Admission.Fault
import Admission.KeyMap
import Admission.Text.Lines
import Admission.Text.Utf8

/-!
# Files — a tree of directories and files

  The tree is a map from absolute names to nodes. A path is a text with slashes; it
  starts at the root or at the working directory and is followed one part after the
  other, and everything that it leads through has to be a directory. A path that ends
  with a slash leads through its last part too.

  Each file carries a stamp, which takes the part of a modification time: whoever
  writes a file gives it a stamp that was never used before, unless it keeps the stamp
  of the file that it replaces.
-/

namespace Admission

/-! ### Nodes -/

/-- What a file holds. -/
inductive Content where
  /-- A text. -/
  | text (s : String)
  /-- Bytes that spell no text. -/
  | undecodable (bytes : List UInt8)
  deriving DecidableEq, Repr, Inhabited

namespace Content

/-- The content with the given bytes. -/
def ofBytes (bytes : List UInt8) : Content :=
  match Text.Utf8.text? bytes with
  | some s => text s
  | none => undecodable bytes

/-- The number of bytes. -/
def size : Content → Nat
  | text s => s.utf8ByteSize
  | undecodable bytes => bytes.length

/-- The text, if it is one. -/
def text? : Content → Except FileFault String
  | text s => .ok s
  | undecodable _ => .error .notText

/-- The content as a person is shown it. -/
def shown : Content → String
  | text s => s
  | undecodable bytes => Text.Utf8.lossy bytes

end Content

/-- A modification time: files written at different times have different stamps. -/
abbrev Stamp := Nat

/-- A file. -/
structure StoredFile where
  /-- What the file holds. -/
  content : Content
  /-- When it was written. -/
  stamp : Stamp
  deriving DecidableEq, Repr

/-- What a name stands for. -/
inductive Node where
  /-- A file. -/
  | file (f : StoredFile)
  /-- A directory. -/
  | directory
  deriving DecidableEq, Repr

/-! ### Paths -/

/-- A place in the tree: the names that lead to it from the root. -/
abbrev Place := List String

namespace Path

/-- The parts of a path between its slashes. -/
def parts (path : String) : List String :=
  let (first, others) := Text.pieces '/' path.toList
  (first :: others).map String.ofList

/-- Whether a path starts at the root. -/
def isAbsolute (path : String) : Bool := path.toList.head? == some '/'

/-- The parts of a path that are not empty. -/
def names (path : String) : List String := (parts path).filter (· != "")

/-- Whether the last part of a path is a dot, which names what is there already. -/
def endsWithDot (path : String) : Bool := (names path).getLast? == some "."

/-- The parts of a path that lead somewhere. -/
def steps (path : String) : List String :=
  (parts path).filter fun part => part != "" && part != "."

/-- The place that one part of a path leads to. -/
def step (place : Place) (part : String) : Place :=
  if part == "" || part == "." then place
  else if part == ".." then place.dropLast
  else place ++ [part]

end Path

/-! ### Trees -/

/-- A tree of directories and files. -/
structure Files where
  /-- The nodes by absolute name; the root and the directories that lead to the working
  directory are always there. -/
  nodes : KeyMap Node := KeyMap.empty
  /-- The working directory. -/
  home : Place := []
  /-- The stamps below this one have been used. -/
  clock : Stamp := 0
  deriving DecidableEq, Inhabited

namespace Files

/-- The absolute name of a place. -/
def nameOf (place : Place) : String := place.foldl (fun name part => name ++ "/" ++ part) ""

/-- What is at a place. -/
def node? (fs : Files) (place : Place) : Option Node :=
  -- the way to the working directory is there, whatever the nodes say
  if place.isPrefixOf fs.home then some .directory else fs.nodes.get? (nameOf place)

/-- Refuses a place that is no directory. -/
def requireDirectory (fs : Files) (place : Place) : Except FileFault Unit :=
  match fs.node? place with
  | some .directory => .ok ()
  | some (.file _) => .error .notDirectory
  | none => .error .notFound

/-- The greatest number of bytes in one part of a path. -/
def partLimit : Nat := 255

/-- The greatest number of bytes in a path. -/
def pathLimit : Nat := 4095

/-- The place that parts of a path lead to. -/
def follow (fs : Files) : Place → List String → Except FileFault Place
  | place, [] => .ok place
  | place, part :: rest => do
    fs.requireDirectory place
    if partLimit < part.utf8ByteSize then .error .tooLong
    else fs.follow (Path.step place part) rest

/-- Where a path starts. -/
def start (fs : Files) (path : String) : Place :=
  if Path.isAbsolute path then [] else fs.home

/-- The places that a path leads through, and last the one that it leads to, whatever is
there. -/
def trail (fs : Files) (path : String) : List Place :=
  let steps := Path.steps path
  (List.range (steps.length + 1)).map fun n => (steps.take n).foldl Path.step (fs.start path)

/-- Refuses a path that can be no name. -/
def checkPath (path : String) : Except FileFault Unit :=
  if path.toList.contains '\x00' then .error .nullInName
  else if path.isEmpty then .error .notFound
  else if pathLimit < path.utf8ByteSize then .error .tooLong
  else .ok ()

/-- The place that a path names; nothing need be there. -/
def resolve (fs : Files) (path : String) : Except FileFault Place := do
  checkPath path
  fs.follow (fs.start path) (Path.parts path)

/-- What a path names. -/
def find (fs : Files) (path : String) : Except FileFault Node := do
  match fs.node? (← fs.resolve path) with
  | some n => .ok n
  | none => .error .notFound

/-- The file that a path names. -/
def findFile (fs : Files) (path : String) : Except FileFault StoredFile := do
  match ← fs.find path with
  | .file f => .ok f
  | .directory => .error .isDirectory

/-- The text of the file that a path names. -/
def readText (fs : Files) (path : String) : Except FileFault String := do
  (← fs.findFile path).content.text?

/-! ### Writing -/

/-- The tree with a file at a place, and with a stamp that was never used before. -/
def put (fs : Files) (place : Place) (content : Content) : Files :=
  { fs with
    nodes := fs.nodes.insert (nameOf place) (.file ⟨content, fs.clock⟩)
    clock := fs.clock + 1 }

/-- Whether a file can be put next to what a path names. -/
def stage (fs : Files) (path : String) : Except FileFault Unit := do
  fs.requireDirectory (← fs.follow (fs.start path) (Path.steps path).dropLast)

/-- The place that a file takes when it is moved to a path. The last part of the path has to
be a name of its own, and with a slash behind it only a directory could take the place. -/
def target (fs : Files) (path : String) : Except FileFault Place := do
  checkPath path
  let names := Path.names path
  match names.getLast? with
  | none => .error .busy
  | some name =>
    let directory ← fs.follow (fs.start path) names.dropLast
    fs.requireDirectory directory
    if name == "." || name == ".." then .error .busy
    else if partLimit < name.utf8ByteSize then .error .tooLong
    else if path.toList.getLast? == some '/' then .error .notDirectory
    else
      match fs.node? (directory ++ [name]) with
      | some .directory => .error .isDirectory
      | _ => .ok (directory ++ [name])

/-- The tree with a new file in the place that a path names. -/
def replace (fs : Files) (path : String) (content : Content) : Except FileFault Files := do
  .ok (fs.put (← fs.target path) content)

/-- The tree with a new file that has the stamp of the one that it replaces, if there is
one. -/
def replaceKeeping (fs : Files) (path : String) (content : Content) :
    Except FileFault Files := do
  let place ← fs.target path
  match fs.node? place with
  | some (.file f) =>
    .ok { fs with nodes := fs.nodes.insert (nameOf place) (.file ⟨content, f.stamp⟩) }
  | _ => .ok (fs.put place content)

/-- The tree without a file. -/
def delete (fs : Files) (path : String) : Except FileFault Files := do
  let place ← fs.resolve path
  match fs.node? place with
  | some (.file _) => .ok { fs with nodes := fs.nodes.erase (nameOf place) }
  | some .directory => .error .isDirectory
  | none => .error .notFound

/-! ### Directories -/

/-- The tree with the directories that parts of a path lead through. -/
def makeAll (fs : Files) : Place → List String → Except FileFault Files
  | _, [] => .ok fs
  | place, part :: rest =>
    if part == ".." then fs.makeAll place.dropLast rest
    else if partLimit < part.utf8ByteSize then .error .tooLong
    else
      let place := place ++ [part]
      match fs.node? place with
      | some .directory => fs.makeAll place rest
      | some (.file _) => .error (if rest.isEmpty then .alreadyThere else .notDirectory)
      | none =>
        Files.makeAll { fs with nodes := fs.nodes.insert (nameOf place) .directory } place rest

/-- The tree with a directory and those that lead to it. An empty path leads to no
directory that is not there. -/
def makeDirectory (fs : Files) (path : String) : Except FileFault Files := do
  if path.isEmpty then .ok fs
  else if Path.endsWithDot path then
    fs.requireDirectory (← fs.resolve path)
    .ok fs
  else
    checkPath path
    fs.makeAll (fs.start path) (Path.steps path)

/-- The part of a name below a directory, if it is below it. -/
def below (directory : Place) (name : String) : Option (List Char) :=
  let stem := (nameOf directory ++ "/").toList
  if stem.isPrefixOf name.toList then some (name.toList.drop stem.length) else none

/-- The tree without a directory and what is in it. -/
def removeDirectory (fs : Files) (path : String) : Except FileFault Files := do
  let place ← fs.resolve path
  fs.requireDirectory place
  .ok { fs with nodes :=
    fs.nodes.filterKeys fun name => name != nameOf place && (below place name).isNone }

/-- The names in a directory, ascending; there are none in what is no directory. -/
def list (fs : Files) (path : String) : List String :=
  match fs.resolve (if path.isEmpty then "." else path) with
  | .error _ => []
  | .ok place =>
    (fs.nodes.keys.filterMap (below place)).filterMap fun rest =>
      if rest.contains '/' then none else some (String.ofList rest)

/-- The files in the working directory, by name. -/
def files (fs : Files) : List (String × StoredFile) :=
  (fs.list "").filterMap fun name =>
    match fs.node? (fs.home ++ [name]) with
    | some (.file f) => some (name, f)
    | _ => none

end Files

end Admission

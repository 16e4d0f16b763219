import Admission.Fault
import Admission.KeyMap
import Admission.Text.Lines

/-!
# Documents — the text of a store, line by line

  A store is a text of lines `key=value`. Blank lines and lines that begin with `#` or
  `!` are comments, and so that a change leaves them alone a document keeps every line
  in its place. Values are taken as they are after the first `=`, without escapes, but
  without the blanks at their beginning. Of several lines with one key the last counts.

  `check` says which entries can be stored: those that are read back as they were
  written.
-/

namespace Admission

/-! ### Entries that can be stored -/

/-- Whether a character begins a comment. -/
def startsComment (c : Char) : Bool := c == '#' || c == '!'

/-- Whether a character ends a line or is part of a line's end. -/
def endsLine (c : Char) : Bool := c == '\r' || c == '\n'

/-- Whether a key is read back as it was written. -/
def isStorableKey (key : String) : Bool :=
  !key.isEmpty && !Text.startsBlank key && !Text.endsBlank key &&
    !key.toList.head?.any startsComment && !key.toList.any fun c => c == '=' || endsLine c

/-- Whether a value is read back as it was written. -/
def isStorableValue (value : String) : Bool :=
  !Text.startsBlank value && !value.toList.any endsLine

/-- Refuses an entry that would not be read back as it was written. -/
def checkEntry (key value : String) : Except Fault Unit :=
  if !isStorableKey key then .error (.unstorableKey key)
  else if !isStorableValue value then .error (.unstorableValue key value)
  else .ok ()

/-! ### Lines -/

/-- A line of a store. -/
inductive Line where
  /-- A blank line or a comment, as it stands. -/
  | verbatim (text : String)
  /-- A value under a key. -/
  | entry (key value : String)
  deriving DecidableEq, Repr

namespace Line

/-- The characters before and after the first equal sign; without one all characters are
before it. -/
def divide : List Char → List Char × List Char
  | [] => ([], [])
  | '=' :: cs => ([], cs)
  | c :: cs =>
    let (before, after) := divide cs
    (c :: before, after)

/-- Whether characters without blanks before them are a blank line or a comment. -/
def isComment : List Char → Bool
  | [] => true
  | c :: _ => startsComment c

/-- The line that characters spell. -/
def parse (cs : List Char) : Line :=
  let content := Text.trimLeft cs
  if isComment content then .verbatim (String.ofList cs)
  else
    let (key, value) := divide content
    -- blanks at the end of a line belong to its value
    .entry (String.ofList (Text.trimRight key)) (String.ofList (Text.trimLeft value))

/-- The characters of a line, without an end. -/
def render : Line → List Char
  | verbatim text => text.toList
  | entry key value => key.toList ++ '=' :: value.toList

/-- The entry of a line, if it has one. -/
def pair? : Line → Option (String × String)
  | verbatim _ => none
  | entry key value => some (key, value)

/-- Whether a line is an entry with a given key. -/
def hasKey (key : String) : Line → Bool
  | verbatim _ => false
  | entry k _ => k == key

/-- The value of a line that is an entry with a given key. -/
def valueOf (key : String) : Line → Option String
  | verbatim _ => none
  | entry k value => if k = key then some value else none

end Line

/-! ### Documents -/

/-- The lines of a store. -/
structure Document where
  /-- The lines, first line first. -/
  lines : List Line := []
  deriving DecidableEq, Repr, Inhabited

namespace Document

/-- The document that a text spells; every text spells one. -/
def parse (text : String) : Document := ⟨(Text.lines text.toList).map Line.parse⟩

/-- The text of a document; every line is ended. -/
def render (d : Document) : String :=
  String.ofList (d.lines.flatMap fun line => line.render ++ ['\n'])

/-- The document of the given entries, in key order. -/
def ofEntries (entries : KeyMap String) : Document :=
  ⟨entries.entries.map fun (key, value) => .entry key value⟩

/-- The values in force, by key. -/
def entries (d : Document) : KeyMap String := KeyMap.ofList (d.lines.filterMap Line.pair?)

/-- The value of the last line among the given ones that has a key. -/
def lastValue (key : String) : List Line → Option String
  | [] => none
  | line :: rest => (lastValue key rest).or (line.valueOf key)

/-- The value in force under a key. -/
def get? (d : Document) (key : String) : Option String := lastValue key d.lines

/-- The lines with the value of the last one that has a key replaced. -/
def replaceLast (key value : String) : List Line → List Line
  | [] => []
  | line :: rest =>
    if line.hasKey key && !rest.any (Line.hasKey key) then .entry key value :: rest
    else line :: replaceLast key value rest

/-- The document with a value set under a key: in the line in force, or in a new line at
the end. -/
def set (d : Document) (key value : String) : Document :=
  if d.lines.any (Line.hasKey key) then ⟨replaceLast key value d.lines⟩
  else ⟨d.lines ++ [.entry key value]⟩

/-- The document without the lines of a key. -/
def remove (d : Document) (key : String) : Document :=
  ⟨d.lines.filter fun line => !line.hasKey key⟩

/-- The document without entries; comments stay. -/
def clear (d : Document) : Document := ⟨d.lines.filter fun line => line.pair?.isNone⟩

/-- Whether a document has an entry. -/
def hasEntries (d : Document) : Bool := d.lines.any fun line => line.pair?.isSome

/-- The document that is read back after this one was written. -/
def reread (d : Document) : Document := parse d.render

/-! ### Edits that tell what was there before -/

/-- The lines with another value in the last line that has a key, and the value that stood
there before; nothing if no line has the key. -/
def exchangeLast (key value : String) : List Line → Option (String × List Line)
  | [] => none
  | line :: rest =>
    match exchangeLast key value rest with
    -- a later line has the key, so this one is not in force
    | some (old, rest) => some (old, line :: rest)
    | none => (line.valueOf key).map fun old => (old, .entry key value :: rest)

/-- Sets a value under a key, and gives back the value that was in force. -/
def exchange (d : Document) (key value : String) : Option String × Document :=
  match exchangeLast key value d.lines with
  | some (old, lines) => (some old, ⟨lines⟩)
  | none => (none, ⟨d.lines ++ [.entry key value]⟩)

/-- Removes the lines of a key, and gives back the value that was in force. -/
def take (d : Document) (key : String) : Option String × Document := (d.get? key, d.remove key)

/-- Removes all entries, and tells whether a line is gone. -/
def drain (d : Document) : Bool × Document :=
  (d.clear.lines.length != d.lines.length, d.clear)

end Document

end Admission

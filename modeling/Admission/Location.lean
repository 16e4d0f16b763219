import Admission.Fault
import Admission.KeyMap

/-!
# Locations — where a store is

  One configured text says where a store is. The first that applies counts: it is a
  URL, or it names a text in the resource bundle, or it is the path of a file. Of the
  URLs those with the schemes `http` and `https` are remote stores, and those with the
  scheme `file` are paths; there are no others.

  Only the store at a path can be changed, and only a resource can never change.
-/

namespace Admission

/-! ### Resources -/

/-- The texts that come with a program, by name; slashes before a name do not count. -/
structure Bundle where
  /-- The texts, by name without slashes before it. -/
  texts : KeyMap String := KeyMap.empty
  deriving DecidableEq, Inhabited

namespace Bundle

/-- A name without the slashes before it. -/
def bareName (name : String) : String :=
  String.ofList (name.toList.dropWhile (· == '/'))

/-- The bundle with one more text; it replaces the one with the same name. -/
def insert (b : Bundle) (name text : String) : Bundle :=
  ⟨b.texts.insert (bareName name) text⟩

/-- The text of a name. -/
def get? (b : Bundle) (name : String) : Option String := b.texts.get? (bareName name)

/-- The bundle of a list of names and texts; of texts with the same name the last one
counts. -/
def ofList (texts : List (String × String)) : Bundle :=
  texts.foldl (fun b t => b.insert t.1 t.2) {}

end Bundle

/-! ### Locations -/

/-- Where a store is. -/
inductive Location where
  /-- A remote store. -/
  | remote (url : String)
  /-- A text of the resource bundle. -/
  | resource (name text : String)
  /-- A file. -/
  | path (path : String)
  deriving DecidableEq, Repr

namespace Location

/-- What stands before and after the first `://`. -/
def divideUrl : List Char → Option (List Char × List Char)
  | [] => none
  | ':' :: '/' :: '/' :: rest => some ([], rest)
  | c :: rest => (divideUrl rest).map fun (before, after) => (c :: before, after)

/-- Whether a text can be the scheme of a URL. -/
def isScheme : List Char → Bool
  | [] => false
  | c :: cs => c.isAlpha && cs.all fun d => d.isAlphanum || d == '+' || d == '.' || d == '-'

/-- The scheme of a URL, and what follows it. -/
def splitScheme (cs : List Char) : Option (List Char × List Char) :=
  (divideUrl cs).filter fun (scheme, _) => isScheme scheme

/-- The path of a file URL: the name of the machine at hand does not count. -/
def dropAuthority (cs : List Char) : List Char :=
  let authority := ['l', 'o', 'c', 'a', 'l', 'h', 'o', 's', 't']
  -- what follows these letters is not looked at, so a longer name loses them too
  if authority.isPrefixOf cs then cs.drop authority.length else cs

/-- The location of a URL, given its scheme in small letters, what follows the scheme, and
the whole. -/
def ofUrl (scheme : String) (rest : List Char) (url : String) : Except Fault Location :=
  match scheme with
  | "http" | "https" => .ok (.remote url)
  | "file" => .ok (.path (String.ofList (dropAuthority rest)))
  | _ => .error (.unsupportedScheme scheme)

/-- The location that a text names. -/
def resolve (text : String) (bundle : Bundle) : Except Fault Location :=
  let cs := Text.trimBoth text.toList
  let bare := String.ofList cs
  if cs.isEmpty then .error .emptyLocation
  else
    match splitScheme cs with
    | some (scheme, rest) => ofUrl (String.ofList (scheme.map Char.toLower)) rest bare
    | none =>
      -- a text of the bundle goes before a file of the same name
      match bundle.get? bare with
      | some text => .ok (.resource (Bundle.bareName bare) text)
      | none => .ok (.path bare)

/-- Whether the store can be changed. -/
def isWritable : Location → Bool
  | path _ => true
  | _ => false

/-- Whether the store may change by itself. -/
def isPollable : Location → Bool
  | resource _ _ => false
  | _ => true

/-- The location as a person is shown it. -/
def shown : Location → String
  | remote url => url
  | resource name _ => "resource:" ++ name
  | path p => p

end Location

end Admission

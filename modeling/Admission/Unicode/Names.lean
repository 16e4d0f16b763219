import Admission.Unicode.Category
import Admission.Unicode.Property
import Admission.Unicode.Script
import Admission.Unicode.Age
import Admission.Unicode.Segmentation

/-!
# Names of character classes — what may stand between the braces of a class

  A class is asked for by one name, which is that of a binary property, a general
  category or a script, or by the name of a property and the name of one of its
  values. Names are compared loosely: case, spaces, hyphens and underscores do not
  count, and neither do non-ASCII characters or a leading `is`.
-/

namespace Admission.Unicode.Names

/-! ### Loose comparison -/

/-- Whether a name begins with `is`, in any case. -/
def hasIsPrefix (cs : List Char) : Bool :=
  match cs with
  | a :: b :: _ => (a == 'i' || a == 'I') && (b == 's' || b == 'S')
  | _ => false

/-- The ASCII characters of a name in small letters, without spaces, hyphens and
underscores. -/
def squeeze (cs : List Char) : List Char :=
  (cs.filter fun c => c.toNat < 0x80 && !(c == ' ' || c == '_' || c == '-')).map Char.toLower

/-- The loose form of a name. The name `isc` keeps its beginning, which would leave a
single letter otherwise. -/
def normalize (cs : List Char) : String :=
  if hasIsPrefix cs then
    match squeeze (cs.drop 2) with
    | ['c'] => "isc"
    | rest => String.ofList rest
  else String.ofList (squeeze cs)

/-! ### Lookup -/

/-- The entry that a loose name stands for. -/
def lookup {α : Type} (table : List (List String × α)) (name : String) : Option α :=
  (table.find? fun row => row.1.contains name).map (·.2)

/-- The characters assigned in a version or before it. -/
def assignedBy (version : String) : Option CharSet :=
  let later := Age.byVersion.dropWhile fun row => !row.1.contains version
  match later with
  | [] => none
  | _ :: rest =>
    some (Category.unions
      ((Age.byVersion.take (Age.byVersion.length - rest.length)).map (·.2)))

/-- The class of one name: of a property, else of a category, else of a script. -/
def ofName (name : List Char) : Option CharSet :=
  let name := normalize name
  lookup Property.byName name
    |>.or (lookup Category.byName name)
    |>.or (lookup Script.byName name)

/-- The class of a property's value. -/
def ofValue (property value : List Char) : Option CharSet :=
  let value := normalize value
  match normalize property with
  | "gc" | "generalcategory" => lookup Category.byName value
  | "sc" | "script" => lookup Script.byName value
  | "scx" | "scriptextensions" => lookup Script.extensionsByName value
  | "age" => assignedBy value
  | "gcb" | "graphemeclusterbreak" => lookup Segmentation.graphemeClasses value
  | "wb" | "wordbreak" => lookup Segmentation.wordClasses value
  | "sb" | "sentencebreak" => lookup Segmentation.sentenceClasses value
  | _ => none

/-! ### Classes with letters of their own -/

/-- Digits: the decimal numbers. -/
def digits : CharSet := Category.decimalNumber

/-- Word characters: letters and what is written like them, marks, decimal numbers,
connecting punctuation and the joiners. -/
def wordCharacters : CharSet :=
  Category.unions [Property.alphabetic, Category.mark, Category.decimalNumber,
    Category.connectorPunctuation, Property.joinControl]

/-- Spaces: the characters with the property `White_Space`. -/
def spaces : CharSet := Property.whiteSpace

end Admission.Unicode.Names

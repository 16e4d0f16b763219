/-!
# TOML values — what a configuration document holds

  A document is a table of values. Tables remember how they came about, since that
  decides what may still be added to them: a table with a header of its own is closed to
  other headers, a table that only a longer header or a dotted key implied is not.

  Floating-point numbers, dates and times are checked when they are read, but nothing
  uses their values.
-/

namespace Admission.Toml

/-- How a table came about. -/
inductive Origin where
  /-- It has a header, or it is the document. -/
  | header
  /-- A longer header implied it. -/
  | implied
  /-- A dotted key implied it. -/
  | dotted
  /-- It stands between braces. -/
  | inlined
  /-- A dotted key between braces implied it. -/
  | dottedInline
  deriving DecidableEq, Repr

/-- A value of a document. -/
inductive Value where
  /-- A text. -/
  | string (s : String)
  /-- A whole number. -/
  | integer (i : Int)
  /-- A floating-point number. -/
  | float
  /-- True or false. -/
  | boolean (b : Bool)
  /-- A date, a time or both. -/
  | datetime
  /-- Values between square brackets. -/
  | array (items : List Value)
  /-- Values under keys. -/
  | table (origin : Origin) (entries : List (String × Value))
  /-- Tables with doubled headers, by their entries. -/
  | tables (rows : List (List (String × Value)))
  deriving Inhabited

/-- The entries of a table, in the order in which they were added. -/
abbrev Table := List (String × Value)

namespace Table

/-- The value under a key. -/
def get? (t : Table) (key : String) : Option Value := List.lookup key t

/-- The table with the value of one of its keys replaced. -/
def replace (t : Table) (key : String) (v : Value) : Table :=
  t.map fun e => if e.1 == key then (key, v) else e

/-- The table with a new key; there is none if the key is there. -/
def add? (t : Table) (key : String) (v : Value) : Option Table :=
  match t.get? key with
  | some _ => none
  | none => some (t ++ [(key, v)])

/-- The table without a key. -/
def erase (t : Table) (key : String) : Table := t.filter fun e => e.1 != key

end Table

end Admission.Toml

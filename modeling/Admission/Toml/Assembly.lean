import Admission.Toml.Value

/-!
# Assembly — from headers and keys to one table

  A document is a sequence of sections: pairs of dotted keys and values, each section
  but the first under a header. The header tells the place of its table; the tables on
  the way are made as they are needed.

  A key has at most one value and a table at most one header. A dotted key does not
  enter a table that has a header, nor does a header enter a value, and in a table of
  its own kind a doubled header always means the last row.
-/

namespace Admission.Toml

/-- A key with its dots resolved; it is never empty. -/
abbrev KeyPath := List String

/-- A dotted key with its value. -/
abbrev Pair := KeyPath × Value

/-- The header of a section. -/
structure Header where
  /-- The place of the table. -/
  path : KeyPath
  /-- Whether the header is doubled, and the table a new row. -/
  isRow : Bool

/-- A part of a document. -/
structure Section where
  /-- The header; the first section has none. -/
  header : Option Header
  /-- The pairs, first pair first. -/
  pairs : List Pair

/-! ### Places -/

/-- What is done to the table at a place: given how the table came about and its entries,
the result and the entries after it. -/
abbrev Visit (α : Type) := Origin → Table → Option (α × Table)

/-- The table that a step leads into, if it may be entered: how it came about, its entries,
and what becomes of the value when the entries change. -/
def enter (dottedKey : Bool) : Option Value → Option (Origin × Table × (Table → Value))
  | none =>
    let origin := if dottedKey then Origin.dotted else .implied
    some (origin, [], .table origin)
  | some (.table origin t) =>
    let enterable :=
      match origin with
      | .header => !dottedKey
      | .implied | .dotted => true
      | .inlined | .dottedInline => false
    if enterable then some (origin, t, .table origin) else none
  | some (.tables rows) =>
    match rows.getLast? with
    | none => none
    | some row => some (.header, row, fun t => .tables (rows.dropLast ++ [t]))
  | some _ => none

/-- Visits the table at a place; the tables on the way are made as they are needed. -/
def visit {α : Type} (dottedKey : Bool) (f : Visit α) : KeyPath → Visit α
  | [], origin, t => f origin t
  | key :: path, _, t => do
    let (origin, inner, rebuild) ← enter dottedKey (t.get? key)
    let (result, inner) ← visit dottedKey f path origin inner
    let value := rebuild inner
    some (result, if (t.get? key).isSome then t.replace key value else t ++ [(key, value)])

/-! ### Pairs -/

/-- Adds a value under the last part of a dotted key. The table that the other parts lead to
must be one that dotted keys make, and without other parts it must not be one. -/
def addPair (t : Table) (p : Pair) : Option Table := do
  let key ← p.1.getLast?
  let path := p.1.dropLast
  let (_, t) ← visit true (fun origin t =>
    if (origin == .dotted) == path.isEmpty then none
    else (t.add? key p.2).map fun t => ((), t)) path .header t
  some t

/-- Enters a table that dotted keys between braces make. -/
def enterInline : Option Value → Option Table
  | none => some []
  | some (.table .dottedInline t) => some t
  | some _ => none

/-- Adds a value under a dotted key to a table between braces. A key with one part is not
added to a table that dotted keys make, nor a key with more parts to any other. -/
def addInline (value : Value) : KeyPath → Table → Option Table
  | [], _ => none
  | [key], t => t.add? key value
  | key :: path, t => do
    let inner ← addInline value path (← enterInline (t.get? key))
    let value := Value.table .dottedInline inner
    some (if (t.get? key).isSome then t.replace key value else t ++ [(key, value)])

/-- The table of pairs between braces. -/
def inlineTable (pairs : List Pair) : Option Value :=
  (pairs.foldlM (fun t p => addInline p.2 p.1 t) []).map (.table .inlined)

/-! ### Sections -/

/-- Makes room for the table of a header: the entries that the table has already, because
longer headers implied it, and the document without it. -/
def openTable (header : Header) (root : Table) : Option (Table × Table) := do
  let key ← header.path.getLast?
  visit false (fun _ t =>
    match t.get? key, header.isRow with
    | none, false => some ([], t)
    | some (.table .implied inner), false => some (inner, t.erase key)
    | none, true => some ([], t ++ [(key, .tables [])])
    | some (.tables _), true => some ([], t)
    | _, _ => none) header.path.dropLast .header root

/-- Puts the table of a header into its place. -/
def closeTable (header : Header) (t root : Table) : Option Table := do
  let key ← header.path.getLast?
  let (_, root) ← visit false (fun _ parent =>
    match parent.get? key, header.isRow with
    | none, false => some ((), parent ++ [(key, .table .header t)])
    | some (.tables rows), true => some ((), parent.replace key (.tables (rows ++ [t])))
    | _, _ => none) header.path.dropLast .header root
  some root

/-- The document with one more section. -/
def addSection (root : Table) (s : Section) : Option Table :=
  match s.header with
  | none => s.pairs.foldlM addPair root
  | some header => do
    let (t, root) ← openTable header root
    closeTable header (← s.pairs.foldlM addPair t) root

/-- The table of all sections. -/
def assemble (sections : List Section) : Option Table := sections.foldlM addSection []

end Admission.Toml

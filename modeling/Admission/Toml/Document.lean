import Admission.Toml.Assembly
import Admission.Toml.Number

/-!
# TOML documents — from text to a table

  A document is a sequence of lines: headers, pairs of keys and values, comments and
  blank lines. Values may hold values; they may not nest too deeply, nor may a key have
  too many parts.
-/

namespace Admission.Toml

/-- How deeply values may nest, and how many parts a key may have: less than this. -/
def nestingLimit : Nat := 80

namespace Reader

/-! ### Keys -/

/-- Whether a character may stand in a key without quotation marks. -/
def isBare (c : Char) : Bool := c.isAlphanum || c == '-' || c == '_'

/-- A part of a key. -/
def keyPart : Reader String := do
  match ← peek with
  | some '"' =>
    advance
    quotedText
  | some '\x27' =>
    advance
    literalText
  | _ =>
    let cs ← span isBare
    require !cs.isEmpty
    return String.ofList cs

/-- The parts of a key after those that were found, last first. -/
def keyParts : Nat → List String → Reader KeyPath
  | 0, _ => failure
  | fuel + 1, found => do
    spaces
    let part ← keyPart
    spaces
    if ← accept ['.'] then keyParts fuel (part :: found)
    else return (part :: found).reverse

/-- A key with blanks around its parts. -/
def key : Reader KeyPath := do
  let path ← keyParts ((← rest).length + 1) []
  require (path.length < nestingLimit)
  return path

/-! ### Values -/

/-- The rest of a word that names a value. -/
def word (w : String) (v : Value) : Reader Value := do
  expect w.toList
  return v

/-- A value without values in it. -/
def scalar : Reader Value := do
  match ← peek with
  | some '"' | some '\x27' => .string <$> text
  | some 't' => word "true" (.boolean true)
  | some 'f' => word "false" (.boolean false)
  | some 'i' => word "inf" .float
  | some 'n' => word "nan" .float
  | _ => number

mutual

/-- A value that `depth` others hold. -/
def value : Nat → Nat → Reader Value
  | 0, _ => failure
  | fuel + 1, depth => do
    match ← peek with
    | some '[' =>
      require (depth + 1 < nestingLimit)
      advance
      skip
      if ← accept [']'] then return .array []
      else .array <$> arrayItems fuel (depth + 1) []
    | some '{' =>
      require (depth + 1 < nestingLimit)
      advance
      spaces
      if ← accept ['}'] then return .table .inlined []
      else do
        match inlineTable (← inlinePairs fuel (depth + 1) []) with
        | none => failure
        | some v => return v
    | _ => scalar

/-- The values up to a closing bracket, after those that were found, last first. -/
def arrayItems : Nat → Nat → List Value → Reader (List Value)
  | 0, _, _ => failure
  | fuel + 1, depth, found => do
    let found := (← value fuel depth) :: found
    skip
    if ← accept [','] then
      skip
      if ← accept [']'] then return found.reverse
      else arrayItems fuel depth found
    else
      expect [']']
      return found.reverse

/-- The pairs up to a closing brace, after those that were found, last first. -/
def inlinePairs : Nat → Nat → List Pair → Reader (List Pair)
  | 0, _, _ => failure
  | fuel + 1, depth, found => do
    let path ← key
    expect ['=']
    spaces
    let found := (path, ← value fuel depth) :: found
    spaces
    if ← accept [','] then inlinePairs fuel depth found
    else
      expect ['}']
      return found.reverse

end

/-! ### Lines -/

/-- A line of a document. -/
inductive Line where
  /-- A header. -/
  | header (h : Header)
  /-- A pair. -/
  | pair (p : Pair)

/-- A header, at its first bracket, with the end of its line. -/
def header : Reader Header := do
  let isRow ← accept ['[', '[']
  if !isRow then advance
  let path ← key
  expect (if isRow then [']', ']'] else [']'])
  endLine
  return { path, isRow }

/-- A pair with the end of its line. -/
def pair : Reader Pair := do
  let path ← key
  expect ['=']
  spaces
  let v ← value (2 * (← rest).length + 2) 0
  endLine
  return (path, v)

/-- The lines after those that were found, last first. -/
def lines : Nat → List Line → Reader (List Line)
  | 0, _ => failure
  | fuel + 1, found => do
    spaces
    match ← peek with
    | none => return found.reverse
    | some '#' | some '\n' | some '\r' =>
      endLine
      lines fuel found
    | some '[' => lines fuel (.header (← header) :: found)
    | some _ => lines fuel (.pair (← pair) :: found)

end Reader

/-! ### Documents -/

/-- The sections of lines; the pairs before the first header are a section without one. -/
def sections : List Reader.Line → List Section
  | [] => [⟨none, []⟩]
  | .pair p :: rest =>
    match sections rest with
    | ⟨none, pairs⟩ :: others => ⟨none, p :: pairs⟩ :: others
    | others => ⟨none, [p]⟩ :: others
  | .header h :: rest =>
    match sections rest with
    | ⟨none, pairs⟩ :: others => ⟨none, []⟩ :: ⟨some h, pairs⟩ :: others
    | others => ⟨none, []⟩ :: ⟨some h, []⟩ :: others

/-- The table that a text spells, if it is a document. A byte order mark before it does not
count. -/
def ofText? (s : String) : Option Table := do
  let cs := s.toList
  let cs := if cs.head? == some '\ufeff' then cs.drop 1 else cs
  let (lines, _) ← (Reader.lines (cs.length + 2) []).run cs
  assemble (sections lines)

end Admission.Toml

/-!
# UTF-8 — the characters that bytes spell

  A character takes one to four bytes: a leading byte that tells how many follow, and
  those that follow. The second byte is limited so that no character has two spellings
  and no surrogate has one.

  Bytes that spell no character are divided into parts: each part is as much of the
  beginning of a character as there is, or one byte that begins none. `read` tells
  characters and parts; a text shown in spite of them has a replacement character for
  each part.
-/

namespace Admission.Text.Utf8

/-- A byte. -/
abbrev Byte := UInt8

/-- The beginning of a character of several bytes. -/
structure Begun where
  /-- The number that the bytes so far spell. -/
  value : Nat
  /-- How many bytes are missing, the next one not counted. -/
  later : Nat
  /-- The least next byte. -/
  least : Nat := 0x80
  /-- The greatest next byte. -/
  greatest : Nat := 0xbf

/-- A character that is complete or begun. -/
inductive Progress where
  /-- A complete character. -/
  | complete (c : Char)
  /-- The beginning of one. -/
  | begun (b : Begun)

/-- What a byte begins, if it begins anything. -/
def first (byte : Byte) : Option Progress :=
  let n := byte.toNat
  if n < 0x80 then some (.complete (Char.ofNat n))
  else if 0xc2 ≤ n ∧ n ≤ 0xdf then some (.begun { value := n - 0xc0, later := 0 })
  else if n = 0xe0 then some (.begun { value := 0, later := 1, least := 0xa0 })
  else if n = 0xed then some (.begun { value := 0xd, later := 1, greatest := 0x9f })
  else if 0xe1 ≤ n ∧ n ≤ 0xef then some (.begun { value := n - 0xe0, later := 1 })
  else if n = 0xf0 then some (.begun { value := 0, later := 2, least := 0x90 })
  else if n = 0xf4 then some (.begun { value := 4, later := 2, greatest := 0x8f })
  else if 0xf1 ≤ n ∧ n ≤ 0xf3 then some (.begun { value := n - 0xf0, later := 2 })
  else none

/-- What a byte makes of a beginning, if it continues it. -/
def Begun.next (b : Begun) (byte : Byte) : Option Progress :=
  let n := byte.toNat
  if b.least ≤ n ∧ n ≤ b.greatest then
    let value := b.value * 64 + n % 64
    match b.later with
    | 0 => some (.complete (Char.ofNat value))
    | k + 1 => some (.begun { value, later := k })
  else none

/-- The characters that bytes spell, after a beginning if there is one; a part that spells
none is `none`. -/
def readFrom : Option Begun → List Byte → List (Option Char)
  | none, [] => []
  | some _, [] => [none]
  | begun?, byte :: rest =>
    match begun?.bind (·.next byte) with
    | some (.complete c) => some c :: readFrom none rest
    | some (.begun b) => readFrom (some b) rest
    | none =>
      let broken := if begun?.isSome then [none] else []
      broken ++
        match first byte with
        | some (.complete c) => some c :: readFrom none rest
        | some (.begun b) => readFrom (some b) rest
        | none => none :: readFrom none rest

/-- The characters that bytes spell; a part that spells none is `none`. -/
def read (bytes : List Byte) : List (Option Char) := readFrom none bytes

/-- The text that bytes spell, if they spell one. -/
def text? (bytes : List Byte) : Option String := ((read bytes).mapM id).map String.ofList

/-- The text that bytes spell, with a replacement character for each part that spells
none. -/
def lossy (bytes : List Byte) : String :=
  String.ofList ((read bytes).map fun c => c.getD '\ufffd')

end Admission.Text.Utf8

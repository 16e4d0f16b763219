import Admission.KeyMap
import Admission.Token

/-!
# Token tables — the tokens in force, by key

  A table publishes maps of tokens. Each map has a generation, the number of maps that
  were published before it, so two maps with the same generation are the same map.
  A value that spells no token leaves its key without one.
-/

namespace Admission

/-- A published map of tokens; the first one is empty. -/
structure TokenMap where
  /-- How many maps were published before. -/
  generation : Nat := 0
  /-- The tokens, by key. -/
  tokens : KeyMap Token := KeyMap.empty
  deriving Inhabited

namespace TokenMap

/-- The token of a key. -/
def get? (m : TokenMap) (key : String) : Option Token := m.tokens.get? key

/-- The keys with a token, ascending. -/
def keys (m : TokenMap) : List String := m.tokens.keys

/-- The number of tokens. -/
def size (m : TokenMap) : Nat := m.tokens.size

/-- The next map. -/
def publish (m : TokenMap) (tokens : KeyMap Token) : TokenMap := ⟨m.generation + 1, tokens⟩

/-- The tokens that the values of a store spell. -/
def compile (entries : Entries) : KeyMap Token := entries.filterMap Token.parse?

/-- The number of values that spell no token. -/
def rejected (entries : Entries) : Nat := entries.size - (compile entries).size

/-- The map after a key was given a value. -/
def upsert (m : TokenMap) (key raw : String) : TokenMap :=
  m.publish <|
    match Token.parse? raw with
    | some token => m.tokens.insert key token
    -- a value that spells no token takes away the one that was there
    | none => m.tokens.erase key

/-- The map after a key is gone; a key without a token changes nothing. -/
def remove (m : TokenMap) (key : String) : TokenMap :=
  if m.tokens.contains key then m.publish (m.tokens.erase key) else m

/-- The map after all keys are gone. -/
def clear (m : TokenMap) : TokenMap := m.publish KeyMap.empty

/-- The map of a store that was read anew. -/
def rebuild (m : TokenMap) (entries : Entries) : TokenMap := m.publish (compile entries)

/-- The map after an attempt to read a store anew, and the generation published; when the
store cannot be read the map stays. -/
def rebuildFrom (m : TokenMap) (source : Except Fault Entries) : Except Fault Nat × TokenMap :=
  match source with
  | .ok entries => (.ok (m.rebuild entries).generation, m.rebuild entries)
  | .error cause => (.error cause, m)

end TokenMap

end Admission

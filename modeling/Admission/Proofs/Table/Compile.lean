import Admission.Proofs.Store.Telling
import Admission.Selector

/-!
# Compiling a store — the tokens that its values spell

  `TokenMap.compile` reads a whole store at once; the operations of a table follow it
  one key at a time. Both come to the same: each edit of the entries is matched by one
  operation of the table, also where a value spells no token and its key has to lose
  the token that it had.

  `applied_eq_compile` puts this together. A table that holds the tokens of a store,
  and is told a true account of what the store did, holds the tokens of the store that
  came out.
-/

namespace Admission

namespace TokenMap

theorem get?_compile (entries : Entries) (key : String) :
    (compile entries).get? key = (entries.get? key).bind Token.parse? :=
  KeyMap.get?_filterMap entries Token.parse? key

theorem compile_erase (entries : Entries) (key : String) :
    compile (entries.erase key) = (compile entries).erase key := by
  apply KeyMap.ext_get?
  intro k
  rw [get?_compile, KeyMap.get?_erase, KeyMap.get?_erase, get?_compile]
  by_cases h : k = key
  · simp [h]
  · simp [h]

theorem compile_insert (entries : Entries) (key raw : String) :
    compile (entries.insert key raw) =
      match Token.parse? raw with
      | some token => (compile entries).insert key token
      | none => (compile entries).erase key := by
  apply KeyMap.ext_get?
  intro k
  rw [get?_compile, KeyMap.get?_insert]
  cases hp : Token.parse? raw with
  | some token =>
    show _ = ((compile entries).insert key token).get? k
    rw [KeyMap.get?_insert, get?_compile]
    by_cases h : k = key
    · simp [h, hp]
    · simp [h]
  | none =>
    -- a value that spells no token takes away the one that was there
    show _ = ((compile entries).erase key).get? k
    rw [KeyMap.get?_erase, get?_compile]
    by_cases h : k = key
    · simp [h, hp]
    · simp [h]

/-! ### Operations of a table -/

theorem tokens_upsert {m : TokenMap} {entries : Entries} (h : m.tokens = compile entries)
    (key raw : String) : (m.upsert key raw).tokens = compile (entries.insert key raw) := by
  rw [compile_insert, ← h]
  unfold upsert
  cases Token.parse? raw with
  | some token => rfl
  | none => rfl

/-- Removing a key is erasing its token, also where there is none and nothing is published. -/
theorem tokens_remove (m : TokenMap) (key : String) :
    (m.remove key).tokens = m.tokens.erase key := by
  unfold remove
  split
  · rfl
  · next h =>
    apply KeyMap.ext_get?
    intro k
    rw [KeyMap.get?_erase]
    by_cases hk : k = key
    · -- there is no token to erase
      rw [if_pos hk, hk]
      have hnone : ¬ (m.tokens.get? key).isSome = true := h
      rw [Option.not_isSome_iff_eq_none] at hnone
      exact hnone
    · rw [if_neg hk]

end TokenMap

namespace Selector

/-- A table that holds the tokens of a store holds those of the store that comes out, once
it is told a true account and the store can be read. -/
theorem applied_eq_compile {event : ChangeEvent} {source : String} {before after : Entries}
    {table : TokenMap} (ht : event.Tells source before after)
    (h : table.tokens = TokenMap.compile before) :
    (applied (.ok after) event table).tokens = TokenMap.compile after := by
  obtain ⟨-, ht⟩ := ht
  unfold applied
  cases hk : event.kind with
  | keyAdded =>
    rw [hk] at ht
    obtain ⟨key, value, hkey, hvalue, -, rfl⟩ := ht
    simp only [hkey, hvalue, Option.getD_some]
    exact TokenMap.tokens_upsert h key value
  | keySet =>
    rw [hk] at ht
    obtain ⟨key, value, hkey, hvalue, -, rfl⟩ := ht
    simp only [hkey, hvalue, Option.getD_some]
    exact TokenMap.tokens_upsert h key value
  | keyCleared =>
    rw [hk] at ht
    obtain ⟨key, hkey, -, rfl⟩ := ht
    simp only [hkey]
    rw [TokenMap.tokens_remove, h, TokenMap.compile_erase]
  | cleared =>
    rw [hk] at ht
    obtain ⟨-, rfl⟩ := ht
    rfl
  -- the store is enumerated anew, whatever the table held
  | reloaded => rfl
  | failed =>
    rw [hk] at ht
    -- a failure leaves the entries as they were
    change after = before at ht
    rw [ht]
    exact h

end Selector

end Admission

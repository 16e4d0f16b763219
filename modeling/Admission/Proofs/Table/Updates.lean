import Admission.Proofs.Table.Compile

/-!
# Updates of a table — one key at a time, or everything anew

  A table is kept up to date in small steps: a key gets a value, a key is gone, all keys
  are gone. Now and then the whole store is read anew, and that may fail. Beside the
  table we keep the plain map of texts that a store would have after the same updates.

  Both ways of keeping up come to the same table. Whatever the updates and their order,
  the tokens are those that a full rebuild of the map beside the table would give
  (`updates_eq_rebuild`), so a value that spells no token is as good as no value, and yet
  it has to be in the map: the next rebuild counts it among the rejected ones.
-/

namespace Admission

/-! ### What is kept and what is rejected -/

namespace KeyMap

variable {α β : Type}

/-- An entry is kept or it is not, so the two parts have as many entries as the whole. -/
theorem length_keepEntries (f : α → Option β) (es : List (String × α)) :
    (keepEntries f es).length + (es.filter fun e => (f e.2).isNone).length = es.length := by
  induction es with
  | nil => rfl
  | cons e rest ih =>
    obtain ⟨key, x⟩ := e
    rw [List.filter_cons, List.length_cons]
    unfold keepEntries
    cases hf : f x with
    | some y =>
      simp only [Option.isNone_some, Bool.false_eq_true, if_false, List.length_cons]
      omega
    | none =>
      simp only [Option.isNone_none, if_true, List.length_cons]
      omega

end KeyMap

namespace TokenMap

/-- The entries of a store whose value spells no token. -/
def malformed (entries : Entries) : List (String × String) :=
  entries.entries.filter fun e => (Token.parse? e.2).isNone

/-- Every entry has a token or is malformed. -/
theorem size_compile (entries : Entries) :
    (compile entries).size + (malformed entries).length = entries.size :=
  KeyMap.length_keepEntries Token.parse? entries.entries

/-- No store has fewer entries than tokens. -/
theorem size_compile_le (entries : Entries) : (compile entries).size ≤ entries.size := by
  have hsize := size_compile entries
  omega

/-- What is rejected is what is malformed. -/
theorem rejected_eq (entries : Entries) : rejected entries = (malformed entries).length := by
  have hsize := size_compile entries
  unfold rejected
  omega

/-! ### Updates -/

/-- What is done to a table. -/
inductive Update where
  /-- A key gets a value. -/
  | upsert (key raw : String)
  /-- A key is gone. -/
  | remove (key : String)
  /-- All keys are gone. -/
  | clear
  /-- The store is read anew, or an attempt to read it fails. -/
  | rebuild (source : Except Fault Entries)

/-- The table after an update. -/
def update (m : TokenMap) : Update → TokenMap
  | .upsert key raw => m.upsert key raw
  | .remove key => m.remove key
  | .clear => m.clear
  | .rebuild source => (m.rebuildFrom source).2

/-- The map beside the table after an update. -/
def Update.onEntries (entries : Entries) : Update → Entries
  | .upsert key raw => entries.insert key raw
  | .remove key => entries.erase key
  | .clear => KeyMap.empty
  | .rebuild (.ok source) => source
  | .rebuild (.error _) => entries

/-- A table that starts out empty, after updates. -/
def updated (updates : List Update) : TokenMap := updates.foldl update {}

/-- The map beside it. -/
def recorded (updates : List Update) : Entries := updates.foldl Update.onEntries KeyMap.empty

variable {m : TokenMap} {entries : Entries}

/-- One update keeps the tokens of the table those of the map. -/
theorem tokens_update (h : m.tokens = compile entries) (u : Update) :
    (m.update u).tokens = compile (u.onEntries entries) := by
  cases u with
  | upsert key raw => exact tokens_upsert h key raw
  | remove key =>
    -- a key without a token changes nothing, and erasing it does not either
    show (m.remove key).tokens = compile (entries.erase key)
    rw [tokens_remove, h, compile_erase]
  | clear => rfl
  | rebuild source =>
    cases source with
    | ok source => rfl
    | error cause => exact h

/-- So do any number of updates, one after the other. -/
theorem tokens_updates (h : m.tokens = compile entries) (updates : List Update) :
    (updates.foldl update m).tokens = compile (updates.foldl Update.onEntries entries) := by
  induction updates generalizing m entries with
  | nil => exact h
  | cons u rest ih =>
    have hstep : (m.update u).tokens = compile (u.onEntries entries) := tokens_update h u
    simp only [List.foldl_cons]
    exact ih hstep

/-- After any updates the tokens of a table are those that the map beside it spells: a key has the
token of its value, and no token if it has no value or one that spells none. An attempt to
rebuild the table that fails gives the fault of the source and publishes nothing; one that
succeeds publishes the next map. The entries that it rejects are the malformed ones, and never
more than there are entries. -/
theorem updates_eq_rebuild (updates : List Update) :
    (updated updates).tokens = compile (recorded updates) ∧
    (∀ key, (updated updates).get? key = ((recorded updates).get? key).bind Token.parse?) ∧
    (∀ cause, (updated updates).rebuildFrom (.error cause) = (.error cause, updated updates)) ∧
    ∀ source : Entries,
      (updated updates).rebuildFrom (.ok source) =
        (.ok ((updated updates).generation + 1), (updated updates).publish (compile source)) ∧
      (compile source).size ≤ source.size ∧
      rejected source = (malformed source).length := by
  have hempty : ({} : TokenMap).tokens = compile KeyMap.empty := rfl
  have htokens : (updated updates).tokens = compile (recorded updates) :=
    tokens_updates hempty updates
  refine ⟨htokens, ?_, ?_, ?_⟩
  · intro key
    unfold get?
    rw [htokens, get?_compile]
  · intro cause
    rfl
  · intro source
    exact ⟨rfl, size_compile_le source, rejected_eq source⟩

/-- A value that spells no token takes the token of its key away, and is counted by the next
rebuild. -/
example :
    (updated [.upsert "a" "ERROR", .upsert "b" "INFO", .upsert "a" "LOUD"]).keys = ["b"] ∧
    rejected (recorded [.upsert "a" "ERROR", .upsert "b" "INFO", .upsert "a" "LOUD"]) = 1 := by
  decide +kernel

end TokenMap

end Admission

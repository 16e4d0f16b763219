import Admission.Proofs.Document.Entries

/-!
# Documents as maps — what calls of a document give back

  A document is a list of lines in which a key may stand several times. Its users see a
  map: they ask for the value of a key, set a value, take a key away or clear everything,
  and are told what was there before.

  `implements_map` says that the lines cannot be told from the map of their entries. Each
  call gives back what the map would give back, and leaves lines whose entries are what
  the map would be (`call_eq`); so any number of calls, one after the other, get the same
  answers from both (`answers_eq`). Shadowed lines never show, and a key that was taken
  away does not come back.
-/

namespace Admission

/-! ### Lists without a key twice -/

namespace KeyMap

variable {α : Type}

/-- Where keys ascend, the last pair with a key is the first one. -/
theorem lastOf_eq_find (k : String) {es : List (String × α)}
    (h : es.Pairwise fun a b => a.1 < b.1) : lastOf k es = find k es := by
  induction es with
  | nil => rfl
  | cons e rest ih =>
    obtain ⟨a, x⟩ := e
    obtain ⟨hfirst, hrest⟩ := List.pairwise_cons.1 h
    simp only [lastOf, find]
    rw [ih hrest]
    by_cases hk : k = a
    · -- no later pair has the key
      have hnone : find k rest = none := by
        refine find_eq_none fun e he hke => ?_
        have hlt : a < e.1 := hfirst e he
        rw [hke, hk] at hlt
        exact String.lt_irrefl a hlt
      rw [hnone, if_pos hk, Option.none_or]
    · rw [if_neg hk, if_neg hk, Option.or_none]

/-- A map is the map of its own entries. -/
theorem ofList_entries (m : KeyMap α) : ofList m.entries = m := by
  apply ext_get?
  intro k
  rw [get?_ofList, lastOf_eq_find k m.ascending]
  rfl

end KeyMap

namespace Document

/-- The document of a map has the entries of the map. -/
theorem entries_ofEntries (m : Entries) : (ofEntries m).entries = m := by
  have hpairs : (ofEntries m).lines.filterMap Line.pair? = m.entries := by
    unfold ofEntries
    rw [List.filterMap_map]
    exact List.filterMap_some
  unfold entries
  rw [hpairs, KeyMap.ofList_entries]

/-! ### Calls -/

/-- What is asked of a document, or of a map. -/
inductive Call where
  /-- The value of a key. -/
  | get (key : String)
  /-- Another value for a key. -/
  | set (key value : String)
  /-- To take a key away. -/
  | remove (key : String)
  /-- To take all keys away. -/
  | clear

/-- What a call gives back. -/
inductive Answer where
  /-- The value that is, or was, in force. -/
  | value (found : Option String)
  /-- Whether anything was taken away. -/
  | gone (something : Bool)
  deriving DecidableEq

/-- What a document gives back, and the document after the call. -/
def call (d : Document) : Call → Answer × Document
  | .get key => (.value (d.get? key), d)
  | .set key value => ((d.exchange key value).map .value id)
  | .remove key => ((d.take key).map .value id)
  | .clear => (d.drain.map .gone id)

/-- What a map gives back, and the map after the call. -/
def callMap (m : Entries) : Call → Answer × Entries
  | .get key => (.value (m.get? key), m)
  | .set key value => (.value (m.get? key), m.insert key value)
  | .remove key => (.value (m.get? key), m.erase key)
  | .clear => (.gone (!m.isEmpty), KeyMap.empty)

/-- The answers to calls, one after the other. -/
def answers {σ : Type} (step : σ → Call → Answer × σ) : σ → List Call → List Answer
  | _, [] => []
  | s, c :: rest => (step s c).1 :: answers step (step s c).2 rest

/-- A call gets the same answer from a document and from its entries, and leaves a document
with the entries that the map has then. -/
theorem call_eq (d : Document) (c : Call) :
    (d.call c).1 = (callMap d.entries c).1 ∧ (d.call c).2.entries = (callMap d.entries c).2 := by
  cases c with
  | get key =>
    have hget : d.get? key = d.entries.get? key := (get?_entries d key).symm
    exact ⟨congrArg Answer.value hget, rfl⟩
  | set key value =>
    simp only [call, callMap]
    rw [exchange_eq, get?_entries]
    exact ⟨rfl, entries_set d key value⟩
  | remove key =>
    simp only [call, callMap]
    rw [get?_entries]
    exact ⟨rfl, entries_remove d key⟩
  | clear =>
    simp only [call, callMap]
    rw [drain_eq, hasEntries_eq]
    exact ⟨rfl, entries_clear d⟩

/-- Any number of calls get the same answers from a document and from its entries. -/
theorem answers_eq (d : Document) (calls : List Call) :
    answers call d calls = answers callMap d.entries calls := by
  induction calls generalizing d with
  | nil => rfl
  | cons c rest ih =>
    obtain ⟨hanswer, hafter⟩ := call_eq d c
    simp only [answers]
    rw [hanswer, ih, hafter]

/-! ### Documents and maps -/

/-- Every document is as good as the map of its entries, whatever lines it has: a value is found
where the map has it, setting a value and removing a key give back the value that was in force
and do to the entries what they do to a map, clearing leaves no entry and tells whether there
was one, and any calls get the answers that the map would give. The document of a map has
exactly its entries. -/
theorem implements_map (d : Document) :
    (∀ key, d.get? key = d.entries.get? key) ∧
    (∀ key value, (d.exchange key value).1 = d.get? key ∧
      (d.exchange key value).2.entries = d.entries.insert key value) ∧
    (∀ key, (d.take key).1 = d.get? key ∧ (d.take key).2.entries = d.entries.erase key) ∧
    (d.drain.2.entries = KeyMap.empty ∧ (d.drain.1 = true ↔ d.entries ≠ KeyMap.empty)) ∧
    (∀ calls, answers call d calls = answers callMap d.entries calls) ∧
    ∀ m : Entries, (ofEntries m).entries = m := by
  refine ⟨?_, ?_, ?_, ⟨?_, ?_⟩, answers_eq d, entries_ofEntries⟩
  · intro key
    exact (get?_entries d key).symm
  · intro key value
    rw [exchange_eq]
    exact ⟨rfl, entries_set d key value⟩
  · intro key
    exact ⟨rfl, entries_remove d key⟩
  · rw [drain_eq]
    exact entries_clear d
  · have hempty := KeyMap.isEmpty_iff d.entries
    rw [drain_eq, hasEntries_eq, ne_eq, ← hempty]
    simp

/-- A key that stands twice is taken away with both its lines. -/
example :
    answers call (parse "a=INFO\n# a=HALT\na = ERROR") [.get "a", .remove "a", .get "a", .clear] =
      [.value (some "ERROR"), .value (some "ERROR"), .value none, .gone false] := by
  decide +kernel

end Document

end Admission

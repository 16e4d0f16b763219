import Admission.Document

/-!
# The entries of a document — what an edit does to the values in force

  A document is a list of lines, and its entries are a map. Of several lines with one
  key the last counts, so everything here follows one number: the last value of a key
  among the lines. `get?_entries` says that the map of entries reads off exactly that
  value, and each edit of the lines is an operation of the map:

    * `entries_set`: setting a key inserts it,
    * `entries_remove`: removing a key erases it, shadowed lines included,
    * `entries_clear`: clearing leaves the empty map.
-/

namespace Admission

/-! ### Maps built from lists -/

namespace KeyMap

variable {α : Type}

/-- The value that the last pair with a key has. -/
def lastOf (k : String) : List (String × α) → Option α
  | [] => none
  | e :: rest => (lastOf k rest).or (if k = e.1 then some e.2 else none)

theorem get?_foldl_insert (es : List (String × α)) (m : KeyMap α) (k : String) :
    (es.foldl (fun m e => m.insert e.1 e.2) m).get? k = (lastOf k es).or (m.get? k) := by
  induction es generalizing m with
  | nil => rfl
  | cons e rest ih =>
    rw [List.foldl_cons, ih (m.insert e.1 e.2), get?_insert]
    simp only [lastOf]
    by_cases h : k = e.1
    · simp [h]
    · simp [h]

theorem get?_ofList (es : List (String × α)) (k : String) :
    (ofList es).get? k = lastOf k es := by
  unfold ofList
  rw [get?_foldl_insert, get?_empty, Option.or_none]

/-- A map that reads `none` everywhere is empty, and so has nothing in it. -/
theorem isEmpty_iff_get? (m : KeyMap α) : m.isEmpty = true ↔ ∀ k, m.get? k = none := by
  rw [isEmpty_iff]
  constructor
  · intro h k
    rw [h]
    rfl
  · intro h
    apply ext_get?
    intro k
    rw [h k]
    rfl

end KeyMap

/-! ### The last value of a key -/

namespace Line

/-- A line has a key exactly when it has a value under it. -/
theorem isSome_valueOf (key : String) (line : Line) :
    (line.valueOf key).isSome = line.hasKey key := by
  cases line with
  | verbatim text => rfl
  | entry k value =>
    unfold valueOf hasKey
    by_cases h : k = key <;> simp [h]

theorem valueOf_eq_none {key : String} {line : Line} (h : line.hasKey key = false) :
    line.valueOf key = none := by
  have hv := isSome_valueOf key line
  rw [h] at hv
  exact Option.isSome_eq_false_iff.1 hv |> Option.isNone_iff_eq_none.1

/-- A line with one key has no value under another. -/
theorem valueOf_of_hasKey {key other : String} {line : Line} (h : line.hasKey key = true)
    (hne : other ≠ key) : line.valueOf other = none := by
  cases line with
  | verbatim text => rfl
  | entry k value =>
    have hk : k = key := by simpa [hasKey] using h
    show (if k = other then some value else none) = none
    rw [if_neg]
    intro he
    exact hne (he.symm.trans hk)

end Line

namespace Document

theorem lastOf_pairs (key : String) (lines : List Line) :
    KeyMap.lastOf key (lines.filterMap Line.pair?) = lastValue key lines := by
  induction lines with
  | nil => rfl
  | cons line rest ih =>
    cases line with
    | verbatim text =>
      show KeyMap.lastOf key (rest.filterMap Line.pair?) = (lastValue key rest).or none
      rw [ih, Option.or_none]
    | entry k value =>
      show (KeyMap.lastOf key (rest.filterMap Line.pair?)).or (if key = k then some value else none)
        = (lastValue key rest).or (if k = key then some value else none)
      rw [ih]
      by_cases h : k = key
      · simp [h]
      · simp [h, Ne.symm h]

/-- The map of entries and the search from the end find the same value. -/
theorem get?_entries (d : Document) (key : String) : d.entries.get? key = d.get? key := by
  unfold entries get?
  rw [KeyMap.get?_ofList, lastOf_pairs]

theorem lastValue_append (key : String) (xs ys : List Line) :
    lastValue key (xs ++ ys) = (lastValue key ys).or (lastValue key xs) := by
  induction xs with
  | nil => simp [lastValue]
  | cons line rest ih =>
    simp only [List.cons_append, lastValue]
    rw [ih, Option.or_assoc]

theorem isSome_lastValue (key : String) (lines : List Line) :
    (lastValue key lines).isSome = lines.any (Line.hasKey key) := by
  induction lines with
  | nil => rfl
  | cons line rest ih =>
    simp only [lastValue, List.any_cons]
    rw [Option.isSome_or, ih, Line.isSome_valueOf, Bool.or_comm]

/-! ### Edits -/

theorem lastValue_replaceLast {key : String} (value : String) {lines : List Line}
    (h : lines.any (Line.hasKey key) = true) (other : String) :
    lastValue other (replaceLast key value lines) =
      if other = key then some value else lastValue other lines := by
  induction lines with
  | nil => simp at h
  | cons line rest ih =>
    unfold replaceLast
    by_cases hlater : rest.any (Line.hasKey key) = true
    · -- the line in force is further on, and this one keeps its place before it
      simp only [hlater, Bool.not_true, Bool.and_false, Bool.false_eq_true, if_false, lastValue]
      rw [ih hlater]
      by_cases ho : other = key
      · simp [ho]
      · simp [ho]
    · -- this is the line in force
      have hlast : rest.any (Line.hasKey key) = false := by simpa using hlater
      have hline : line.hasKey key = true := by
        rw [List.any_cons, hlast, Bool.or_false] at h
        exact h
      simp only [hlast, hline, Bool.not_false, Bool.and_self, if_true, lastValue]
      by_cases ho : other = key
      · have hnone : lastValue key rest = none := by
          rw [← Option.not_isSome_iff_eq_none, isSome_lastValue, hlast]
          simp
        subst ho
        simp [hnone, Line.valueOf]
      · rw [Line.valueOf_of_hasKey hline ho]
        have hne : ¬ key = other := fun he => ho he.symm
        simp [ho, hne, Line.valueOf]

theorem get?_set (d : Document) (key value other : String) :
    (d.set key value).get? other = if other = key then some value else d.get? other := by
  unfold set get?
  by_cases h : d.lines.any (Line.hasKey key) = true
  · rw [if_pos h]
    exact lastValue_replaceLast value h other
  · rw [if_neg h, lastValue_append]
    by_cases ho : other = key
    · simp [ho, lastValue, Line.valueOf]
    · have hne : ¬ key = other := fun he => ho he.symm
      simp [ho, hne, lastValue, Line.valueOf]

/-- Setting a key of a document inserts it into the entries. -/
theorem entries_set (d : Document) (key value : String) :
    (d.set key value).entries = d.entries.insert key value := by
  apply KeyMap.ext_get?
  intro other
  rw [get?_entries, get?_set, KeyMap.get?_insert, get?_entries]

theorem get?_remove (d : Document) (key other : String) :
    (d.remove key).get? other = if other = key then none else d.get? other := by
  unfold remove get?
  show lastValue other (d.lines.filter fun line => !line.hasKey key) = _
  induction d.lines with
  | nil => simp [lastValue]
  | cons line rest ih =>
    rw [List.filter_cons]
    by_cases hk : line.hasKey key = true
    · simp only [hk, Bool.not_true, Bool.false_eq_true, if_false, lastValue]
      rw [ih]
      by_cases ho : other = key
      · simp [ho]
      · simp [ho, Line.valueOf_of_hasKey hk ho]
    · have hf : line.hasKey key = false := by simpa using hk
      simp only [hf, Bool.not_false, if_true, lastValue]
      rw [ih]
      by_cases ho : other = key
      · subst ho
        simp [Line.valueOf_eq_none hf]
      · simp [ho]

/-- Removing a key of a document erases it from the entries. -/
theorem entries_remove (d : Document) (key : String) :
    (d.remove key).entries = d.entries.erase key := by
  apply KeyMap.ext_get?
  intro other
  rw [get?_entries, get?_remove, KeyMap.get?_erase, get?_entries]

/-- A document without entries has the empty map. -/
theorem entries_clear (d : Document) : d.clear.entries = KeyMap.empty := by
  apply KeyMap.ext_get?
  intro other
  rw [get?_entries, KeyMap.get?_empty]
  unfold clear get?
  show lastValue other (d.lines.filter fun line => line.pair?.isNone) = none
  induction d.lines with
  | nil => rfl
  | cons line rest ih =>
    cases line with
    | verbatim text => simpa [Line.pair?, lastValue, Line.valueOf] using ih
    | entry k value => simpa [Line.pair?] using ih

/-- A document has an entry line exactly when some value is in force. -/
theorem hasEntries_eq (d : Document) : d.hasEntries = !d.entries.isEmpty := by
  rw [Bool.eq_iff_iff, Bool.not_eq_true', ← Bool.not_eq_true, KeyMap.isEmpty_iff_get?]
  constructor
  · -- the key of an entry line has a value
    intro h hall
    obtain ⟨line, hmem, hline⟩ := List.any_eq_true.1 h
    cases line with
    | verbatim text => simp [Line.pair?] at hline
    | entry key value =>
      have hkey : d.lines.any (Line.hasKey key) = true :=
        List.any_eq_true.2 ⟨_, hmem, by simp [Line.hasKey]⟩
      rw [← isSome_lastValue] at hkey
      have hnone := hall key
      rw [get?_entries] at hnone
      unfold get? at hnone
      rw [hnone] at hkey
      simp at hkey
  · -- a value comes from a line
    intro h
    obtain ⟨key, hkey⟩ := Classical.not_forall.1 h
    rw [get?_entries, ← Ne, ← Option.isSome_iff_ne_none] at hkey
    unfold get? at hkey
    rw [isSome_lastValue] at hkey
    obtain ⟨line, hmem, hline⟩ := List.any_eq_true.1 hkey
    refine List.any_eq_true.2 ⟨line, hmem, ?_⟩
    cases line with
    | verbatim text => simp [Line.hasKey] at hline
    | entry k value => rfl

/-! ### What edits tell -/

/-- The search for the line to exchange finds the value in force, and the line it has. -/
theorem exchangeLast_eq (key value : String) (lines : List Line) :
    exchangeLast key value lines =
      (lastValue key lines).map fun old => (old, replaceLast key value lines) := by
  induction lines with
  | nil => rfl
  | cons line rest ih =>
    have hlater := isSome_lastValue key rest
    have hline := Line.isSome_valueOf key line
    unfold exchangeLast replaceLast lastValue
    rw [ih]
    cases hl : lastValue key rest with
    | some old =>
      -- the line in force is further on
      rw [hl, Option.isSome_some] at hlater
      simp [← hlater]
    | none =>
      rw [hl, Option.isSome_none] at hlater
      cases hv : line.valueOf key with
      | none => rfl
      | some old =>
        rw [hv, Option.isSome_some] at hline
        simp [← hlater, ← hline]

/-- To exchange a value is to set it, and what is given back is the value that was in force. -/
theorem exchange_eq (d : Document) (key value : String) :
    d.exchange key value = (d.get? key, d.set key value) := by
  have hhas := isSome_lastValue key d.lines
  unfold exchange get? set
  rw [exchangeLast_eq]
  cases hv : lastValue key d.lines with
  | some old =>
    rw [hv, Option.isSome_some] at hhas
    simp [← hhas]
  | none =>
    rw [hv, Option.isSome_none] at hhas
    simp [← hhas]

/-- Clearing takes a line away exactly if there is an entry. -/
theorem drain_eq (d : Document) : d.drain = (d.hasEntries, d.clear) := by
  have hle : d.clear.lines.length ≤ d.lines.length := List.length_filter_le _ _
  have hlt : d.clear.lines.length < d.lines.length ↔ ∃ line ∈ d.lines, ¬ line.pair?.isNone = true :=
    List.length_filter_lt_length_iff_exists
  have hshorter : (d.clear.lines.length != d.lines.length) = d.hasEntries := by
    rw [Bool.eq_iff_iff, bne_iff_ne, hasEntries, List.any_eq_true]
    simp only [← Option.not_isNone, Bool.not_eq_true', ← Bool.not_eq_true]
    rw [← hlt]
    omega
  unfold drain
  rw [hshorter]

end Document

end Admission

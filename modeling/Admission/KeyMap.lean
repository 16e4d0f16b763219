import Admission.Text.Blank

/-!
# Key maps — finite maps from text keys, in key order

  A `KeyMap` is a list of pairs whose keys ascend strictly by code point. The order
  is part of the type, so two maps with the same entries are equal, and reading the
  keys off the list gives them sorted.

  The view of a map is the partial function `get?`; every operation below comes
  with the equation that says what it does to that view.
-/

namespace Admission

/-- A finite map from texts to `α`, kept in ascending order of its keys. -/
structure KeyMap (α : Type) where
  /-- The entries, smallest key first. -/
  entries : List (String × α)
  /-- No key occurs twice and the keys ascend. -/
  ascending : entries.Pairwise (fun a b => a.1 < b.1)

namespace KeyMap

variable {α β : Type}

/-! ### Entry lists -/

/-- The value under a key in a list of entries. -/
def find (k : String) : List (String × α) → Option α
  | [] => none
  | (a, x) :: rest => if k = a then some x else find k rest

/-- A list of entries with one key's value put in its place. -/
def place (k : String) (v : α) : List (String × α) → List (String × α)
  | [] => [(k, v)]
  | (a, x) :: rest =>
    if k = a then (k, v) :: rest
    else if k < a then (k, v) :: (a, x) :: rest
    else (a, x) :: place k v rest

theorem mem_place {k : String} {v : α} {es : List (String × α)} {e : String × α}
    (h : e ∈ place k v es) : e = (k, v) ∨ e ∈ es := by
  induction es with
  | nil => simpa [place] using h
  | cons d rest ih =>
    obtain ⟨a, x⟩ := d
    unfold place at h
    split at h
    · rcases List.mem_cons.1 h with h | h
      · exact .inl h
      · exact .inr (List.mem_cons_of_mem _ h)
    · split at h
      · rcases List.mem_cons.1 h with h | h
        · exact .inl h
        · exact .inr h
      · rcases List.mem_cons.1 h with h | h
        · exact .inr (h ▸ List.mem_cons_self)
        · exact (ih h).imp id (List.mem_cons_of_mem _)

/-- A key that is neither another nor below it is above it. -/
theorem lt_of_ne_of_not_lt {k a : String} (hne : k ≠ a) (hlt : ¬ k < a) : a < k := by
  rcases String.le_total a k with h | h
  · refine Decidable.byContradiction fun hn => hne ?_
    exact String.le_antisymm (String.not_lt.1 hn) h
  · refine Decidable.byContradiction fun hn => hne ?_
    exact String.le_antisymm h (String.not_lt.1 hlt)

theorem place_ascending (k : String) (v : α) {es : List (String × α)}
    (h : es.Pairwise (fun a b => a.1 < b.1)) :
    (place k v es).Pairwise (fun a b => a.1 < b.1) := by
  induction es with
  | nil => simp [place]
  | cons d rest ih =>
    obtain ⟨a, x⟩ := d
    have hd := (List.pairwise_cons.1 h).1
    have hr := (List.pairwise_cons.1 h).2
    unfold place
    split
    · next he => subst he; exact List.pairwise_cons.2 ⟨hd, hr⟩
    · next hne =>
      split
      · next hlt =>
        refine List.pairwise_cons.2 ⟨fun e he => ?_, h⟩
        rcases List.mem_cons.1 he with he | he
        · exact he ▸ hlt
        · exact String.lt_trans hlt (hd e he)
      · next hlt =>
        refine List.pairwise_cons.2 ⟨fun e he => ?_, ih hr⟩
        rcases mem_place he with he | he
        · exact he ▸ lt_of_ne_of_not_lt hne hlt
        · exact hd e he

/-! ### Operations -/

/-- The map without entries. -/
def empty : KeyMap α := ⟨[], .nil⟩

instance : Inhabited (KeyMap α) := ⟨empty⟩

/-- The value under a key. -/
def get? (m : KeyMap α) (k : String) : Option α := find k m.entries

/-- The map with one key's value replaced or added. -/
def insert (m : KeyMap α) (k : String) (v : α) : KeyMap α :=
  ⟨place k v m.entries, place_ascending k v m.ascending⟩

/-- The map without one key. -/
def erase (m : KeyMap α) (k : String) : KeyMap α :=
  ⟨m.entries.filter (fun e => e.1 ≠ k), m.ascending.filter _⟩

/-- The map of a list of pairs; of pairs with the same key the last one counts. -/
def ofList (es : List (String × α)) : KeyMap α :=
  es.foldl (fun m e => m.insert e.1 e.2) empty

/-- The keys, ascending. -/
def keys (m : KeyMap α) : List String := m.entries.map (·.1)

/-- The number of entries. -/
def size (m : KeyMap α) : Nat := m.entries.length

/-- Whether there is no entry. -/
def isEmpty (m : KeyMap α) : Bool := m.entries.isEmpty

/-- Whether a key has an entry. -/
def contains (m : KeyMap α) (k : String) : Bool := (m.get? k).isSome

/-- The part of an entry list on which a function of the value is defined. -/
def keepEntries (f : α → Option β) : List (String × α) → List (String × β)
  | [] => []
  | (k, x) :: rest =>
    match f x with
    | some y => (k, y) :: keepEntries f rest
    | none => keepEntries f rest

theorem mem_keepEntries {f : α → Option β} {es : List (String × α)} {e : String × β}
    (h : e ∈ keepEntries f es) : ∃ x, (e.1, x) ∈ es ∧ f x = some e.2 := by
  induction es with
  | nil => cases h
  | cons d rest ih =>
    obtain ⟨a, x⟩ := d
    unfold keepEntries at h
    split at h
    · next y hy =>
      rcases List.mem_cons.1 h with h | h
      · exact ⟨x, by rw [h]; exact List.mem_cons_self, by rw [h]; exact hy⟩
      · obtain ⟨z, hz, hf⟩ := ih h
        exact ⟨z, List.mem_cons_of_mem _ hz, hf⟩
    · obtain ⟨z, hz, hf⟩ := ih h
      exact ⟨z, List.mem_cons_of_mem _ hz, hf⟩

theorem keepEntries_ascending (f : α → Option β) {es : List (String × α)}
    (h : es.Pairwise (fun a b => a.1 < b.1)) :
    (keepEntries f es).Pairwise (fun a b => a.1 < b.1) := by
  induction es with
  | nil => exact .nil
  | cons d rest ih =>
    obtain ⟨a, x⟩ := d
    have hd := (List.pairwise_cons.1 h).1
    have hr := (List.pairwise_cons.1 h).2
    unfold keepEntries
    split
    · refine List.pairwise_cons.2 ⟨fun e he => ?_, ih hr⟩
      obtain ⟨z, hz, _⟩ := mem_keepEntries he
      exact hd _ hz
    · exact ih hr

/-- The entries whose value a function maps to something, with what it maps them to. -/
def filterMap (m : KeyMap α) (f : α → Option β) : KeyMap β :=
  ⟨keepEntries f m.entries, keepEntries_ascending f m.ascending⟩

/-- The entries whose key passes a test. -/
def filterKeys (m : KeyMap α) (p : String → Bool) : KeyMap α :=
  ⟨m.entries.filter fun e => p e.1, m.ascending.filter _⟩

/-! ### The view `get?` -/

theorem find_eq_none {k : String} {es : List (String × α)} (h : ∀ e ∈ es, e.1 ≠ k) :
    find k es = none := by
  induction es with
  | nil => rfl
  | cons d rest ih =>
    obtain ⟨a, x⟩ := d
    have ha : k ≠ a := fun he => h (a, x) List.mem_cons_self he.symm
    simp [find, ha, ih fun e he => h e (List.mem_cons_of_mem _ he)]

theorem find_place (k j : String) (v : α) (es : List (String × α)) :
    find j (place k v es) = if j = k then some v else find j es := by
  induction es with
  | nil => simp [place, find]
  | cons d rest ih =>
    obtain ⟨a, x⟩ := d
    unfold place
    split
    · next he =>
      subst he
      by_cases hj : j = k <;> simp [find, hj]
    · next hne =>
      split
      · simp [find]
      · by_cases hj : j = a
        · subst hj
          simp [find, Ne.symm hne]
        · simp [find, hj, ih]

@[simp] theorem get?_empty (k : String) : (empty : KeyMap α).get? k = none := rfl

theorem get?_insert (m : KeyMap α) (k j : String) (v : α) :
    (m.insert k v).get? j = if j = k then some v else m.get? j :=
  find_place k j v m.entries

theorem find_filter_ne (k j : String) (es : List (String × α)) :
    find j (es.filter (fun e => e.1 ≠ k)) = if j = k then none else find j es := by
  induction es with
  | nil => simp [find]
  | cons d rest ih =>
    obtain ⟨a, x⟩ := d
    by_cases ha : a = k
    · subst ha
      by_cases hj : j = a
      · simp_all
      · simp_all [find]
    · by_cases hj : j = a
      · subst hj
        simp [find, ha]
      · simp_all [find]

theorem get?_erase (m : KeyMap α) (k j : String) :
    (m.erase k).get? j = if j = k then none else m.get? j :=
  find_filter_ne k j m.entries

theorem find_filter_key (p : String → Bool) (k : String) (es : List (String × α)) :
    find k (es.filter fun e => p e.1) = if p k then find k es else none := by
  induction es with
  | nil => simp [find]
  | cons d rest ih =>
    obtain ⟨a, x⟩ := d
    by_cases hk : k = a
    · subst hk
      cases hp : p k <;> simp_all [find]
    · cases hp : p a <;> simp_all [find]

theorem get?_filterKeys (m : KeyMap α) (p : String → Bool) (k : String) :
    (m.filterKeys p).get? k = if p k then m.get? k else none :=
  find_filter_key p k m.entries

theorem find_keepEntries (f : α → Option β) (k : String) {es : List (String × α)}
    (h : es.Pairwise (fun a b => a.1 < b.1)) :
    find k (keepEntries f es) = (find k es).bind f := by
  induction es with
  | nil => rfl
  | cons d rest ih =>
    obtain ⟨a, x⟩ := d
    have hd := (List.pairwise_cons.1 h).1
    have hr := (List.pairwise_cons.1 h).2
    have hfresh : ∀ e ∈ keepEntries f rest, e.1 ≠ a := fun e he hk => by
      obtain ⟨z, hz, _⟩ := mem_keepEntries he
      exact String.lt_irrefl _ (hk ▸ hd _ hz)
    unfold keepEntries
    by_cases hk : k = a
    · subst hk
      cases hf : f x with
      | some y => simp [find, hf]
      | none => simp [find, hf, find_eq_none hfresh]
    · cases hf : f x <;> simp [find, hk, ih hr]

theorem get?_filterMap (m : KeyMap α) (f : α → Option β) (k : String) :
    (m.filterMap f).get? k = (m.get? k).bind f :=
  find_keepEntries f k m.ascending

theorem find_isSome_iff (k : String) (es : List (String × α)) :
    (find k es).isSome = true ↔ k ∈ es.map (·.1) := by
  induction es with
  | nil => simp [find]
  | cons d rest ih =>
    obtain ⟨a, x⟩ := d
    by_cases hk : k = a <;> simp_all [find]

theorem mem_keys_iff (m : KeyMap α) (k : String) : k ∈ m.keys ↔ (m.get? k).isSome = true :=
  (find_isSome_iff k m.entries).symm

theorem find_of_mem {k : String} {v : α} {es : List (String × α)}
    (hp : es.Pairwise (fun a b => a.1 < b.1)) (h : (k, v) ∈ es) : find k es = some v := by
  induction es with
  | nil => cases h
  | cons d rest ih =>
    obtain ⟨hd, hrest⟩ := List.pairwise_cons.1 hp
    rcases List.mem_cons.1 h with rfl | h
    · exact if_pos rfl
    · have hne : k ≠ d.1 := fun he => String.lt_irrefl _ (he ▸ hd (k, v) h)
      exact (if_neg hne).trans (ih hrest h)

theorem get?_of_mem (m : KeyMap α) {k : String} {v : α} (h : (k, v) ∈ m.entries) :
    m.get? k = some v :=
  find_of_mem m.ascending h

/-- The keys of a map ascend strictly. -/
theorem keys_ascending (m : KeyMap α) : m.keys.Pairwise (· < ·) :=
  List.pairwise_map.2 m.ascending

/-! ### Equality -/

theorem entries_eq_of_find {es fs : List (String × α)}
    (he : es.Pairwise (fun a b => a.1 < b.1)) (hf : fs.Pairwise (fun a b => a.1 < b.1))
    (h : ∀ k, find k es = find k fs) : es = fs := by
  induction es generalizing fs with
  | nil =>
    cases fs with
    | nil => rfl
    | cons d rest => exact absurd (h d.1) (by simp [find])
  | cons d es ih =>
    cases fs with
    | nil => exact absurd (h d.1) (by simp [find])
    | cons e fs =>
      obtain ⟨a, x⟩ := d
      obtain ⟨b, y⟩ := e
      have hd := (List.pairwise_cons.1 he).1
      have hg := (List.pairwise_cons.1 hf).1
      -- if the first keys differed each would stand behind the other one
      have hab : a = b := by
        refine Decidable.byContradiction fun hne => ?_
        have h1 := h a
        have h2 := h b
        simp only [find, if_true, hne, if_false] at h1
        simp only [find, if_true, Ne.symm hne, if_false] at h2
        have m1 : a ∈ fs.map (·.1) := (find_isSome_iff a fs).1 (by rw [← h1]; rfl)
        have m2 : b ∈ es.map (·.1) := (find_isSome_iff b es).1 (by rw [h2]; rfl)
        obtain ⟨p, hp, rfl⟩ := List.mem_map.1 m1
        obtain ⟨q, hq, rfl⟩ := List.mem_map.1 m2
        exact String.lt_asymm (hg p hp) (hd q hq)
      subst hab
      have hxy : x = y := by have h1 := h a; simpa [find] using h1
      subst hxy
      -- the first key is in neither rest, so the rests find the same as well
      have hrest : es = fs := by
        refine ih (List.pairwise_cons.1 he).2 (List.pairwise_cons.1 hf).2 fun k => ?_
        by_cases hk : k = a
        · subst hk
          rw [find_eq_none fun p hp hpk => String.lt_irrefl _ (hpk ▸ hd p hp),
            find_eq_none fun p hp hpk => String.lt_irrefl _ (hpk ▸ hg p hp)]
        · have h1 := h k
          simpa [find, hk] using h1
      rw [hrest]

/-- Two maps with the same view are equal. -/
theorem ext_get? {m n : KeyMap α} (h : ∀ k, m.get? k = n.get? k) : m = n := by
  obtain ⟨es, he⟩ := m
  obtain ⟨fs, hf⟩ := n
  have : es = fs := entries_eq_of_find he hf h
  subst this
  rfl

instance [DecidableEq α] : DecidableEq (KeyMap α) := fun m n =>
  if h : m.entries = n.entries then
    .isTrue (by cases m; cases n; cases h; rfl)
  else .isFalse fun he => h (he ▸ rfl)

theorem isEmpty_iff (m : KeyMap α) : m.isEmpty = true ↔ m = empty := by
  obtain ⟨es, he⟩ := m
  cases es with
  | nil => simp [isEmpty, empty]
  | cons d rest => simp [isEmpty, empty]

end KeyMap

/-- The contents of a store: the values in force, by key. -/
abbrev Entries := KeyMap String

end Admission

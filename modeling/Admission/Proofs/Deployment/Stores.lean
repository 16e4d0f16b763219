import Admission.Deployment

/-!
# Views of the stores — backings and listeners, by name

  A repository is a store with listeners, so the stores of a deployment are read through
  two views: `backing?`, the store of a name, and `listeners?`, the registry of a name.
  Each operation on stores comes with one equation for each view. Putting a store or
  closing it leaves every registry alone; registering and taking away leave every store
  alone; and nothing touches a repository of another name.
-/

namespace Admission

/-! ### Registries -/

namespace Registry

variable {α : Type}

/-- The ids of a registry are different, and all of them were given. -/
structure Sound (r : Registry α) : Prop where
  /-- No id occurs twice. -/
  distinct : r.listeners.Pairwise (fun a b => a.1 ≠ b.1)
  /-- Every id was given before the next one. -/
  given : ∀ l ∈ r.listeners, l.1.number < r.given

theorem sound_empty : Sound ({} : Registry α) :=
  ⟨.nil, fun _ h => by cases h⟩

theorem Sound.ne_nextId {r : Registry α} (h : r.Sound) {l : ListenerId × α}
    (hl : l ∈ r.listeners) : l.1 ≠ r.nextId := by
  intro he
  have hlt := h.given l hl
  rw [he] at hlt
  exact Nat.lt_irrefl _ hlt

theorem Sound.add {r : Registry α} (h : r.Sound) (who : α) : (r.add who).Sound := by
  refine ⟨?_, ?_⟩
  · refine List.pairwise_append.2 ⟨h.distinct, List.pairwise_singleton _ _, ?_⟩
    intro a ha b hb
    rw [List.mem_singleton] at hb
    rw [hb]
    exact h.ne_nextId ha
  · intro l hl
    show l.1.number < r.given + 1
    rcases List.mem_append.1 hl with hl | hl
    · exact Nat.lt_succ_of_lt (h.given l hl)
    · rw [List.mem_singleton] at hl
      rw [hl]
      exact Nat.lt_succ_self _

theorem Sound.remove {r : Registry α} (h : r.Sound) (id : ListenerId) : (r.remove id).Sound :=
  ⟨h.distinct.filter _, fun l hl => h.given l (List.mem_filter.1 hl).1⟩

theorem mem_add {r : Registry α} {who : α} {l : ListenerId × α} :
    l ∈ (r.add who).listeners ↔ l ∈ r.listeners ∨ l = (r.nextId, who) := by
  show l ∈ r.listeners ++ [(r.nextId, who)] ↔ _
  rw [List.mem_append, List.mem_singleton]

theorem mem_remove {r : Registry α} {id : ListenerId} {l : ListenerId × α} :
    l ∈ (r.remove id).listeners ↔ l ∈ r.listeners ∧ l.1 ≠ id := by
  show l ∈ r.listeners.filter (fun l => l.1 != id) ↔ _
  rw [List.mem_filter, bne_iff_ne]

/-- Listeners of one sound registry with the same id are the same listener. -/
theorem Sound.eq_of_id_eq {r : Registry α} (h : r.Sound) {a b : ListenerId × α}
    (ha : a ∈ r.listeners) (hb : b ∈ r.listeners) (hid : a.1 = b.1) : a = b := by
  -- different listeners have different ids, so ids that agree leave one listener
  have hp : r.listeners.Pairwise (fun a b => a.1 = b.1 → a = b) :=
    h.distinct.imp fun hne he => absurd he hne
  have hf : r.listeners.Pairwise (fun a b => b.1 = a.1 → b = a) :=
    h.distinct.imp fun hne he => absurd he.symm hne
  exact hp.forall_of_forall_of_flip (fun _ _ _ => rfl) hf ha hb hid

end Registry

namespace Stores

/-! ### The two views -/

/-- The registry of a repository. -/
def listeners? (w : Stores) (name : String) : Option (Registry Subscriber) :=
  (w.repositories.get? name).map Repository.listeners

theorem get?_modify (w : Stores) (name : String) (f : Repository → Repository) (r : String) :
    (w.modify name f).repositories.get? r =
      if r = name then (w.repositories.get? name).map f else w.repositories.get? r := by
  unfold modify
  cases h : w.repositories.get? name with
  | none =>
    by_cases hr : r = name
    · simp [hr, h]
    · simp [hr]
  | some x =>
    show (w.repositories.insert name (f x)).get? r = _
    rw [KeyMap.get?_insert]
    rfl

/-- A change of one repository that leaves its registry alone leaves all registries alone. -/
theorem listeners?_modify {f : Repository → Repository} (hf : ∀ x, (f x).listeners = x.listeners)
    (w : Stores) (name r : String) : (w.modify name f).listeners? r = w.listeners? r := by
  unfold listeners?
  rw [get?_modify]
  by_cases hr : r = name
  · rw [if_pos hr, hr, Option.map_map]
    congr 1
    funext x
    exact hf x
  · rw [if_neg hr]

/-- A change of one repository that leaves its store alone leaves all stores alone. -/
theorem backing?_modify {f : Repository → Repository} (hf : ∀ x, (f x).backing = x.backing)
    (w : Stores) (name r : String) : (w.modify name f).backing? r = w.backing? r := by
  unfold backing?
  rw [get?_modify]
  by_cases hr : r = name
  · rw [if_pos hr, hr, Option.map_map]
    congr 1
    funext x
    exact hf x
  · rw [if_neg hr]

theorem listeners?_of_get? {w : Stores} {name : String} {x : Repository}
    (h : w.repositories.get? name = some x) : w.listeners? name = some x.listeners := by
  unfold listeners?
  rw [h]
  rfl

/-- A repository with a store has a registry. -/
theorem listeners?_of_backing? {w : Stores} {name : String} {b : Backing}
    (h : w.backing? name = some b) : ∃ l, w.listeners? name = some l := by
  obtain ⟨x, hx, -⟩ := Option.map_eq_some_iff.1 h
  exact ⟨x.listeners, listeners?_of_get? hx⟩

/-- Whether there is a repository of a name. -/
def has (w : Stores) (name : String) : Bool := (w.repositories.get? name).isSome

theorem backing?_of_has {w : Stores} {name : String} (h : w.has name = true) :
    ∃ b, w.backing? name = some b := by
  obtain ⟨x, hx⟩ := Option.isSome_iff_exists.1 h
  exact ⟨x.backing, by unfold backing?; rw [hx]; rfl⟩

/-- No repository is made or dropped by a change of one. -/
@[simp] theorem has_modify (w : Stores) (name : String) (f : Repository → Repository)
    (r : String) : (w.modify name f).has r = w.has r := by
  unfold has
  rw [get?_modify]
  by_cases hr : r = name
  · rw [if_pos hr, hr, Option.isSome_map]
  · rw [if_neg hr]

@[simp] theorem has_openStore (w : Stores) (name r : String) :
    (w.openStore name).2.has r = w.has r := by
  unfold openStore
  split
  · rfl
  · exact has_modify w name _ r

/-! ### Stores put, opened and closed -/

@[simp] theorem listeners?_putBacking (w : Stores) (name : String) (b : Backing) (r : String) :
    (w.putBacking name b).listeners? r = w.listeners? r := by
  apply listeners?_modify
  intro x
  rfl

theorem backing?_putBacking (w : Stores) (name : String) (b : Backing) (r : String) :
    (w.putBacking name b).backing? r =
      if r = name then (w.backing? name).map (fun _ => b) else w.backing? r := by
  unfold putBacking backing?
  rw [get?_modify]
  by_cases hr : r = name
  · rw [if_pos hr, if_pos hr, Option.map_map, Option.map_map]
    rfl
  · rw [if_neg hr, if_neg hr]

@[simp] theorem listeners?_closeStore (w : Stores) (name r : String) :
    (w.closeStore name).listeners? r = w.listeners? r := by
  apply listeners?_modify
  intro x
  rfl

theorem backing?_closeStore (w : Stores) (name r : String) :
    (w.closeStore name).backing? r =
      if r = name then (w.backing? name).map Backing.closeStore else w.backing? r := by
  unfold closeStore backing?
  rw [get?_modify]
  by_cases hr : r = name
  · rw [if_pos hr, if_pos hr, Option.map_map, Option.map_map]
    rfl
  · rw [if_neg hr, if_neg hr]

@[simp] theorem listeners?_openStore (w : Stores) (name r : String) :
    (w.openStore name).2.listeners? r = w.listeners? r := by
  unfold openStore
  split
  · rfl
  · exact listeners?_putBacking w name _ r

theorem backing?_openStore (w : Stores) (name r : String) :
    (w.openStore name).2.backing? r =
      if r = name then (w.backing? name).map (fun b => (b.openStore w.web w.files).2)
      else w.backing? r := by
  unfold openStore
  cases h : w.backing? name with
  | none =>
    by_cases hr : r = name
    · simp [hr, h]
    · simp [hr]
  | some b =>
    show (w.putBacking name (b.openStore w.web w.files).2).backing? r = _
    rw [backing?_putBacking, h]
    rfl

/-! ### Registrations -/

theorem listeners?_listen (w : Stores) (name : String) (who : Subscriber) (r : String) :
    (w.modify name (·.listen who)).listeners? r =
      if r = name then (w.listeners? name).map (·.add who) else w.listeners? r := by
  unfold listeners?
  rw [get?_modify]
  by_cases hr : r = name
  · rw [if_pos hr, if_pos hr, Option.map_map, Option.map_map]
    rfl
  · rw [if_neg hr, if_neg hr]

@[simp] theorem backing?_listen (w : Stores) (name : String) (who : Subscriber) (r : String) :
    (w.modify name (·.listen who)).backing? r = w.backing? r := by
  apply backing?_modify
  intro x
  rfl

theorem listeners?_unlisten (w : Stores) (name : String) (id : ListenerId) (r : String) :
    (w.modify name (·.unlisten id)).listeners? r =
      if r = name then (w.listeners? name).map (·.remove id) else w.listeners? r := by
  unfold listeners?
  rw [get?_modify]
  by_cases hr : r = name
  · rw [if_pos hr, if_pos hr, Option.map_map, Option.map_map]
    rfl
  · rw [if_neg hr, if_neg hr]

@[simp] theorem backing?_unlisten (w : Stores) (name : String) (id : ListenerId) (r : String) :
    (w.modify name (·.unlisten id)).backing? r = w.backing? r := by
  apply backing?_modify
  intro x
  rfl

/-- The id that a repository gives next is the one that its registry gives next. -/
theorem nextListener_eq {w : Stores} {name : String} {l : Registry Subscriber}
    (h : w.listeners? name = some l) : w.nextListener name = l.nextId := by
  obtain ⟨x, hx, hl⟩ := Option.map_eq_some_iff.1 h
  unfold nextListener
  rw [hx, ← hl]
  rfl

theorem snapshot_eq {w : Stores} {name : String} {b : Backing} (h : w.backing? name = some b) :
    w.snapshot name = b.snapshot := by
  unfold snapshot
  rw [h]

/-! ### Files -/

@[simp] theorem files_modify (w : Stores) (name : String) (f : Repository → Repository) :
    (w.modify name f).files = w.files := by
  unfold modify
  split
  · rfl
  · rfl

@[simp] theorem files_openStore (w : Stores) (name : String) :
    (w.openStore name).2.files = w.files := by
  unfold openStore
  split
  · rfl
  · exact files_modify w name _

@[simp] theorem files_closeStore (w : Stores) (name : String) :
    (w.closeStore name).files = w.files :=
  files_modify w name _

end Stores

end Admission

import Admission.Proofs.Deployment.Stores

/-!
# Wiring — selectors and registries agree

  A selector remembers the repository that it uses and the id under which its table is
  registered there; the repository remembers the table under that id. `Coherent` says
  that the two agree: a selector with an id is registered under it where it thinks it
  is, a registered table belongs to a selector that knows it, and nobody is registered
  twice. It also says what a selector by itself promises (`Selector.Lawful`): it is
  wired exactly when it has an id, it is open then, and without wiring it has no tokens.

  From coherence follows who hears an event (`selectors_deliver`): each selector that is
  wired to the repository, exactly once, and no other.
-/

namespace Admission

/-! ### Selectors by themselves -/

namespace Selector

variable {ρ : Type}

/-- What the fields of a selector promise about each other. -/
structure Lawful (s : Selector ρ) : Prop where
  /-- A selector is wired exactly when its table is registered. -/
  wired_eq : s.isWired = s.listener.isSome
  /-- A wired selector is open. -/
  isOpen_of_wired : s.isWired = true → s.isOpen = true
  /-- A wired selector has a repository. -/
  repository_of_wired : s.isWired = true → s.repository.isSome = true
  /-- A selector that is not wired has no tokens. -/
  tokens_of_unwired : s.isWired = false → s.table.tokens = KeyMap.empty

theorem Lawful.listener_of_unwired {s : Selector ρ} (h : s.Lawful) (hw : s.isWired = false) :
    s.listener = none := by
  have he := h.wired_eq
  rw [hw] at he
  exact Option.isSome_eq_false_iff.1 he.symm |> Option.isNone_iff_eq_none.1

theorem Lawful.unwired_of_closed {s : Selector ρ} (h : s.Lawful) (ho : s.isOpen = false) :
    s.isWired = false := by
  cases hw : s.isWired with
  | false => rfl
  | true =>
    have := h.isOpen_of_wired hw
    rw [ho] at this
    cases this

theorem Lawful.wired_of_listener {s : Selector ρ} (h : s.Lawful) {id : ListenerId}
    (hl : s.listener = some id) : s.isWired = true := by
  rw [h.wired_eq, hl]
  rfl

/-- A selector after it was closed. -/
def closed (s : Selector ρ) : Selector ρ :=
  { s with isOpen := false, isWired := false, table := s.table.clear, listener := none }

/-- A selector after it was wired, with the tokens of some entries. -/
def wired (s : Selector ρ) (id : ListenerId) (entries : Entries) : Selector ρ :=
  { s with table := s.table.rebuild entries, isOpen := true, isWired := true, listener := some id }

theorem new_lawful (whenUndefined : Bool) (repository : Option ρ) :
    ({ whenUndefined, repository } : Selector ρ).Lawful where
  wired_eq := rfl
  isOpen_of_wired := fun h => by cases h
  repository_of_wired := fun h => by cases h
  tokens_of_unwired := fun _ => rfl

theorem closed_lawful (s : Selector ρ) : s.closed.Lawful where
  wired_eq := rfl
  isOpen_of_wired := fun h => by cases h
  repository_of_wired := fun h => by cases h
  tokens_of_unwired := fun _ => rfl

theorem wired_lawful {s : Selector ρ} {r : ρ} (hr : s.repository = some r) (id : ListenerId)
    (entries : Entries) : (s.wired id entries).Lawful where
  wired_eq := rfl
  isOpen_of_wired := fun _ => rfl
  repository_of_wired := fun _ => by show s.repository.isSome = true; rw [hr]; rfl
  tokens_of_unwired := fun h => by cases h

/-- An open selector keeps its promises whether it is wired or not. -/
theorem Lawful.opened {s : Selector ρ} (h : s.Lawful) : ({ s with isOpen := true }).Lawful where
  wired_eq := h.wired_eq
  isOpen_of_wired := fun _ => rfl
  repository_of_wired := h.repository_of_wired
  tokens_of_unwired := h.tokens_of_unwired

/-- A closed selector keeps its promises whatever repository it has. -/
theorem Lawful.assigned {s : Selector ρ} (h : s.Lawful) (ho : s.isOpen = false)
    (repository : Option ρ) : ({ s with repository }).Lawful where
  wired_eq := h.wired_eq
  isOpen_of_wired := h.isOpen_of_wired
  repository_of_wired := by
    intro hw
    have hunwired := h.unwired_of_closed ho
    change s.isWired = true at hw
    rw [hunwired] at hw
    cases hw
  tokens_of_unwired := h.tokens_of_unwired

/-- Two states of a selector that differ at most in the tokens that a wired one holds. -/
structure SameWiring (s t : Selector ρ) : Prop where
  repository_eq : t.repository = s.repository
  listener_eq : t.listener = s.listener
  isOpen_eq : t.isOpen = s.isOpen
  isWired_eq : t.isWired = s.isWired
  tokens_eq : s.isWired = false → t.table.tokens = s.table.tokens

theorem SameWiring.refl (s : Selector ρ) : SameWiring s s := ⟨rfl, rfl, rfl, rfl, fun _ => rfl⟩

theorem SameWiring.lawful {s t : Selector ρ} (h : SameWiring s t) (hs : s.Lawful) : t.Lawful where
  wired_eq := by rw [h.isWired_eq, h.listener_eq]; exact hs.wired_eq
  isOpen_of_wired := by rw [h.isWired_eq, h.isOpen_eq]; exact hs.isOpen_of_wired
  repository_of_wired := by rw [h.isWired_eq, h.repository_eq]; exact hs.repository_of_wired
  tokens_of_unwired := by
    rw [h.isWired_eq]
    intro hw
    rw [h.tokens_eq hw]
    exact hs.tokens_of_unwired hw

end Selector

/-! ### Coherent deployments -/

namespace Deployment

/-- Selectors and registries agree about who is registered where. -/
structure Coherent (d : Deployment) : Prop where
  /-- Every registry has different ids. -/
  sound : ∀ {r l}, d.stores.listeners? r = some l → l.Sound
  /-- Every selector keeps its promises. -/
  lawful : ∀ {n s}, d.selectors.get? n = some s → s.Lawful
  /-- A selector with an id is registered under it. -/
  registered : ∀ {n s r id}, d.selectors.get? n = some s → s.repository = some r →
    s.listener = some id →
    ∃ l, d.stores.listeners? r = some l ∧ (id, Subscriber.table n) ∈ l.listeners
  /-- A registered table belongs to a selector that knows the id. -/
  known : ∀ {r l id n}, d.stores.listeners? r = some l →
    (id, Subscriber.table n) ∈ l.listeners →
    ∃ s, d.selectors.get? n = some s ∧ s.repository = some r ∧ s.listener = some id

/-- Coherence speaks of wiring only. -/
theorem Coherent.of_sameWiring {d d' : Deployment} (h : d.Coherent)
    {f : String → Selector String → Selector String}
    (hf : ∀ n s, d.selectors.get? n = some s → s.SameWiring (f n s))
    (hs : ∀ n, d'.selectors.get? n = (d.selectors.get? n).map (f n))
    (hl : ∀ r, d'.stores.listeners? r = d.stores.listeners? r) : d'.Coherent := by
  -- whoever is there afterwards was there before, with the same repository and id
  have hback : ∀ n s', d'.selectors.get? n = some s' →
      ∃ s, d.selectors.get? n = some s ∧ s' = f n s := by
    intro n s' hn
    rw [hs n] at hn
    obtain ⟨s, hn, he⟩ := Option.map_eq_some_iff.1 hn
    exact ⟨s, hn, he.symm⟩
  refine ⟨?_, ?_, ?_, ?_⟩
  · intro r l hr
    rw [hl] at hr
    exact h.sound hr
  · intro n s' hn'
    obtain ⟨s, hn, rfl⟩ := hback n s' hn'
    exact (hf n s hn).lawful (h.lawful hn)
  · intro n s' r id hn' hr hid
    obtain ⟨s, hn, rfl⟩ := hback n s' hn'
    rw [(hf n s hn).repository_eq] at hr
    rw [(hf n s hn).listener_eq] at hid
    rw [hl]
    exact h.registered hn hr hid
  · intro r l id n hr hm
    rw [hl] at hr
    obtain ⟨s, hn, hrep, hid⟩ := h.known hr hm
    refine ⟨f n s, ?_, ?_, ?_⟩
    · rw [hs n, hn]; rfl
    · rw [(hf n s hn).repository_eq]; exact hrep
    · rw [(hf n s hn).listener_eq]; exact hid

/-- Coherence does not depend on the stores behind the registries. -/
theorem Coherent.of_views {d d' : Deployment} (h : d.Coherent)
    (hs : ∀ n, d'.selectors.get? n = d.selectors.get? n)
    (hl : ∀ r, d'.stores.listeners? r = d.stores.listeners? r) : d'.Coherent := by
  refine h.of_sameWiring (f := fun _ s => s) (fun _ s _ => .refl s) ?_ hl
  intro n
  rw [hs n]
  cases d.selectors.get? n with
  | none => rfl
  | some s => rfl

/-! ### Who hears an event -/

/-- The selectors whose tables are among some listeners. -/
def tableNames : List (ListenerId × Subscriber) → List String
  | [] => []
  | (_, .table n) :: rest => n :: tableNames rest
  | _ :: rest => tableNames rest

theorem mem_tableNames {n : String} {ls : List (ListenerId × Subscriber)} :
    n ∈ tableNames ls ↔ ∃ id, (id, Subscriber.table n) ∈ ls := by
  induction ls with
  | nil => simp [tableNames]
  | cons l rest ih =>
    obtain ⟨id, who⟩ := l
    cases who with
    | recorder =>
      show n ∈ tableNames rest ↔ _
      rw [ih]
      simp
    | observer name fails =>
      show n ∈ tableNames rest ↔ _
      rw [ih]
      simp
    | table m =>
      show n ∈ m :: tableNames rest ↔ _
      rw [List.mem_cons, ih]
      constructor
      · rintro (rfl | ⟨id', h⟩)
        · exact ⟨id, List.mem_cons_self⟩
        · exact ⟨id', List.mem_cons_of_mem _ h⟩
      · rintro ⟨id', h⟩
        rcases List.mem_cons.1 h with h | h
        · simp only [Prod.mk.injEq, Subscriber.table.injEq] at h
          exact .inl h.2
        · exact .inr ⟨id', h⟩

/-- Where selectors know the id under which their tables are registered, each is registered at
most once. -/
theorem tableNames_nodup {l : Registry Subscriber} (hl : l.Sound)
    (idOf : String → Option ListenerId)
    (hk : ∀ id n, (id, Subscriber.table n) ∈ l.listeners → idOf n = some id) :
    (tableNames l.listeners).Nodup := by
  have hd := hl.distinct
  -- the induction is on the listeners, of which no more is kept than `hd` and `hk`
  generalize l.listeners = ls at hd hk
  induction ls with
  | nil => exact .nil
  | cons x rest ih =>
    have hrest := ih (List.pairwise_cons.1 hd).2 fun id n hm => hk id n (List.mem_cons_of_mem _ hm)
    obtain ⟨id, who⟩ := x
    cases who with
    | recorder => exact hrest
    | observer name fails => exact hrest
    | table n =>
      refine List.nodup_cons.2 ⟨?_, hrest⟩
      intro hn
      -- a second registration of the same selector would have the same id
      obtain ⟨id', hmem⟩ := mem_tableNames.1 hn
      have hid := hk id n List.mem_cons_self
      have hid' := hk id' n (List.mem_cons_of_mem _ hmem)
      rw [hid] at hid'
      exact (List.pairwise_cons.1 hd).1 _ hmem (Option.some.inj hid')

/-- Each selector is registered at most once with a repository. -/
theorem Coherent.tableNames_nodup {d : Deployment} (h : d.Coherent) {r : String}
    {l : Registry Subscriber} (hl : d.stores.listeners? r = some l) :
    (tableNames l.listeners).Nodup := by
  refine Deployment.tableNames_nodup (h.sound hl)
    (fun n => (d.selectors.get? n).bind Selector.listener) ?_
  intro id n hm
  obtain ⟨s, hs, -, hid⟩ := h.known hl hm
  show (d.selectors.get? n).bind Selector.listener = some id
  rw [hs]
  exact hid

theorem stores_tellAll (name : String) (event : ChangeEvent) (ls : List (ListenerId × Subscriber))
    (d : Deployment) : (ls.foldl (fun d l => d.tell name event l.2) d).stores = d.stores := by
  induction ls generalizing d with
  | nil => rfl
  | cons l rest ih =>
    rw [List.foldl_cons, ih]
    obtain ⟨id, who⟩ := l
    cases who with
    | recorder => rfl
    | observer name fails => rfl
    | table n =>
      simp only [tell]
      split
      · rfl
      · rfl

theorem selectors_tell_table (name : String) (event : ChangeEvent) (d : Deployment)
    (m n : String) :
    (d.tell name event (.table m)).selectors.get? n =
      if n = m then (d.selectors.get? m).map (·.hear (d.stores.snapshot name) event)
      else d.selectors.get? n := by
  simp only [tell]
  cases hm : d.selectors.get? m with
  | none =>
    by_cases h : n = m
    · simp [h, hm]
    · simp [h]
  | some s =>
    show (d.selectors.insert m _).get? n = _
    rw [KeyMap.get?_insert]
    rfl

theorem selectors_tellAll (name : String) (event : ChangeEvent)
    {ls : List (ListenerId × Subscriber)} (hn : (tableNames ls).Nodup) (d : Deployment)
    (n : String) :
    (ls.foldl (fun d l => d.tell name event l.2) d).selectors.get? n =
      if n ∈ tableNames ls then (d.selectors.get? n).map (·.hear (d.stores.snapshot name) event)
      else d.selectors.get? n := by
  induction ls generalizing d with
  | nil => simp [tableNames]
  | cons l rest ih =>
    obtain ⟨id, who⟩ := l
    rw [List.foldl_cons]
    cases who with
    | recorder => exact ih hn _
    | observer name fails => exact ih hn _
    | table m =>
      obtain ⟨hm, hrest⟩ := List.nodup_cons.1 hn
      have hst : (d.tell name event (.table m)).stores = d.stores :=
        stores_tellAll name event [(id, .table m)] d
      show (List.foldl _ (d.tell name event (.table m)) rest).selectors.get? n =
        if n ∈ m :: tableNames rest then _ else _
      rw [ih hrest, hst, selectors_tell_table]
      by_cases he : n = m
      · -- it hears now, and is not among the listeners that follow
        subst he
        rw [if_neg hm, if_pos rfl, if_pos List.mem_cons_self]
      · rw [if_neg he]
        by_cases hr : n ∈ tableNames rest
        · rw [if_pos hr, if_pos (List.mem_cons_of_mem _ hr)]
        · rw [if_neg hr, if_neg]
          intro h
          rcases List.mem_cons.1 h with h | h
          · exact he h
          · exact hr h

@[simp] theorem stores_deliver (name : String) (event : ChangeEvent) (d : Deployment) :
    (d.deliver name event).stores = d.stores := by
  unfold deliver
  split
  · rfl
  · exact stores_tellAll name event _ d

/-- What holds before an event is delivered holds after it, if it does whenever one of the
listeners is told; the stores stay the same meanwhile. -/
theorem deliver_induct {P : Deployment → Prop} {name : String} {event : ChangeEvent}
    {d : Deployment} (h : P d)
    (step : ∀ e l, e.stores = d.stores →
      (∃ x, d.stores.listeners? name = some x ∧ l ∈ x.listeners) → P e → P (e.tell name event l.2)) :
    P (d.deliver name event) := by
  unfold deliver
  split
  · exact h
  · next x hx =>
    have hl := Stores.listeners?_of_get? hx
    have htold : ∀ ls : List (ListenerId × Subscriber), (∀ l ∈ ls, l ∈ x.listeners.listeners) →
        ∀ e, e.stores = d.stores → P e → P (ls.foldl (fun d l => d.tell name event l.2) e) := by
      intro ls
      induction ls with
      | nil => exact fun _ _ _ he => he
      | cons l rest ih =>
        intro hls e hst he
        have hafter : (e.tell name event l.2).stores = e.stores := stores_tellAll name event [l] e
        exact ih (fun k hk => hls k (List.mem_cons_of_mem _ hk)) _ (hafter.trans hst)
          (step e l hst ⟨_, hl, hls l List.mem_cons_self⟩ he)
    exact htold _ (fun _ hl => hl) d rfl h

/-- A table that is registered hears an event, if no table is registered twice. -/
theorem selectors_deliver_registered {d : Deployment} {name n : String} {id : ListenerId}
    {l : Registry Subscriber} (hl : d.stores.listeners? name = some l)
    (hm : (id, Subscriber.table n) ∈ l.listeners) (hn : (tableNames l.listeners).Nodup)
    (event : ChangeEvent) :
    (d.deliver name event).selectors.get? n =
      (d.selectors.get? n).map (·.hear (d.stores.snapshot name) event) := by
  obtain ⟨x, hx, rfl⟩ := Option.map_eq_some_iff.1 hl
  unfold deliver
  simp only [hx]
  rw [selectors_tellAll name event hn, if_pos (mem_tableNames.2 ⟨id, hm⟩)]

/-- A selector after an event of a repository: it hears the event if it is wired to it. -/
def hearing (name : String) (snapshot : Except Fault Entries) (event : ChangeEvent)
    (s : Selector String) : Selector String :=
  if s.isWired = true ∧ s.repository = some name then s.hear snapshot event else s

/-- An event reaches each selector that is wired to the repository, once, and no other. -/
theorem Coherent.selectors_deliver {d : Deployment} (h : d.Coherent) (name : String)
    (event : ChangeEvent) (n : String) :
    (d.deliver name event).selectors.get? n =
      (d.selectors.get? n).map (hearing name (d.stores.snapshot name) event) := by
  cases hn : d.selectors.get? n with
  | none =>
    unfold deliver
    split
    · exact hn
    · next x hx =>
      have hl := Stores.listeners?_of_get? hx
      rw [selectors_tellAll name event (h.tableNames_nodup hl), hn]
      split
      · rfl
      · rfl
  | some s =>
    rw [Option.map_some]
    unfold hearing
    by_cases hw : s.isWired = true ∧ s.repository = some name
    · -- it is registered, so its table is among those that are told
      rw [if_pos hw]
      have hlis := (h.lawful hn).wired_eq
      rw [hw.1] at hlis
      obtain ⟨id, hid⟩ := Option.isSome_iff_exists.1 hlis.symm
      obtain ⟨l, hl, hm⟩ := h.registered hn hw.2 hid
      rw [selectors_deliver_registered hl hm (h.tableNames_nodup hl) event, hn]
      rfl
    · -- a table that is told is registered, and its selector would be wired
      rw [if_neg hw]
      unfold deliver
      split
      · exact hn
      · next x hx =>
        have hl := Stores.listeners?_of_get? hx
        rw [selectors_tellAll name event (h.tableNames_nodup hl), if_neg, hn]
        intro hm
        obtain ⟨id, hm⟩ := mem_tableNames.1 hm
        obtain ⟨s', hs', hr, hid⟩ := h.known hl hm
        rw [hn] at hs'
        cases hs'
        exact hw ⟨(h.lawful hn).wired_of_listener hid, hr⟩

theorem hearing_sameWiring (name : String) (snapshot : Except Fault Entries)
    (event : ChangeEvent) (s : Selector String) : s.SameWiring (hearing name snapshot event s) := by
  unfold hearing
  split
  · next h =>
    refine ⟨rfl, rfl, rfl, rfl, ?_⟩
    -- only a wired selector hears, so the tokens of the others stay
    intro hw
    rw [h.1] at hw
    cases hw
  · exact .refl s

theorem Coherent.deliver {d : Deployment} (h : d.Coherent) (name : String)
    (event : ChangeEvent) : (d.deliver name event).Coherent :=
  h.of_sameWiring (f := fun _ => hearing name (d.stores.snapshot name) event)
    (fun _ s _ => hearing_sameWiring name _ event s) (h.selectors_deliver name event)
    (fun r => by rw [stores_deliver])

end Deployment

/-! ### Registrations of a selector -/

/-- The id under which a selector is registered with a repository. -/
def Selector.idAt (s : Selector String) (r : String) : Option ListenerId :=
  if s.repository = some r then s.listener else none

theorem Selector.idAt_eq_some {s : Selector String} {r : String} {id : ListenerId} :
    s.idAt r = some id ↔ s.repository = some r ∧ s.listener = some id := by
  unfold idAt
  by_cases h : s.repository = some r
  · simp [h]
  · simp [h]

theorem Selector.idAt_of_unregistered {s : Selector String} (h : s.listener = none) (r : String) :
    s.idAt r = none := by
  unfold idAt
  rw [h, ite_self]

/-- Whether a subscriber is registered with a repository under an id. -/
def Stores.Registered (w : Stores) (r : String) (id : ListenerId) (who : Subscriber) : Prop :=
  ∃ l, w.listeners? r = some l ∧ (id, who) ∈ l.listeners

/-- Whether every registry has different ids. -/
def Stores.Sound (w : Stores) : Prop := ∀ q l, w.listeners? q = some l → l.Sound

namespace Deployment

theorem Coherent.stores_sound {d : Deployment} (h : d.Coherent) : d.stores.Sound :=
  fun _ _ hl => h.sound hl

/-- In coherence, a table is registered exactly under the ids that its selector knows. -/
theorem Coherent.registered_iff {d : Deployment} (h : d.Coherent) {n r : String}
    {id : ListenerId} : d.stores.Registered r id (.table n) ↔
      ∃ s, d.selectors.get? n = some s ∧ s.idAt r = some id := by
  constructor
  · rintro ⟨l, hl, hm⟩
    obtain ⟨s, hs, hr, hid⟩ := h.known hl hm
    exact ⟨s, hs, Selector.idAt_eq_some.2 ⟨hr, hid⟩⟩
  · rintro ⟨s, hs, hid⟩
    obtain ⟨hr, hid⟩ := Selector.idAt_eq_some.1 hid
    exact h.registered hs hr hid

/-- What happens to one selector and its registrations alone keeps coherence, as long as the
two agree in the end. -/
theorem Coherent.rewire {d d' : Deployment} (h : d.Coherent) {n : String} {s : Selector String}
    (hs : ∀ m, d'.selectors.get? m = if m = n then some s else d.selectors.get? m)
    (hlaw : s.Lawful) (hsound : d'.stores.Sound)
    (hothers : ∀ r id m, m ≠ n →
      (d'.stores.Registered r id (.table m) ↔ d.stores.Registered r id (.table m)))
    (hown : ∀ r id, d'.stores.Registered r id (.table n) ↔ s.idAt r = some id) :
    d'.Coherent where
  sound := fun {r l} hr => hsound r l hr
  lawful := by
    intro m t hm
    rw [hs] at hm
    -- each part is looked at for the selector that was rewired and for the others
    by_cases hmn : m = n
    · rw [if_pos hmn] at hm
      cases hm
      exact hlaw
    · rw [if_neg hmn] at hm
      exact h.lawful hm
  registered := by
    intro m t r id hm hr hid
    rw [hs] at hm
    by_cases hmn : m = n
    · rw [if_pos hmn] at hm
      cases hm
      rw [hmn]
      exact (hown r id).2 (Selector.idAt_eq_some.2 ⟨hr, hid⟩)
    · rw [if_neg hmn] at hm
      exact (hothers r id m hmn).2 (h.registered hm hr hid)
  known := by
    intro r l id m hr hm
    have hreg : d'.stores.Registered r id (.table m) := ⟨l, hr, hm⟩
    rw [hs]
    by_cases hmn : m = n
    · rw [if_pos hmn]
      rw [hmn] at hreg
      obtain ⟨hrep, hid⟩ := Selector.idAt_eq_some.1 ((hown r id).1 hreg)
      exact ⟨s, rfl, hrep, hid⟩
    · rw [if_neg hmn]
      obtain ⟨t, ht, hid⟩ := h.registered_iff.1 ((hothers r id m hmn).1 hreg)
      exact ⟨t, ht, Selector.idAt_eq_some.1 hid⟩

end Deployment

end Admission

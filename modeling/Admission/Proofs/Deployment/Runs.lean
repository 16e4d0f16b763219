import Admission.Proofs.Deployment.Calls
import Admission.Proofs.Deployment.Quiet

/-!
# Runs — what every operation keeps

  A deployment starts out fresh: its selectors and its repositories are closed, and
  nobody but recorders is registered. From there it proceeds by operations. They are
  ordinary as long as nobody takes away the registration of somebody else, and no stub
  tells what it likes.

  An ordinary operation is made of at most three moves (`Move`), so an invariant is
  proved for the moves and holds in all states of a run then (`performAll_induct`). Two
  invariants carry all others: selectors and registries agree about who is registered,
  and every store tells what happens to it (`Regular`).
-/

namespace Admission

/-- Whether an operation leaves registrations and events to those whose they are. -/
def Deployment.Operation.isOrdinary : Deployment.Operation → Bool
  | .unlisten .. | .emit .. => false
  | _ => true

namespace Deployment

variable {d d' : Deployment} {n r : String} {s : Selector String}

/-! ### Moves -/

/-- What operations are made of. -/
inductive Move (d : Deployment) : Deployment → Prop where
  /-- Steps that open and close nothing. -/
  | quiet {d' : Deployment} (h : Quiet d d') : Move d d'
  /-- A repository is opened. -/
  | openRepository (r : String) : Move d (d.perform (.openRepository r)).2
  /-- A repository is closed. -/
  | closeRepository (r : String) : Move d (d.perform (.closeRepository r)).2
  /-- A selector is opened. -/
  | openSelector (n : String) : Move d (d.perform (.openSelector n)).2
  /-- A selector is closed. -/
  | closeSelector (n : String) : Move d (d.perform (.closeSelector n)).2
  /-- A closed selector gets a repository. -/
  | assign (n : String) (repository : Option String)
      (ho : ∀ s, d.selectors.get? n = some s → s.isOpen = false) :
      Move d (d.assign n repository)

theorem Move.coherent (hm : Move d d') (h : d.Coherent) : d'.Coherent := by
  cases hm with
  | quiet hq => exact hq.coherent h
  | openRepository r =>
    exact h.of_views (fun _ => rfl) (Stores.listeners?_openStore d.stores r)
  | closeRepository r =>
    exact h.of_views (fun _ => rfl) (Stores.listeners?_closeStore d.stores r)
  | openSelector n => exact h.openSelector n
  | closeSelector n => exact h.closeSelector n
  | assign n repository ho => exact h.assign ho repository

/-! ### Properties of all stores -/

variable {P : Backing → Prop} (hP : Backing.Stable P)

include hP in
theorem Every.openRepository (h : d.Every P) (r : String) :
    (d.perform (.openRepository r)).2.Every P := by
  intro q b hb
  rw [stores_openRepository, Stores.backing?_openStore] at hb
  split at hb
  · obtain ⟨c, hc, rfl⟩ := Option.map_eq_some_iff.1 hb
    exact hP.openStore _ _ _ (h _ c hc)
  · exact h q b hb

include hP in
theorem Every.closeRepository (h : d.Every P) (r : String) :
    (d.perform (.closeRepository r)).2.Every P := by
  intro q b hb
  rw [stores_closeRepository, Stores.backing?_closeStore] at hb
  split at hb
  · obtain ⟨c, hc, rfl⟩ := Option.map_eq_some_iff.1 hb
    exact hP.closeStore _ (h _ c hc)
  · exact h q b hb

include hP in
theorem Every.closeSelector (h : d.Every P) (hc : d.Coherent) (n : String) :
    (d.perform (.closeSelector n)).2.Every P := by
  rcases hc.closeSelector_cases n with ⟨-, he⟩ | ⟨s, -, -, he⟩
  · rw [he]; exact h
  · rw [he]
    intro q b hb
    rw [stores_rewired, Stores.backing?_released] at hb
    split at hb
    · obtain ⟨c, hc, rfl⟩ := Option.map_eq_some_iff.1 hb
      exact hP.closeStore _ (h _ c hc)
    · exact h q b hb

theorem stores_assign (d : Deployment) (n : String) (repository : Option String) :
    (d.assign n repository).stores = d.stores := by
  unfold assign
  split
  · rfl
  · rfl

theorem Every.assign (h : d.Every P) (n : String) (repository : Option String) :
    (d.assign n repository).Every P := by
  intro q b hb
  rw [stores_assign] at hb
  exact h q b hb

include hP in
theorem Every.openSelector (h : d.Every P) (n : String) :
    (d.perform (.openSelector n)).2.Every P := by
  rcases openSelector_cases d n with ⟨-, he⟩ | ⟨s, -, -, ⟨-, he⟩ | ⟨r, -, hr⟩⟩
  · rw [he]; exact h
  · rw [he]
    intro q b hb
    exact h q b hb
  · have hopened : ∀ q b, (d.stores.openStore r).2.backing? q = some b → P b :=
      h.openRepository hP r
    rcases hr with he | ⟨-, he⟩ | ⟨entries, -, he⟩
    · rw [he]
      intro q b hb
      exact hopened q b hb
    · rw [he]
      intro q b hb
      rw [stores_rewired, Stores.backing?_givenUp] at hb
      split at hb
      · obtain ⟨c, hc, rfl⟩ := Option.map_eq_some_iff.1 hb
        exact hP.closeStore _ (hopened r c hc)
      · exact hopened q b hb
    · rw [he]
      intro q b hb
      rw [stores_rewired, Stores.backing?_subscribed] at hb
      exact hopened q b hb

include hP in
/-- A move keeps what every call of a store keeps. -/
theorem Move.every (hm : Move d d') (h : d.Coherent) (hd : d.Every P) : d'.Every P := by
  cases hm with
  | quiet hq => exact hq.every hP hd
  | openRepository r => exact hd.openRepository hP r
  | closeRepository r => exact hd.closeRepository hP r
  | openSelector n => exact hd.openSelector hP n
  | closeSelector n => exact hd.closeSelector hP h n
  | assign n repository ho => exact hd.assign n repository

/-! ### Operations and runs -/

/-- Selectors and registries agree, and every store tells what happens to it. -/
structure Regular (d : Deployment) : Prop where
  /-- Selectors and registries agree about who is registered where. -/
  coherent : d.Coherent
  /-- Every store tells what happens to it. -/
  telling : d.Telling

theorem Move.regular (hm : Move d d') (h : d.Regular) : d'.Regular :=
  ⟨hm.coherent h.coherent, hm.every Backing.telling_stable h.coherent h.telling⟩

/-- What every move keeps, every ordinary operation keeps. -/
theorem perform_induct {P : Deployment → Prop}
    (hmove : ∀ {d d'}, Regular d → Move d d' → P d → P d') (h : d.Regular) (hd : P d)
    {op : Operation} (hop : op.isOrdinary = true) :
    (d.perform op).2.Regular ∧ P (d.perform op).2 := by
  -- the moves of one operation follow each other, so both are carried through together
  have hstep : ∀ {d d' : Deployment}, d.Regular ∧ P d → Move d d' → d'.Regular ∧ P d' :=
    fun h hm => ⟨hm.regular h.1, hmove h.1 hm h.2⟩
  have hstart : d.Regular ∧ P d := ⟨h, hd⟩
  cases op with
  | openSelector n => exact hstep hstart (.openSelector n)
  | closeSelector n => exact hstep hstart (.closeSelector n)
  | reopenSelector n =>
    rw [perform_reopenSelector]
    exact hstep (hstep hstart (.closeSelector n)) (.openSelector n)
  | setRepository n repository =>
    cases hs : d.selectors.get? n with
    | none =>
      rw [perform_setRepository_none hs]
      exact hstart
    | some s =>
      cases ho : s.isOpen with
      | true =>
        rw [perform_setRepository_open hs ho]
        have hclosed := hstep hstart (.closeSelector n)
        have hassigned := hstep hclosed
          (.assign n repository fun _ hs => isOpen_closeSelector hs)
        exact hstep hassigned (.openSelector n)
      | false =>
        rw [perform_setRepository_closed hs ho]
        refine hstep hstart (.assign n repository ?_)
        intro t ht
        rw [hs] at ht
        cases ht
        exact ho
  | openRepository r => exact hstep hstart (.openRepository r)
  | closeRepository r => exact hstep hstart (.closeRepository r)
  | reopenRepository r =>
    rw [perform_reopenRepository]
    exact hstep (hstep hstart (.closeRepository r)) (.openRepository r)
  | unlisten name id => cases hop
  | emit name event => cases hop
  | _ => exact hstep hstart (.quiet (quiet_perform h.telling rfl))

theorem perform_regular (h : d.Regular) {op : Operation} (hop : op.isOrdinary = true) :
    (d.perform op).2.Regular :=
  (perform_induct (P := fun _ => True) (fun _ _ _ => trivial) h trivial hop).1

/-- What every move keeps, every run of ordinary operations keeps. -/
theorem performAll_induct {P : Deployment → Prop}
    (hmove : ∀ {d d'}, Regular d → Move d d' → P d → P d') (h : d.Regular) (hd : P d)
    {ops : List Operation} (hops : ∀ op ∈ ops, op.isOrdinary = true) :
    (d.performAll ops).Regular ∧ P (d.performAll ops) := by
  induction ops generalizing d with
  | nil => exact ⟨h, hd⟩
  | cons op rest ih =>
    obtain ⟨h', hd'⟩ := perform_induct hmove h hd (hops op List.mem_cons_self)
    exact ih h' hd' fun op hm => hops op (List.mem_cons_of_mem _ hm)

/-! ### Fresh deployments -/

/-- Nothing has happened yet: selectors and repositories are closed, and only recorders are
registered. -/
structure Fresh (d : Deployment) : Prop where
  /-- Every selector is as it was made. -/
  selectors : ∀ n s, d.selectors.get? n = some s →
    ∃ whenUndefined repository, s = { whenUndefined, repository }
  /-- Every repository is as it was made. -/
  repositories : ∀ r x, d.stores.repositories.get? r = some x →
    ∃ b : Backing, b.isOpen = false ∧ x = .recorded b

theorem get?_addRepository (d : Deployment) (r : String) (b : Backing) (q : String) :
    (d.addRepository r b).stores.repositories.get? q =
      if q = r then some (.recorded b) else d.stores.repositories.get? q :=
  KeyMap.get?_insert d.stores.repositories r q (.recorded b)

theorem get?_addSelector (d : Deployment) (n : String) (repository : Option String)
    (whenUndefined : Bool) (m : String) :
    (d.addSelector n repository whenUndefined).selectors.get? m =
      if m = n then some { whenUndefined, repository } else d.selectors.get? m :=
  KeyMap.get?_insert d.selectors n m { whenUndefined, repository }

/-- Files and remote stores alone are a fresh deployment. -/
theorem fresh_empty (files : Files) (web : Web) : Fresh { stores := { files, web } } :=
  ⟨fun _ _ h => (by cases h), fun _ _ h => (by cases h)⟩

theorem Fresh.addRepository (h : d.Fresh) {b : Backing} (hb : b.isOpen = false) (r : String) :
    (d.addRepository r b).Fresh := by
  refine ⟨h.selectors, ?_⟩
  intro q x hx
  rw [get?_addRepository] at hx
  split at hx
  · cases hx
    exact ⟨b, hb, rfl⟩
  · exact h.repositories q x hx

/-- Whatever stores a deployment has, one more is one more. -/
theorem Every.addRepository {P : Backing → Prop} (h : d.Every P) {b : Backing} (hb : P b)
    (r : String) : (d.addRepository r b).Every P := by
  intro q c hc
  unfold Stores.backing? at hc
  rw [get?_addRepository] at hc
  split at hc
  · cases hc
    exact hb
  · exact h q c hc

theorem Fresh.addSelector (h : d.Fresh) (n : String) (repository : Option String)
    (whenUndefined : Bool) : (d.addSelector n repository whenUndefined).Fresh := by
  refine ⟨?_, h.repositories⟩
  intro m s hs
  rw [get?_addSelector] at hs
  split at hs
  · cases hs
    exact ⟨whenUndefined, repository, rfl⟩
  · exact h.selectors m s hs

/-- The store of a fresh repository is closed. -/
theorem Fresh.isOpen_backing (h : d.Fresh) {b : Backing} (hb : d.stores.backing? r = some b) :
    b.isOpen = false := by
  obtain ⟨x, hx, rfl⟩ := Option.map_eq_some_iff.1 hb
  obtain ⟨b, hopen, rfl⟩ := h.repositories r x hx
  exact hopen

theorem Fresh.coherent (h : d.Fresh) : d.Coherent := by
  -- only the recorder is registered, and it is no table
  have hlis : ∀ r l, d.stores.listeners? r = some l → l = Registry.add {} Subscriber.recorder := by
    intro r l hl
    obtain ⟨x, hx, rfl⟩ := Option.map_eq_some_iff.1 hl
    obtain ⟨b, -, rfl⟩ := h.repositories r x hx
    rfl
  refine ⟨?_, ?_, ?_, ?_⟩
  · intro r l hl
    rw [hlis r l hl]
    exact Registry.sound_empty.add _
  · intro n s hs
    obtain ⟨u, r, rfl⟩ := h.selectors n s hs
    exact Selector.new_lawful u r
  · intro n s r id hs _ hid
    obtain ⟨u, q, rfl⟩ := h.selectors n s hs
    cases hid
  · intro r l id n hl hm
    rw [hlis r l hl, Registry.mem_add] at hm
    rcases hm with hm | hm
    · cases hm
    · cases hm

/-- A fresh deployment is regular, unless there are stubs in it. -/
theorem Fresh.regular (h : d.Fresh) (hs : d.Every fun b => ∀ s, b ≠ .stub s) : d.Regular := by
  refine ⟨h.coherent, ?_⟩
  intro r b hb
  cases b with
  | memory m => exact trivial
  | stub s => exact absurd rfl (hs r _ hb s)
  | file s =>
    intro o ho
    have hclosed := h.isOpen_backing hb
    have hopened : Backing.isOpen (.file s) = s.opened.isSome := rfl
    rw [hopened, ho] at hclosed
    cases hclosed

end Deployment

end Admission

import Admission.Proofs.Deployment.Live

/-!
# Shared memory — what selectors answer that share stores in memory

  A store in memory keeps its entries while it is closed, so opening it brings in nothing
  that its listeners have not been told, and nobody is ever left behind. Selectors that
  share such stores answer what the entries say in every state of every run, also while
  somebody else has closed or reopened the store behind them (`performAll_memory`).
-/

namespace Admission

namespace Deployment

variable {d d' : Deployment} {n r : String} {s : Selector String}

/-! ### Answers -/

/-- Whether an event is admitted, read off the entries of a repository. -/
def verdict (entries : Entries) (whenUndefined : Bool) (severity : Severity) (key : String)
    (value : Option String) : Bool :=
  match (entries.get? key).bind Token.parse? with
  | some token => token.admits severity value
  | none => whenUndefined

/-- A wired selector answers what the entries say that its table was compiled from. -/
theorem evaluate_wired (hw : s.isWired = true) {entries : Entries}
    (h : ∀ key, s.table.get? key = (entries.get? key).bind Token.parse?)
    (severity : Severity) (key : String) (value : Option String) :
    s.evaluate severity key value = verdict entries s.whenUndefined severity key value := by
  unfold Selector.evaluate verdict
  rw [hw, h key]
  rfl

theorem evaluate_unwired (hw : s.isWired = false) (severity : Severity) (key : String)
    (value : Option String) : s.evaluate severity key value = s.whenUndefined := by
  unfold Selector.evaluate
  rw [hw]
  rfl

/-! ### Nobody is left behind -/

/-- Opening a store in memory brings nothing into hand. -/
theorem not_leavesBehind (hm : d.Every Backing.IsMemory) (r : String) : ¬ d.LeavesBehind r := by
  rintro ⟨n, s, entries, -, -, -, hread, -⟩
  obtain ⟨b, hb, hread⟩ := Option.bind_eq_some_iff.1 hread
  rw [(hm r b hb).not_rereads] at hread
  cases hread

/-- With stores in memory every move keeps tables current, opening included. -/
theorem Move.current (hmove : Move d d') (hc : d.Coherent) (hm : d.Every Backing.IsMemory)
    (h : d.Current) : d'.Current := by
  cases hmove with
  | quiet hq => exact hq.current h hc
  | openRepository r => exact (opens_openStore d r).current h (not_leavesBehind hm r)
  | closeRepository r => exact h.closeRepository r
  | openSelector n =>
    rcases openSelector_opens h hc n with ⟨-, hcur⟩ | ⟨r, -, hopens⟩
    · exact hcur
    · exact hopens.current h (not_leavesBehind hm r)
  | closeSelector n => exact h.closeSelector hc n
  | assign n repository ho => exact h.assign hc ho repository

/-! ### Open selectors are wired -/

/-- Every open selector is wired, if there is a repository under the name that it has. -/
def Attached (d : Deployment) : Prop :=
  ∀ n s r, d.selectors.get? n = some s → s.isOpen = true → s.repository = some r →
    d.stores.has r = true → s.isWired = true

theorem Fresh.attached (h : d.Fresh) : d.Attached := by
  intro n s r hs ho _ _
  obtain ⟨u, q, rfl⟩ := h.selectors n s hs
  cases ho

/-- Attachment needs no more than that no open selector and no repository is new. -/
theorem Attached.of_views (h : d.Attached)
    (hs : ∀ n s', d'.selectors.get? n = some s' → s'.isOpen = true →
      ∃ s, d.selectors.get? n = some s ∧ s.SameWiring s')
    (hw : ∀ r, d'.stores.has r = d.stores.has r) : d'.Attached := by
  intro n s' r hs' ho hr hhas
  obtain ⟨s, hn, hsame⟩ := hs n s' hs' ho
  rw [hsame.isOpen_eq] at ho
  rw [hsame.repository_eq] at hr
  rw [hsame.isWired_eq]
  rw [hw] at hhas
  exact h n s r hn ho hr hhas

/-- What happens to one selector alone keeps the others attached. -/
theorem Attached.rewired (h : d.Attached) {w : Stores} (hw : ∀ r, w.has r = d.stores.has r)
    (hs : ∀ r, s.isOpen = true → s.repository = some r → d.stores.has r = true →
      s.isWired = true) : (d.rewired n s w).Attached := by
  intro m t r ht ho hr hhas
  rw [stores_rewired, hw] at hhas
  rw [get?_rewired] at ht
  split at ht
  · cases ht
    exact hs r ho hr hhas
  · exact h m t r ht ho hr hhas

theorem Quiet.attached (h : Quiet d d') (hd : d.Attached) (hc : d.Coherent) : d'.Attached := by
  induction h with
  | refl => exact hd
  | outside _ files web ih => exact ih
  | observed _ name observer fails ih =>
    exact ih.of_views (fun _ s hs _ => ⟨s, hs, .refl s⟩) (Stores.has_modify _ name _)
  | @moved d' hq name b b' event files hb hm hk ih =>
    refine ih.of_views (fun _ _ hs _ => (hq.coherent hc).sameWiring_moved hb hs) ?_
    intro r
    unfold Deployment.moved
    rw [stores_deliverAny]
    exact Stores.has_modify { d'.stores with files } name _ r

theorem Attached.openRepository (h : d.Attached) (r : String) :
    (d.perform (.openRepository r)).2.Attached :=
  h.of_views (fun _ s hs _ => ⟨s, hs, .refl s⟩) (Stores.has_openStore d.stores r)

theorem Attached.closeRepository (h : d.Attached) (r : String) :
    (d.perform (.closeRepository r)).2.Attached :=
  h.of_views (fun _ s hs _ => ⟨s, hs, .refl s⟩) (Stores.has_modify d.stores r _)

theorem Attached.closeSelector (h : d.Attached) (hc : d.Coherent) (n : String) :
    (d.perform (.closeSelector n)).2.Attached := by
  rcases hc.closeSelector_cases n with ⟨-, he⟩ | ⟨s, hs, -, he⟩
  · rw [he]; exact h
  · rw [he]
    exact h.rewired (Stores.has_released s d.stores) (fun _ ho _ _ => by cases ho)

/-- A closed selector may have any repository. -/
theorem Attached.assign (h : d.Attached)
    (ho : ∀ s, d.selectors.get? n = some s → s.isOpen = false) (repository : Option String) :
    (d.assign n repository).Attached := by
  unfold Deployment.assign
  cases hs : d.selectors.get? n with
  | none => exact h
  | some s =>
    refine h.rewired (s := { s with repository }) (fun _ => rfl) ?_
    intro r hopen
    change s.isOpen = true at hopen
    rw [ho s hs] at hopen
    cases hopen

/-- Opening a selector that has a store in memory wires it. -/
theorem Attached.openSelector (h : d.Attached) (hm : d.Every Backing.IsMemory) (n : String) :
    (d.perform (.openSelector n)).2.Attached := by
  rcases openSelector_cases d n with ⟨-, he⟩ | ⟨s, hs, ho, ⟨hu, he⟩ | ⟨r, -, hr⟩⟩
  · rw [he]; exact h
  · rw [he]
    refine h.rewired (s := { s with isOpen := true }) (fun _ => rfl) ?_
    intro r _ hr hhas
    obtain ⟨b, hb⟩ := Stores.backing?_of_has hhas
    have hdef : b.isDefined = true := by
      obtain ⟨m, rfl⟩ := hm r b hb
      rfl
    have husable : s.usable? d.stores = some r := Selector.usable?_eq_some.2 ⟨hr, b, hb, hdef⟩
    rw [husable] at hu
    cases hu
  · have hclosed : ∀ q, s.isOpen = true → s.repository = some q → d.stores.has q = true →
        s.isWired = true := by
      intro q hopen
      rw [ho] at hopen
      cases hopen
    rcases hr with he | ⟨-, he⟩ | ⟨entries, -, he⟩
    · rw [he]
      exact h.rewired (Stores.has_openStore d.stores r) hclosed
    · rw [he]
      refine h.rewired ?_ hclosed
      intro q
      rw [Stores.has_givenUp, Stores.has_openStore]
    · rw [he]
      refine h.rewired ?_ (fun _ _ _ _ => rfl)
      intro q
      rw [Stores.has_subscribed, Stores.has_openStore]

/-- Attachment is kept by every move, as long as the stores are in memory. -/
theorem Move.attached (hmove : Move d d') (hc : d.Coherent) (hm : d.Every Backing.IsMemory)
    (h : d.Attached) : d'.Attached := by
  cases hmove with
  | quiet hq => exact hq.attached h hc
  | openRepository r => exact h.openRepository r
  | closeRepository r => exact h.closeRepository r
  | openSelector n => exact h.openSelector hm n
  | closeSelector n => exact h.closeSelector hc n
  | assign n repository ho => exact h.assign ho repository

/-! ### Whole runs -/

/-- Selectors that share stores in memory answer what the entries say, in every state of every
run: one that is wired is open and answers as its repository spells out now, whoever closed or
reopened it, any other one answers its default, and an open one is wired as soon as there is a
repository under its name. -/
theorem performAll_memory (hd : d.Fresh) (hm : d.Every Backing.IsMemory) {ops : List Operation}
    (hops : ∀ op ∈ ops, op.isOrdinary = true) (hs : (d.performAll ops).selectors.get? n = some s) :
    (s.isWired = true → s.isOpen = true ∧ ∃ r m, s.repository = some r ∧
      (d.performAll ops).stores.backing? r = some (.memory m) ∧
      (∀ key, s.table.get? key = (m.entries.get? key).bind Token.parse?) ∧
      ∀ severity key value, s.evaluate severity key value =
        verdict m.entries s.whenUndefined severity key value) ∧
    (s.isWired = false → ∀ severity key value,
      s.evaluate severity key value = s.whenUndefined) ∧
    (s.isOpen = true → ∀ r, s.repository = some r → (d.performAll ops).stores.has r = true →
      s.isWired = true) := by
  have hreg : d.Regular := ⟨hd.coherent, fun r b hb => (hm r b hb).telling⟩
  -- the stores stay in memory, so tables stay current and open selectors wired
  have hrun := performAll_induct
    (P := fun d => d.Every Backing.IsMemory ∧ d.Current ∧ d.Attached)
    (fun hreg hmove h => ⟨hmove.every Backing.isMemory_stable hreg.coherent h.1,
      hmove.current hreg.coherent h.1 h.2.1, hmove.attached hreg.coherent h.1 h.2.2⟩)
    hreg ⟨hm, hd.current, hd.attached⟩ hops
  generalize d.performAll ops = after at hs hrun ⊢
  obtain ⟨⟨hc, -⟩, hmem, hcur, hatt⟩ := hrun
  refine ⟨?_, evaluate_unwired, fun ho r hr hhas => hatt n s r hs ho hr hhas⟩
  intro hw
  -- a wired selector is registered, so there is a store under the name that it has
  have hlaw := hc.lawful hs
  obtain ⟨r, hr⟩ := Option.isSome_iff_exists.1 (hlaw.repository_of_wired hw)
  obtain ⟨id, hid⟩ := Option.isSome_iff_exists.1 (hlaw.wired_eq ▸ hw)
  obtain ⟨l, hl, -⟩ := hc.registered hs hr hid
  obtain ⟨x, hx, -⟩ := Option.map_eq_some_iff.1 hl
  have hb : after.stores.backing? r = some x.backing := by
    unfold Stores.backing?
    rw [hx]
    rfl
  obtain ⟨m, hmx⟩ := hmem r _ hb
  rw [hmx] at hb
  have htok := tokens_eq_compile_iff.1 (hcur n s r _ m.entries hs hw hr hb rfl)
  exact ⟨hlaw.isOpen_of_wired hw, r, m, hr, hb, htok, evaluate_wired hw htok⟩

/-- Two selectors that share a store in memory. -/
def sharedLevels : Deployment :=
  ((({ stores := { files := {} } } : Deployment).addRepository "levels" (.memory {})).addSelector
    "a" (some "levels") false).addSelector "b" (some "levels") true

theorem fresh_sharedLevels : sharedLevels.Fresh :=
  (((fresh_empty {} .down).addRepository rfl "levels").addSelector "a" _ _).addSelector "b" _ _

/-- The store is filled, and then one selector closes it behind the other one. -/
def closedBehind : List Operation :=
  [.openSelector "a", .openSelector "b", .change "levels" (.set "k" "ERROR"),
    .closeSelector "b"]

/-- A selector goes on answering from the entries of a store that was closed behind it. -/
theorem performAll_memory_closedBehind :
    ∃ s m, (sharedLevels.performAll closedBehind).selectors.get? "a" = some s ∧
      s.isWired = true ∧
      (sharedLevels.performAll closedBehind).stores.backing? "levels" = some (.memory m) ∧
      m.isOpen = false ∧
      ∀ severity key value, s.evaluate severity key value =
        verdict m.entries s.whenUndefined severity key value := by
  have hmem : sharedLevels.Every Backing.IsMemory :=
    Every.addRepository (fun _ _ h => by cases h) ⟨{}, rfl⟩ "levels"
  have hops : ∀ op ∈ closedBehind, op.isOrdinary = true := by
    simp [closedBehind, Operation.isOrdinary]
  have hrun : ((sharedLevels.performAll closedBehind).selectors.get? "a").map
      (fun s => (s.isWired, s.repository)) = some (true, some "levels") := by
    decide
  have hstore : ((sharedLevels.performAll closedBehind).stores.backing? "levels").map
      Backing.isOpen = some false := by
    decide
  obtain ⟨s, hs, hwr⟩ := Option.map_eq_some_iff.1 hrun
  obtain ⟨hw, hr⟩ := Prod.mk.inj hwr
  obtain ⟨-, r, m, hr', hb, -, hev⟩ := (performAll_memory fresh_sharedLevels hmem hops hs).1 hw
  rw [hr] at hr'
  cases hr'
  rw [hb] at hstore
  exact ⟨s, m, hs, hw, hb, Option.some.inj hstore, hev⟩

end Deployment

end Admission

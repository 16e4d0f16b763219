import Admission.Proofs.Deployment.Memory
import Admission.Proofs.Table.Compile
import Admission.Proofs.Token.Spelling
import Mathlib.Logic.Relation

/-!
# Queries — the answers of a selector agree with each other

  A selector is asked in three ways: for the keys that have a token, for the text of a
  token, and for a decision. The decision asks first whether the selector is wired; the
  other two read the table at once, and what they give out is a text, which has to be
  read again to know what the token decides.

  The three agree in every state of every run (`performAll_queries`), whatever the
  operations and whatever files and remote stores hold: registrations may be taken away by
  others, and stubs may refuse and tell what they like. What carries this is weaker than
  coherence. A table that is registered belongs to a selector that knows the registration,
  so only a wired selector is ever told anything, and one that is not wired has no tokens.
-/

namespace Admission

/-! ### Tokens that are spelled by their texts -/

namespace TokenMap

variable {m : TokenMap} {entries : Entries}

/-- The text of each token spells the token. -/
def Spelled (m : TokenMap) : Prop :=
  ∀ key token, m.get? key = some token → Token.parse? token.raw = some token

theorem Spelled.of_tokens {m' : TokenMap} (h : m.Spelled)
    (ht : ∀ key token, m'.get? key = some token → m.get? key = some token) : m'.Spelled :=
  fun key token hk => h key token (ht key token hk)

theorem spelled_empty {m : TokenMap} (h : m.tokens = KeyMap.empty) : m.Spelled := by
  intro key token hk
  unfold get? at hk
  rw [h] at hk
  cases hk

theorem spelled_rebuild (m : TokenMap) (entries : Entries) : (m.rebuild entries).Spelled := by
  intro key token hk
  change (compile entries).get? key = some token at hk
  rw [get?_compile] at hk
  obtain ⟨raw, -, hp⟩ := Option.bind_eq_some_iff.1 hk
  exact Token.parse?_raw hp

theorem Spelled.erase (h : m.Spelled) {m' : TokenMap} {key : String}
    (he : m'.tokens = m.tokens.erase key) : m'.Spelled := by
  refine h.of_tokens fun k token hk => ?_
  unfold get? at hk
  rw [he, KeyMap.get?_erase] at hk
  split at hk
  · cases hk
  · exact hk

theorem Spelled.upsert (h : m.Spelled) (key raw : String) : (m.upsert key raw).Spelled := by
  unfold TokenMap.upsert
  cases hp : Token.parse? raw with
  | none => exact h.erase rfl
  | some token =>
    intro k t hk
    change (m.tokens.insert key token).get? k = some t at hk
    rw [KeyMap.get?_insert] at hk
    split at hk
    · cases hk
      exact Token.parse?_raw hp
    · exact h k t hk

/-- Whatever a table is told, its tokens are spelled by their texts. -/
theorem Spelled.applied (h : m.Spelled) (snapshot : Except Fault Entries) (event : ChangeEvent) :
    (Selector.applied snapshot event m).Spelled := by
  unfold Selector.applied
  split
  · exact h.upsert _ _
  · exact h.upsert _ _
  · exact h.erase (tokens_remove m _)
  · exact spelled_empty rfl
  · unfold rebuildFrom
    cases snapshot with
    | ok entries => exact spelled_rebuild m entries
    | error cause => exact h
  · exact h

end TokenMap

/-! ### One selector -/

namespace Selector

variable {s : Selector String}

/-- The three ways to ask a selector agree where its tokens are spelled by their texts, and
where there are none unless it is wired. -/
theorem queries_agree (hl : s.Lawful) (hsp : s.table.Spelled) :
    s.keys.Pairwise (· < ·) ∧
    (∀ key, key ∈ s.keys ↔ (s.get? key).isSome = true) ∧
    (∀ key, s.get? key = none →
      ∀ severity value, s.evaluate severity key value = s.whenUndefined) ∧
    ∀ key raw, s.get? key = some raw → ∃ token, Token.parse raw = .ok token ∧
      ∀ severity value, s.evaluate severity key value = token.admits severity value := by
  refine ⟨KeyMap.keys_ascending _, ?_, ?_, ?_⟩
  · intro key
    unfold get?
    rw [Option.isSome_map]
    exact KeyMap.mem_keys_iff s.table.tokens key
  · intro key hnone severity value
    have ht : s.table.get? key = none := Option.map_eq_none_iff.1 hnone
    unfold evaluate
    rw [ht]
    exact ite_self _
  · intro key raw hraw
    obtain ⟨token, ht, rfl⟩ := Option.map_eq_some_iff.1 hraw
    refine ⟨token, Token.parse?_eq_some.1 (hsp key token ht), ?_⟩
    -- a selector that is not wired would have no token for the key
    have hw : s.isWired = true := by
      cases hw : s.isWired with
      | true => rfl
      | false =>
        unfold TokenMap.get? at ht
        rw [hl.tokens_of_unwired hw] at ht
        cases ht
    intro severity value
    unfold evaluate
    rw [hw, ht]
    rfl

end Selector

namespace Deployment

variable {d d' : Deployment} {n : String} {s : Selector String}

/-! ### Steps -/

/-- What operations are made of, if registrations may end and anything may be told. -/
inductive Step (d : Deployment) : Deployment → Prop where
  /-- The stores are other ones, with no tables registered that were not registered before. -/
  | stores {w : Stores} (hs : d.stores.Sound → w.Sound)
      (hr : ∀ r id n, w.Registered r id (.table n) → d.stores.Registered r id (.table n)) :
      Step d { d with stores := w }
  /-- Something is told to the listeners of a repository. -/
  | told (name : String) (event : ChangeEvent) : Step d (d.deliver name event)
  /-- A selector is opened. -/
  | openSelector (n : String) : Step d (d.perform (.openSelector n)).2
  /-- A selector is closed. -/
  | closeSelector (n : String) : Step d (d.perform (.closeSelector n)).2
  /-- A closed selector gets a repository. -/
  | assign (n : String) (repository : Option String)
      (ho : ∀ s, d.selectors.get? n = some s → s.isOpen = false) :
      Step d (d.assign n repository)

/-- Steps one after the other. -/
abbrev Steps : Deployment → Deployment → Prop := Relation.ReflTransGen Step

/-- Stores with the same registries are a step. -/
theorem Step.of_listeners (d : Deployment) {w : Stores}
    (h : ∀ r, w.listeners? r = d.stores.listeners? r) : Step d { d with stores := w } := by
  refine .stores ?_ ?_
  · intro hs r l hl
    rw [h] at hl
    exact hs r l hl
  · intro r id n hreg
    unfold Stores.Registered at hreg ⊢
    rw [← h]
    exact hreg

theorem Steps.deliverAny (d : Deployment) (name : String) (event : Option ChangeEvent) :
    Steps d (d.deliverAny name event) := by
  cases event with
  | none => exact .refl
  | some event => exact .single (.told name event)

/-- A store that moves is put in its place, and then its listeners are told. -/
theorem Steps.moved (d : Deployment) (name : String) (files : Files) (b : Backing)
    (event : Option ChangeEvent) : Steps d (d.moved name files b event) :=
  .head (.of_listeners d (Stores.listeners?_putBacking { d.stores with files } name b))
    (Steps.deliverAny _ name event)

theorem Steps.foldl {α : Type} {f : Deployment → α → Deployment} (hf : ∀ d a, Steps d (f d a))
    (l : List α) (d : Deployment) : Steps d (l.foldl f d) := by
  induction l generalizing d with
  | nil => exact .refl
  | cons a rest ih => exact (hf d a).trans (ih (f d a))

/-! ### What operations are made of -/

theorem steps_change (name : String) (c : Change) (d : Deployment) :
    Steps d (d.change name c).2 := by
  unfold change
  cases d.stores.backing? name with
  | none => exact .refl
  | some b =>
    show Steps d (Deployment.settle name _ _).2
    rw [settle_snd]
    exact Steps.moved d name _ _ _

theorem steps_touch (f : Files → Except FileFault Files) (d : Deployment) :
    Steps d (d.touch f).2 := by
  unfold touch
  split
  · exact .refl
  · exact .single (.of_listeners d fun _ => rfl)

theorem steps_cycle (d : Deployment) (name : String) : Steps d (d.cycle name) := by
  unfold cycle
  cases d.stores.backing? name with
  | none => exact .refl
  | some b => exact Steps.moved d name d.stores.files _ _

theorem steps_overtake (name path : String) (content : Content) (c : Option Change)
    (d : Deployment) : Steps d (d.overtake name path content c).2 := by
  have hlater : Steps d { d with stores := { d.stores with
      files := { d.stores.files with clock := d.stores.files.clock + 1 } } } :=
    .single (.of_listeners d fun _ => rfl)
  unfold overtake
  cases c with
  | none => exact hlater.trans (steps_touch _ _)
  | some c =>
    have hchanged := hlater.trans (steps_change name c _)
    simp only
    split
    · exact hchanged.trans (steps_touch _ _)
    · exact hchanged

theorem steps_race (name path : String) (content : Content) (c : Option Change)
    (d : Deployment) : Steps d (d.race name path content c).2 := by
  have hover := steps_overtake name path content c d
  unfold race
  simp only
  split
  · refine hover.trans ?_
    unfold endCycle
    split
    · exact Steps.moved _ name _ _ _
    · exact .refl
  · exact hover

/-- Every operation is made of steps, in every state. -/
theorem steps_perform (d : Deployment) (op : Operation) : Steps d (d.perform op).2 := by
  cases op with
  | openSelector n => exact .single (.openSelector n)
  | closeSelector n => exact .single (.closeSelector n)
  | reopenSelector n =>
    rw [perform_reopenSelector]
    exact .tail (.single (.closeSelector n)) (.openSelector n)
  | setRepository n repository =>
    cases hs : d.selectors.get? n with
    | none =>
      rw [perform_setRepository_none hs]
    | some s =>
      -- an open selector is moved by closing it first and opening it after
      cases ho : s.isOpen with
      | true =>
        rw [perform_setRepository_open hs ho]
        exact .tail (.tail (.single (.closeSelector n))
          (.assign n repository fun _ hs => isOpen_closeSelector hs)) (.openSelector n)
      | false =>
        rw [perform_setRepository_closed hs ho]
        refine .single (.assign n repository ?_)
        intro t ht
        rw [hs] at ht
        cases ht
        exact ho
  | changeThrough name c =>
    show Steps d (d.changeThrough name c).2
    unfold changeThrough
    split
    · exact .refl
    · split
      · exact .refl
      · exact steps_change _ c d
  -- opening and closing a repository leaves its registrations alone
  | openRepository r => exact .single (.of_listeners d (Stores.listeners?_openStore d.stores r))
  | closeRepository r => exact .single (.of_listeners d (Stores.listeners?_closeStore d.stores r))
  | reopenRepository r =>
    refine .single (.of_listeners d fun q => ?_)
    exact (Stores.listeners?_openStore (d.stores.closeStore r) r q).trans
      (Stores.listeners?_closeStore d.stores r q)
  | change name c => exact steps_change name c d
  | replaceAll name entries =>
    show Steps d (d.replaceAll name entries).2
    unfold replaceAll
    split
    · rw [settle_snd]
      exact Steps.moved d name d.stores.files _ _
    · exact .refl
  | listen name observer fails =>
    refine .single (.stores (fun hs => hs.listen name (.observer observer fails)) ?_)
    intro r id n hreg
    rw [Stores.registered_listen] at hreg
    -- the new listener is no selector's table
    rcases hreg with hreg | ⟨-, -, -, hwho⟩
    · exact hreg
    · cases hwho
  | unlisten name id =>
    refine .single (.stores (fun hs => hs.unlisten name id) ?_)
    intro r i n hreg
    exact Stores.registered_of_unlisten hreg
  | refuse name refusals =>
    show Steps d (d.refuse name refusals).2
    unfold refuse
    split
    · exact .single (.of_listeners d (Stores.listeners?_putBacking d.stores name _))
    · exact .refl
  | emit name event => exact .single (.told name event)
  | touch f => exact steps_touch f d
  | rehost web => exact .single (.of_listeners d fun _ => rfl)
  | pass milliseconds =>
    exact Steps.foldl (fun d name => Steps.foldl (fun d _ => steps_cycle d name) _ d) _ d
  | race name path content c => exact steps_race name path content c d

/-! ### What steps keep -/

/-- Whoever is told something is ready for it, and what the tables hold is spelled by its
text. -/
structure Answering (d : Deployment) : Prop where
  /-- Every registry has different ids. -/
  sound : d.stores.Sound
  /-- A registered table belongs to a selector that knows the registration. -/
  known : ∀ {r id n}, d.stores.Registered r id (.table n) →
    ∃ s, d.selectors.get? n = some s ∧ s.idAt r = some id
  /-- Every selector keeps its promises. -/
  lawful : ∀ {n s}, d.selectors.get? n = some s → s.Lawful
  /-- The text of each token spells the token. -/
  spelled : ∀ {n s}, d.selectors.get? n = some s → s.table.Spelled

theorem Fresh.answering (h : d.Fresh) : d.Answering where
  sound := h.coherent.stores_sound
  known := fun hreg => h.coherent.registered_iff.1 hreg
  lawful := h.coherent.lawful
  spelled := by
    intro n s hs
    obtain ⟨u, r, rfl⟩ := h.selectors n s hs
    exact TokenMap.spelled_empty rfl

/-- One selector and the stores may be replaced, as long as the registrations that are there
afterwards are those of the selector or were there before. -/
theorem Answering.rewired (h : d.Answering) (hlaw : s.Lawful) (hsp : s.table.Spelled) {w : Stores}
    (hw : w.Sound) (hown : ∀ r id, w.Registered r id (.table n) → s.idAt r = some id)
    (hothers : ∀ r id m, m ≠ n → w.Registered r id (.table m) →
      d.stores.Registered r id (.table m)) : (d.rewired n s w).Answering where
  sound := hw
  known := by
    intro r id m hreg
    rw [get?_rewired]
    by_cases hm : m = n
    · rw [if_pos hm]
      rw [hm] at hreg
      exact ⟨s, rfl, hown r id hreg⟩
    · rw [if_neg hm]
      exact h.known (hothers r id m hm hreg)
  lawful := by
    intro m t hm
    rw [get?_rewired] at hm
    split at hm
    · cases hm
      exact hlaw
    · exact h.lawful hm
  spelled := by
    intro m t hm
    rw [get?_rewired] at hm
    split at hm
    · cases hm
      exact hsp
    · exact h.spelled hm

/-- A listener that is registered may be told anything. -/
theorem Answering.tell (h : d.Answering) {name : String} {who : Subscriber}
    (hreg : ∃ id, d.stores.Registered name id who) (event : ChangeEvent) :
    (d.tell name event who).Answering := by
  cases who with
  | recorder => exact ⟨h.sound, h.known, h.lawful, h.spelled⟩
  | observer who fails => exact ⟨h.sound, h.known, h.lawful, h.spelled⟩
  | table n =>
    obtain ⟨id, hreg⟩ := hreg
    obtain ⟨s, hs, hid⟩ := h.known hreg
    have he : d.tell name event (.table n) =
        d.rewired n (s.hear (d.stores.snapshot name) event) d.stores := by
      simp only [Deployment.tell, hs]
      rfl
    -- its selector knows the registration, so it is wired and may have tokens
    have hw : s.isWired = true :=
      (h.lawful hs).wired_of_listener (Selector.idAt_eq_some.1 hid).2
    have hsame : s.SameWiring (s.hear (d.stores.snapshot name) event) := by
      refine ⟨rfl, rfl, rfl, rfl, ?_⟩
      rw [hw]
      exact fun hn => by cases hn
    rw [he]
    refine h.rewired (hsame.lawful (h.lawful hs)) ((h.spelled hs).applied _ event) h.sound ?_
      fun _ _ _ _ hm => hm
    intro r i hr
    obtain ⟨t, ht, hat⟩ := h.known hr
    rw [hs] at ht
    cases ht
    exact hat

theorem Answering.deliver (h : d.Answering) (name : String) (event : ChangeEvent) :
    (d.deliver name event).Answering := by
  refine deliver_induct h ?_
  rintro e l hst ⟨x, hx, hl⟩ he
  -- the registrations stay while one listener after the other is told
  rw [← hst] at hx
  exact he.tell ⟨l.1, x, hx, hl⟩ event

theorem Answering.closeSelector (h : d.Answering) (n : String) :
    (d.perform (.closeSelector n)).2.Answering := by
  rcases closeSelector_cases (d := d) (n := n) (fun _ hs => h.lawful hs) with
    ⟨-, he⟩ | ⟨s, hs, -, he⟩
  · rw [he]; exact h
  · rw [he]
    refine h.rewired s.closed_lawful (TokenMap.spelled_empty rfl) (h.sound.released s) ?_ ?_
    · -- the one registration that it could have is taken away
      intro r id hreg
      obtain ⟨hreg, hne⟩ := Stores.registered_released.1 hreg
      obtain ⟨t, ht, hid⟩ := h.known hreg
      rw [hs] at ht
      cases ht
      exact absurd hid hne
    · intro r id m _ hreg
      exact (Stores.registered_released.1 hreg).1

/-- A closed selector is not registered anywhere. -/
theorem Answering.not_registered (h : d.Answering) (hs : d.selectors.get? n = some s)
    (ho : s.isOpen = false) (r : String) (id : ListenerId) :
    ¬ d.stores.Registered r id (.table n) := by
  intro hreg
  obtain ⟨t, ht, hid⟩ := h.known hreg
  rw [hs] at ht
  cases ht
  have hlaw := h.lawful hs
  rw [Selector.idAt_of_unregistered (hlaw.listener_of_unwired (hlaw.unwired_of_closed ho))] at hid
  cases hid

theorem Answering.assign (h : d.Answering)
    (ho : ∀ s, d.selectors.get? n = some s → s.isOpen = false) (repository : Option String) :
    (d.assign n repository).Answering := by
  unfold Deployment.assign
  cases hs : d.selectors.get? n with
  | none => exact h
  | some s =>
    have hsp : s.table.Spelled := h.spelled hs
    refine h.rewired ((h.lawful hs).assigned (ho s hs) repository) hsp h.sound ?_
      fun _ _ _ _ hreg => hreg
    intro r id hreg
    exact absurd hreg (h.not_registered hs (ho s hs) r id)

theorem Answering.openSelector (h : d.Answering) (n : String) :
    (d.perform (.openSelector n)).2.Answering := by
  rcases openSelector_cases d n with ⟨-, he⟩ | ⟨s, hs, ho, ⟨-, he⟩ | ⟨r, hu, hr⟩⟩
  · rw [he]; exact h
  · rw [he]
    have hsp : s.table.Spelled := h.spelled hs
    refine h.rewired (h.lawful hs).opened hsp h.sound ?_ fun _ _ _ _ hreg => hreg
    intro r id hreg
    exact absurd hreg (h.not_registered hs ho r id)
  · -- opening the store changes no registration, so the selector has none but its own new one
    have hopened : ∀ q id who, (d.stores.openStore r).2.Registered q id who ↔
        d.stores.Registered q id who := by
      intro q id who
      unfold Stores.Registered
      rw [Stores.listeners?_openStore]
    have hsound : (d.stores.openStore r).2.Sound := by
      intro q l hl
      rw [Stores.listeners?_openStore] at hl
      exact h.sound q l hl
    have hnone := h.not_registered hs ho
    rcases hr with he | ⟨-, he⟩ | ⟨entries, -, he⟩
    · rw [he]
      refine h.rewired (h.lawful hs) (h.spelled hs) hsound ?_ ?_
      · intro q id hreg
        exact absurd ((hopened q id _).1 hreg) (hnone q id)
      · exact fun q id m _ hreg => (hopened q id _).1 hreg
    · rw [he]
      refine h.rewired (h.lawful hs) (h.spelled hs) (hsound.givenUp n r) ?_ ?_
      · intro q id hreg
        rw [hsound.registered_givenUp, hopened] at hreg
        exact absurd hreg (hnone q id)
      · intro q id m _ hreg
        rw [hsound.registered_givenUp, hopened] at hreg
        exact hreg
    · rw [he]
      -- wired: its registration is the new one, and its table is loaded from the entries
      have hrep := (Selector.usable?_eq_some.1 hu).1
      refine h.rewired (Selector.wired_lawful hrep _ entries) (TokenMap.spelled_rebuild _ entries)
        (hsound.subscribed n r) ?_ ?_
      · intro q id hreg
        rw [Stores.registered_subscribed, hopened] at hreg
        rcases hreg with hreg | ⟨rfl, -, rfl, -⟩
        · exact absurd hreg (hnone q id)
        · exact Selector.idAt_eq_some.2 ⟨hrep, rfl⟩
      · intro q id m hm hreg
        rw [Stores.registered_subscribed, hopened] at hreg
        rcases hreg with hreg | ⟨-, -, -, hwho⟩
        · exact hreg
        · cases hwho
          exact absurd rfl hm

theorem Step.answering (hstep : Step d d') (h : d.Answering) : d'.Answering := by
  cases hstep with
  | stores hs hr => exact ⟨hs h.sound, fun hreg => h.known (hr _ _ _ hreg), h.lawful, h.spelled⟩
  | told name event => exact h.deliver name event
  | openSelector n => exact h.openSelector n
  | closeSelector n => exact h.closeSelector n
  | assign n repository ho => exact h.assign ho repository

theorem Steps.answering (hsteps : Steps d d') (h : d.Answering) : d'.Answering := by
  induction hsteps with
  | refl => exact h
  | tail _ hstep ih => exact hstep.answering ih

/-! ### Whole runs -/

/-- Every run is made of steps. -/
theorem steps_performAll (d : Deployment) (ops : List Operation) : Steps d (d.performAll ops) := by
  induction ops generalizing d with
  | nil => exact .refl
  | cons op rest ih => exact (steps_perform d op).trans (ih (d.perform op).2)

/-- The answers of a selector agree in every state that steps lead to, and so in every state of
every run, whatever the operations: its keys ascend and are those that have a text, a key without
one gets the default, and a text that is given out can be read, and what it says is what is
decided. -/
theorem performAll_queries (hd : d.Fresh) :
    (∀ ops, Steps d (d.performAll ops)) ∧
    ∀ d' n s, Steps d d' → d'.selectors.get? n = some s →
      s.keys.Pairwise (· < ·) ∧
      (∀ key, key ∈ s.keys ↔ (s.get? key).isSome = true) ∧
      (∀ key, s.get? key = none →
        ∀ severity value, s.evaluate severity key value = s.whenUndefined) ∧
      ∀ key raw, s.get? key = some raw → ∃ token, Token.parse raw = .ok token ∧
        ∀ severity value, s.evaluate severity key value = token.admits severity value := by
  refine ⟨steps_performAll d, ?_⟩
  intro d' n s hsteps hs
  have h : d'.Answering := hsteps.answering hd.answering
  exact Selector.queries_agree (h.lawful hs) (h.spelled hs)

/-- A selector with a repository whose store is remote. -/
def levelsFar : Deployment :=
  (({ stores := { web := .serving "http://host/levels" "k=INFO\n" } } :
    Deployment).addRepository "levels"
      (.file { settings := { url := some "http://host/levels", refresh := 100 } })).addSelector
    "a" (some "levels") true

/-- The remote store gets a value with a blank at the end, which a poll cycle finds. Then the
registration of the selector is taken away, and the store changes again. -/
def unheard : List Operation :=
  [.openSelector "a", .rehost (.serving "http://host/levels" "k=ERROR \n"), .pass 1000,
    .unlisten "levels" ⟨1⟩, .rehost (.serving "http://host/levels" "k=DEBUG\n"), .pass 1000]

/-- A selector that does not hear of a change any more goes on deciding by the text that it
gives out. -/
theorem performAll_queries_unheard :
    ∃ s, (levelsFar.performAll unheard).selectors.get? "a" = some s ∧
      s.get? "k" = some "ERROR" ∧ "k" ∈ s.keys ∧
      ∃ token, Token.parse "ERROR" = .ok token ∧
        ∀ severity value, s.evaluate severity "k" value = token.admits severity value := by
  have hfresh : levelsFar.Fresh :=
    ((fresh_empty _ _).addRepository rfl "levels").addSelector "a" _ _
  have hrun : ((levelsFar.performAll unheard).selectors.get? "a").map (fun s => s.get? "k") =
      some (some "ERROR") := by
    decide +kernel
  obtain ⟨s, hs, hget⟩ := Option.map_eq_some_iff.1 hrun
  obtain ⟨hsteps, hall⟩ := performAll_queries hfresh
  obtain ⟨-, hkeys, -, hread⟩ := hall _ "a" s (hsteps unheard) hs
  exact ⟨s, hs, hget, (hkeys "k").2 (by rw [hget]; rfl), hread "k" "ERROR" hget⟩

end Deployment

end Admission

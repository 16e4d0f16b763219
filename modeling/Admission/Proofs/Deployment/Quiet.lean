import Admission.Proofs.Deployment.Wiring
import Admission.Proofs.Store.Telling

/-!
# Quiet operations — what opens and closes nothing

  Most operations open and close nothing: changes of stores, poll cycles, the passing of
  time, changes from outside, new observers. Each of them is made of four
  kinds of steps (`Deployment.Quiet`), and among these only one touches a store: the
  store moves as its event says, and the event is delivered.

  `quiet_perform` finds the steps of every such operation, torn poll cycles included.
  What the steps keep, all these operations keep; `Quiet.coherent` is the first use.
-/

namespace Admission

namespace Deployment

/-! ### Stores that tell -/

/-- Every store of a deployment has a property. -/
def Every (P : Backing → Prop) (d : Deployment) : Prop :=
  ∀ r b, d.stores.backing? r = some b → P b

/-- Every store of a deployment tells what happens to it. -/
abbrev Telling : Deployment → Prop := Every Backing.Telling

/-- The deployment after a store has moved and the event, if there is one, was delivered. -/
def moved (name : String) (files : Files) (b : Backing) (event : Option ChangeEvent)
    (d : Deployment) : Deployment :=
  { d with stores := { d.stores with files }.putBacking name b }.deliverAny name event

theorem stores_deliverAny (name : String) (event : Option ChangeEvent) (d : Deployment) :
    (d.deliverAny name event).stores = d.stores := by
  cases event with
  | none => rfl
  | some event => exact stores_deliver name event d

theorem backing?_moved (name : String) (files : Files) (b : Backing) (event : Option ChangeEvent)
    (d : Deployment) (r : String) :
    (d.moved name files b event).stores.backing? r =
      if r = name then (d.stores.backing? name).map (fun _ => b) else d.stores.backing? r := by
  unfold moved
  rw [stores_deliverAny, Stores.backing?_putBacking]
  rfl

theorem stores_listen (name observer : String) (fails : Bool) (d : Deployment) :
    (d.listen name observer fails).2.stores =
      d.stores.modify name (·.listen (.observer observer fails)) := rfl

theorem settle_snd (name : String) (outcome : Except Fault (Option ChangeEvent))
    (d : Deployment) :
    (d.settle name outcome).2 = d.deliverAny name (ChangeEvent.ofOutcome outcome) := by
  cases outcome with
  | ok event => rfl
  | error cause => rfl

/-! ### Quiet steps -/

/-- One deployment comes from another by steps that open and close nothing. -/
inductive Quiet (d : Deployment) : Deployment → Prop where
  /-- No step at all. -/
  | refl : Quiet d d
  /-- The files and the remote stores are other ones. -/
  | outside {d' : Deployment} (h : Quiet d d') (files : Files) (web : Web) :
      Quiet d { d' with stores := { d'.stores with files, web } }
  /-- An observer was registered. -/
  | observed {d' : Deployment} (h : Quiet d d') (name observer : String) (fails : Bool) :
      Quiet d (d'.listen name observer fails).2
  /-- A store moved, and its listeners were told how. -/
  | moved {d' : Deployment} (h : Quiet d d') {name : String} {b b' : Backing}
      {event : Option ChangeEvent} (files : Files) (hb : d'.stores.backing? name = some b)
      (hm : b.Moves name b' event) (hk : ∀ P, Backing.Stable P → P b → P b') :
      Quiet d (d'.moved name files b' event)

theorem Quiet.trans {d d' d'' : Deployment} (h : Quiet d d') (h' : Quiet d' d'') : Quiet d d'' := by
  induction h' with
  | refl => exact h
  | outside _ files web ih => exact .outside ih files web
  | observed _ name observer fails ih => exact .observed ih name observer fails
  | moved _ files hb hm hk ih => exact .moved ih files hb hm hk

/-- Steps that are taken for the members of a list are quiet if each of them is. -/
theorem Quiet.foldl {α : Type} {f : Deployment → α → Deployment} (hf : ∀ d a, Quiet d (f d a))
    (l : List α) (d : Deployment) : Quiet d (l.foldl f d) := by
  induction l generalizing d with
  | nil => exact .refl
  | cons a rest ih => exact (hf d a).trans (ih (f d a))

/-! ### What quiet steps keep -/

theorem Quiet.every {P : Backing → Prop} (hP : Backing.Stable P) {d d' : Deployment}
    (h : Quiet d d') (hd : d.Every P) : d'.Every P := by
  induction h with
  | refl => exact hd
  | outside _ files web ih => exact ih
  | observed _ name observer fails ih =>
    intro r b hb
    rw [stores_listen, Stores.backing?_listen] at hb
    exact ih r b hb
  | moved _ files hb hm hk ih =>
    intro r c hc
    rw [backing?_moved] at hc
    split at hc
    · rw [hb] at hc
      cases hc
      exact hk P hP (ih _ _ hb)
    · exact ih r c hc

theorem Coherent.listen {d : Deployment} (h : d.Coherent) (name observer : String)
    (fails : Bool) : (d.listen name observer fails).2.Coherent := by
  -- an observer is no table, so the tables that are registered are those of before
  have hreg : ∀ r l', (d.listen name observer fails).2.stores.listeners? r = some l' →
      l'.Sound ∧ ∃ l, d.stores.listeners? r = some l ∧
        ∀ id n, (id, Subscriber.table n) ∈ l'.listeners ↔ (id, Subscriber.table n) ∈ l.listeners := by
    intro r l' hl'
    rw [stores_listen, Stores.listeners?_listen] at hl'
    split at hl'
    · next hr =>
      obtain ⟨l, hl, rfl⟩ := Option.map_eq_some_iff.1 hl'
      refine ⟨(h.sound hl).add _, l, by rw [hr]; exact hl, ?_⟩
      intro id n
      rw [Registry.mem_add]
      simp
    · exact ⟨h.sound hl', l', hl', fun _ _ => Iff.rfl⟩
  refine ⟨fun {r l} hl => (hreg r l hl).1, h.lawful, ?_, ?_⟩
  · intro n s r id hs hr hid
    obtain ⟨l, hl, hm⟩ := h.registered hs hr hid
    have hsome : ((d.listen name observer fails).2.stores.listeners? r).isSome = true := by
      rw [stores_listen, Stores.listeners?_listen]
      split
      · next hr => rw [← hr, hl]; rfl
      · rw [hl]; rfl
    obtain ⟨l', hl'⟩ := Option.isSome_iff_exists.1 hsome
    obtain ⟨-, l₀, hl₀, hiff⟩ := hreg r l' hl'
    rw [hl] at hl₀
    cases hl₀
    exact ⟨l', hl', (hiff id n).2 hm⟩
  · intro r l' id n hl' hm
    obtain ⟨-, l, hl, hiff⟩ := hreg r l' hl'
    exact h.known hl ((hiff id n).1 hm)

/-- Coherence does not depend on which stores there are under the names. -/
theorem Coherent.putBacking {d : Deployment} (h : d.Coherent) (files : Files) (name : String)
    (b : Backing) :
    Coherent { d with stores := { d.stores with files }.putBacking name b } := by
  refine h.of_views (fun _ => rfl) ?_
  intro r
  exact Stores.listeners?_putBacking { d.stores with files } name b r

theorem Coherent.moved {d : Deployment} (h : d.Coherent) (name : String) (files : Files)
    (b : Backing) (event : Option ChangeEvent) : (d.moved name files b event).Coherent := by
  cases event with
  | none => exact h.putBacking files name b
  | some event => exact (h.putBacking files name b).deliver name event

/-- What a store tells when it has moved is heard when the new store is in place. -/
theorem Coherent.selectors_moved {d : Deployment} (h : d.Coherent) {name : String}
    {b : Backing} (hb : d.stores.backing? name = some b) (files : Files) (b' : Backing)
    (event : ChangeEvent) (n : String) :
    (d.moved name files b' (some event)).selectors.get? n =
      (d.selectors.get? n).map (hearing name b'.snapshot event) := by
  have hplace : ({ d.stores with files }.putBacking name b' : Stores).backing? name = some b' := by
    rw [Stores.backing?_putBacking, if_pos rfl]
    change (d.stores.backing? name).map _ = _
    rw [hb]
    rfl
  rw [← Stores.snapshot_eq hplace]
  exact (h.putBacking files name b').selectors_deliver name event n

/-- A store that moves changes no wiring. -/
theorem Coherent.sameWiring_moved {d : Deployment} (h : d.Coherent) {name : String}
    {b b' : Backing} (hb : d.stores.backing? name = some b) {files : Files}
    {event : Option ChangeEvent} {n : String} {s' : Selector String}
    (hs : (d.moved name files b' event).selectors.get? n = some s') :
    ∃ s, d.selectors.get? n = some s ∧ s.SameWiring s' := by
  cases event with
  | none => exact ⟨s', hs, .refl s'⟩
  | some event =>
    rw [h.selectors_moved hb] at hs
    obtain ⟨s, hn, rfl⟩ := Option.map_eq_some_iff.1 hs
    exact ⟨s, hn, hearing_sameWiring name _ event s⟩

theorem Quiet.coherent {d d' : Deployment} (h : Quiet d d') (hd : d.Coherent) : d'.Coherent := by
  induction h with
  | refl => exact hd
  | outside _ files web ih => exact ih.of_views (fun _ => rfl) (fun _ => rfl)
  | observed _ name observer fails ih => exact ih.listen name observer fails
  | moved _ files hb hm hk ih => exact ih.moved _ files _ _

/-! ### Quiet operations -/

variable {d : Deployment}

theorem quiet_change (hd : d.Telling) (name : String) (c : Change) :
    Quiet d (d.change name c).2 := by
  unfold change
  cases hb : d.stores.backing? name with
  | none => exact .refl
  | some b =>
    show Quiet d (Deployment.settle name _ _).2
    rw [settle_snd]
    exact .moved .refl _ hb (Backing.change_moves (hd name b hb)) (fun _ hP => hP.change _ _ _ _)

theorem quiet_replaceAll (name : String) (entries : Entries) (d : Deployment) :
    Quiet d (d.replaceAll name entries).2 := by
  unfold replaceAll
  split
  · next s hb =>
    rw [settle_snd]
    exact .moved .refl d.stores.files hb (Backing.replaceAll_moves name entries s)
      (fun _ hP => hP.replaceAll _ _ _)
  · exact .refl

theorem quiet_touch (f : Files → Except FileFault Files) (d : Deployment) :
    Quiet d (d.touch f).2 := by
  unfold touch
  split
  · exact .refl
  · next files _ => exact .outside .refl files d.stores.web

theorem quiet_cycle (d : Deployment) (name : String) : Quiet d (d.cycle name) := by
  unfold cycle
  cases hb : d.stores.backing? name with
  | none => exact .refl
  | some b =>
    exact .moved .refl d.stores.files hb (Backing.pollCycle_moves d.stores.digest name _ _ b)
      (fun _ hP => hP.pollCycle _ _ _ _ _)

theorem quiet_pass (within : Nat) (d : Deployment) : Quiet d (d.pass within) :=
  Quiet.foldl (fun d name => Quiet.foldl (fun d _ => quiet_cycle d name) _ d) _ d

theorem quiet_overtake (hd : d.Telling) (name path : String) (content : Content)
    (c : Option Change) : Quiet d (d.overtake name path content c).2 := by
  have hlater : Quiet d { d with stores := { d.stores with
      files := { d.stores.files with clock := d.stores.files.clock + 1 } } } :=
    .outside .refl _ d.stores.web
  unfold overtake
  cases c with
  | none => exact hlater.trans (quiet_touch _ _)
  | some c =>
    have hchanged := hlater.trans (quiet_change (hlater.every Backing.telling_stable hd) name c)
    simp only
    split
    · exact hchanged.trans (quiet_touch _ _)
    · exact hchanged

theorem quiet_endCycle (name : String) (sampled : Fingerprint) (read : Except Fault Reading)
    (d : Deployment) : Quiet d (d.endCycle name sampled read) := by
  unfold endCycle
  split
  · next s hs =>
    exact .moved .refl d.stores.files hs Backing.conclude_moves
      (fun _ hP => hP.conclude _ _ _ _ _)
  · exact .refl

/-- A poll cycle that is overtaken is quiet, however the change and the cycle fall out. -/
theorem quiet_race (hd : d.Telling) (name path : String) (content : Content)
    (c : Option Change) : Quiet d (d.race name path content c).2 := by
  have hover := quiet_overtake hd name path content c
  unfold race
  simp only
  split
  · exact hover.trans (quiet_endCycle name _ _ _)
  · exact hover

theorem quiet_refuse (hd : d.Telling) (name : String) (refusals : Refusals) :
    Quiet d (d.refuse name refusals).2 := by
  unfold refuse
  split
  · next s hs => exact (hd name _ hs).elim
  · exact .refl

/-- The operations that open and close nothing and take no registration away. -/
def Operation.isQuiet : Operation → Bool
  | .changeThrough .. | .change .. | .replaceAll .. | .listen .. | .refuse .. | .touch _
  | .rehost _ | .pass _ | .race .. => true
  | _ => false

theorem quiet_perform (hd : d.Telling) {op : Operation} (hop : op.isQuiet = true) :
    Quiet d (d.perform op).2 := by
  cases op with
  | changeThrough name c =>
    show Quiet d (d.changeThrough name c).2
    unfold changeThrough
    split
    · exact .refl
    · split
      · exact .refl
      · exact quiet_change hd _ c
  | change name c => exact quiet_change hd name c
  | replaceAll name entries => exact quiet_replaceAll name entries d
  | listen name observer fails => exact .observed .refl name observer fails
  | refuse name refusals => exact quiet_refuse hd name refusals
  | touch f => exact quiet_touch f d
  | rehost web => exact .outside .refl d.stores.files web
  | pass milliseconds => exact quiet_pass milliseconds d
  | race name path content c => exact quiet_race hd name path content c
  | _ => cases hop

end Deployment

end Admission

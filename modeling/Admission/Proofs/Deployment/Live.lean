import Admission.Proofs.Deployment.Following

/-!
# Live policy — tables that follow their stores throughout a run

  A run of ordinary operations takes a fresh deployment through states in which the
  table of each wired selector is the compiled repository, until an operation opens a
  repository anew and leaves a selector behind (`Strands`). Each operation opens at most
  one repository, and whatever it closes it closes before that (`opening?`).

  `followed_iff_never_stranded` says that this is all: tables follow in every state of a
  run exactly if none of its operations strands a selector.
-/

namespace Admission

namespace Deployment

variable {d d' : Deployment} {n r : String} {s : Selector String}

/-! ### What operations open -/

/-- The repository that opening a selector opens, if the selector is closed and has one. -/
def openingFor? (d : Deployment) (n : String) : Option (String × Deployment) :=
  (d.selectors.get? n).bind fun s => if s.isOpen then none else s.repository.map (·, d)

/-- The repository that an operation opens, and the deployment in which it does so: what the
operation closes is closed there already. -/
def opening? (d : Deployment) : Operation → Option (String × Deployment)
  | .openRepository r => some (r, d)
  | .reopenRepository r => some (r, (d.perform (.closeRepository r)).2)
  | .openSelector n => d.openingFor? n
  | .reopenSelector n => (d.perform (.closeSelector n)).2.openingFor? n
  | .setRepository n repository =>
    if (d.selectors.get? n).any Selector.isOpen then
      ((d.perform (.closeSelector n)).2.assign n repository).openingFor? n
    else none
  | _ => none

/-- Whether an operation opens a repository and leaves a selector behind. -/
def Strands (d : Deployment) (op : Operation) : Prop :=
  ∃ r before, d.opening? op = some (r, before) ∧ before.LeavesBehind r

/-- Opening a selector opens its repository, if it is closed and has one. -/
theorem openSelector_opens (h : d.Current) (hc : d.Coherent) (n : String) :
    (d.openingFor? n = none ∧ (d.perform (.openSelector n)).2.Current) ∨
    ∃ r, d.openingFor? n = some (r, d) ∧ Opens r d (d.perform (.openSelector n)).2 := by
  unfold openingFor?
  cases hs : d.selectors.get? n with
  | none =>
    refine .inl ⟨rfl, ?_⟩
    simp only [perform]
    rw [call_none hs]
    exact h
  | some s =>
    rw [Option.bind_some]
    cases ho : s.isOpen with
    | true =>
      refine .inl ⟨rfl, ?_⟩
      rcases openSelector_cases d n with ⟨-, he⟩ | ⟨t, ht, hclosed, -⟩
      · rw [he]; exact h
      · rw [hs] at ht
        cases ht
        rw [ho] at hclosed
        cases hclosed
    | false =>
      cases hr : s.repository with
      | some r => exact .inr ⟨r, rfl, opens_openSelector hc hs ho hr⟩
      | none =>
        -- without a repository it is open after, and as unwired as before
        refine .inl ⟨rfl, ?_⟩
        have hunwired := (hc.lawful hs).unwired_of_closed ho
        rcases openSelector_cases d n with ⟨-, he⟩ | ⟨t, ht, -, ⟨-, he⟩ | ⟨r, hu, -⟩⟩
        · rw [he]; exact h
        · rw [hs] at ht
          cases ht
          rw [he]
          exact h.shrink
            (fun m t ht hw => get?_of_rewired (s := { s with isOpen := true }) hunwired ht hw)
            (fun r b entries hb hh => ⟨b, hb, hh⟩)
        · rw [hs] at ht
          cases ht
          rw [(Selector.usable?_eq_some.1 hu).1] at hr
          cases hr

/-- An operation opens nothing and keeps tables current, or it opens a repository where they
are current. -/
theorem perform_opens (h : d.Current) (hreg : d.Regular) {op : Operation}
    (hop : op.isOrdinary = true) :
    (d.opening? op = none ∧ (d.perform op).2.Current) ∨
    ∃ r before, d.opening? op = some (r, before) ∧ before.Current ∧
      Opens r before (d.perform op).2 := by
  have hc := hreg.coherent
  cases op with
  | openRepository r => exact .inr ⟨r, d, rfl, h, opens_openStore d r⟩
  | closeRepository r => exact .inl ⟨rfl, h.closeRepository r⟩
  | reopenRepository r =>
    exact .inr ⟨r, _, rfl, h.closeRepository r,
      opens_openStore (d.perform (.closeRepository r)).2 r⟩
  | openSelector n =>
    rcases openSelector_opens h hc n with ⟨hno, hcur⟩ | ⟨r, hr, hopens⟩
    · exact .inl ⟨hno, hcur⟩
    · exact .inr ⟨r, d, hr, h, hopens⟩
  | closeSelector n => exact .inl ⟨rfl, h.closeSelector hc n⟩
  | reopenSelector n =>
    -- closing keeps the tables current, so what counts is the opening after it
    have hclosed := h.closeSelector hc n
    rw [perform_reopenSelector]
    rcases openSelector_opens hclosed (hc.closeSelector n) n with ⟨hno, hcur⟩ | ⟨r, hr, hopens⟩
    · exact .inl ⟨hno, hcur⟩
    · exact .inr ⟨r, _, hr, hclosed, hopens⟩
  | setRepository n repository =>
    cases hs : d.selectors.get? n with
    | none =>
      rw [perform_setRepository_none hs]
      exact .inl ⟨by simp only [opening?, hs]; rfl, h⟩
    | some s =>
      cases ho : s.isOpen with
      | false =>
        rw [perform_setRepository_closed hs ho]
        refine .inl ⟨by simp [opening?, hs, ho], h.assign hc ?_ repository⟩
        intro t ht
        rw [hs] at ht
        cases ht
        exact ho
      | true =>
        have hassigned := (h.closeSelector hc n).assign (hc.closeSelector n)
          (fun _ => isOpen_closeSelector) repository
        have hopening : d.opening? (.setRepository n repository) =
            ((d.perform (.closeSelector n)).2.assign n repository).openingFor? n := by
          simp only [opening?, hs, Option.any_some, ho, if_true]
        rw [perform_setRepository_open hs ho, hopening]
        rcases openSelector_opens hassigned
          ((hc.closeSelector n).assign (fun _ => isOpen_closeSelector) repository) n with
          ⟨hno, hcur⟩ | ⟨r, hr, hopens⟩
        · exact .inl ⟨hno, hcur⟩
        · exact .inr ⟨r, _, hr, hassigned, hopens⟩
  | unlisten name id => cases hop
  | emit name event => cases hop
  -- the other operations tell every table what they change
  | _ => exact .inl ⟨rfl, (quiet_perform hreg.telling rfl).current h hc⟩

/-! ### Stores at locations -/

/-- What a selector answers from is what its repository would spell out now, wherever it can
be read. -/
def Followed (d : Deployment) : Prop :=
  ∀ n s r entries, d.selectors.get? n = some s → s.isOpen = true → s.isWired = true →
    s.repository = some r → d.stores.snapshot r = .ok entries →
    ∀ key, s.table.get? key = (entries.get? key).bind Token.parse?

/-- A table holds the tokens of some entries when it finds for each key what its value spells. -/
theorem tokens_eq_compile_iff {m : TokenMap} {entries : Entries} :
    m.tokens = TokenMap.compile entries ↔
      ∀ key, m.get? key = (entries.get? key).bind Token.parse? := by
  constructor
  · intro h key
    show m.tokens.get? key = _
    rw [h, TokenMap.get?_compile]
  · intro h
    apply KeyMap.ext_get?
    intro key
    rw [TokenMap.get?_compile]
    exact h key

theorem Current.followed (h : d.Current) : d.Followed := by
  intro n s r entries hs _ hw hr hread
  cases hb : d.stores.backing? r with
  | none =>
    unfold Stores.snapshot at hread
    rw [hb] at hread
    cases hread
  | some b =>
    rw [Stores.snapshot_eq hb] at hread
    have hhand := Backing.holdings_of_snapshot hread
    exact tokens_eq_compile_iff.1 (h n s r b entries hs hw hr hb hhand)

/-- An operation that strands a selector leaves it with tokens that nobody spells. -/
theorem not_followed_of_strands (h : d.Current) (hreg : d.Regular)
    {op : Operation} (hop : op.isOrdinary = true) (hst : d.Strands op) :
    ¬ (d.perform op).2.Followed := by
  obtain ⟨r, before, hopening, hleaves⟩ := hst
  rcases perform_opens h hreg hop with ⟨hno, -⟩ | ⟨q, there, hq, -, hopens⟩
  · rw [hopening] at hno
    cases hno
  · rw [hopening] at hq
    cases hq
    -- the selector that is left behind shows it at once: what it should follow can be read
    obtain ⟨n, s, entries, hs, hw, hr, hread, htok⟩ := hopens.stale hleaves
    intro hf
    have hopen := ((perform_regular hreg hop).coherent.lawful hs).isOpen_of_wired hw
    exact htok (tokens_eq_compile_iff.2 (hf n s r entries hs hopen hw hr hread))

/-- An operation that strands nobody keeps tables current. -/
theorem current_of_not_strands (h : d.Current) (hreg : d.Regular)
    {op : Operation} (hop : op.isOrdinary = true) (hst : ¬ d.Strands op) :
    (d.perform op).2.Current := by
  rcases perform_opens h hreg hop with ⟨-, hcur⟩ | ⟨r, before, hr, hbefore, hopens⟩
  · exact hcur
  · exact hopens.current hbefore fun hl => hst ⟨r, before, hr, hl⟩

/-! ### Runs -/

/-- A property of the states of a run is one of its first state and of the states after that. -/
theorem forall_prefix_cons {α : Type} {P : List α → Prop} {a : α} {l : List α} :
    (∀ before, before <+: a :: l → P before) ↔
      P [] ∧ ∀ before, before <+: l → P (a :: before) := by
  constructor
  · intro h
    exact ⟨h [] List.nil_prefix, fun before hb => h _ (List.cons_prefix_cons.2 ⟨rfl, hb⟩)⟩
  · rintro ⟨hnil, hcons⟩ before hb
    rcases List.prefix_cons_iff.1 hb with rfl | ⟨rest, rfl, hrest⟩
    · exact hnil
    · exact hcons rest hrest

/-- The same of its steps. -/
theorem forall_prefix_concat_cons {α : Type} {P : List α → α → Prop} {a : α} {l : List α} :
    (∀ before x, before ++ [x] <+: a :: l → P before x) ↔
      P [] a ∧ ∀ before x, before ++ [x] <+: l → P (a :: before) x := by
  constructor
  · intro h
    refine ⟨h [] a ?_, fun before x hb => h _ x (List.cons_prefix_cons.2 ⟨rfl, hb⟩)⟩
    exact List.cons_prefix_cons.2 ⟨rfl, List.nil_prefix⟩
  · rintro ⟨hnil, hcons⟩ before x hb
    cases before with
    | nil =>
      obtain ⟨rfl, -⟩ := List.cons_prefix_cons.1 hb
      exact hnil
    | cons b before =>
      obtain ⟨rfl, hrest⟩ := List.cons_prefix_cons.1 hb
      exact hcons before x hrest

/-- From a state with current tables, tables follow in every state of a run exactly if no
operation of it strands a selector. -/
theorem Current.followed_iff (h : d.Current) (hreg : d.Regular) {ops : List Operation}
    (hops : ∀ op ∈ ops, op.isOrdinary = true) :
    (∀ before, before <+: ops → (d.performAll before).Followed) ↔
      ∀ before op, before ++ [op] <+: ops → ¬ (d.performAll before).Strands op := by
  induction ops generalizing d with
  | nil =>
    constructor
    · intro _ before op hb
      simp at hb
    · intro _ before hb
      rw [List.prefix_nil.1 hb]
      exact h.followed
  | cons op rest ih =>
    have hop := hops op List.mem_cons_self
    have hrest := fun q hq => hops q (List.mem_cons_of_mem _ hq)
    rw [forall_prefix_cons, forall_prefix_concat_cons]
    by_cases hst : d.Strands op
    · -- the first operation strands a selector, which shows after it
      have hlost := not_followed_of_strands h hreg hop hst
      constructor
      · rintro ⟨-, hf⟩
        exact absurd (hf [] List.nil_prefix) hlost
      · rintro ⟨hnot, -⟩
        exact absurd hst hnot
    · -- it strands nobody, so the rest of the run starts with current tables
      have hafter := ih (current_of_not_strands h hreg hop hst) (perform_regular hreg hop) hrest
      constructor
      · rintro ⟨-, hf⟩
        exact ⟨hst, hafter.1 hf⟩
      · rintro ⟨-, hnever⟩
        exact ⟨h.followed, hafter.2 hnever⟩

/-- Tables follow in every state of a run exactly if no operation of it strands a selector. -/
theorem followed_iff_never_stranded (hd : d.Fresh) (hs : d.Every fun b => ∀ s, b ≠ .stub s)
    {ops : List Operation} (hops : ∀ op ∈ ops, op.isOrdinary = true) :
    (∀ before, before <+: ops → (d.performAll before).Followed) ↔
      ∀ before op, before ++ [op] <+: ops → ¬ (d.performAll before).Strands op :=
  hd.current.followed_iff (hd.regular hs) hops

/-- A selector with a repository that keeps its store in a file. -/
def levelsInFile : Deployment :=
  (({ stores := { files := ({} : Files).put ["t.p"] (.text "k=INFO\n") } } :
    Deployment).addRepository "levels" (.file { settings := { url := some "t.p" } })).addSelector
    "a" (some "levels") true

/-- The selector is opened and the file gets another text from outside. -/
def editedOutside : List Operation :=
  [.openSelector "a", .touch (·.replace "t.p" (.text "k=ERROR\n"))]

/-- Reopening the repository now reads the other text, and the selector that is still
registered keeps the token of the first one. -/
theorem not_followed_reopened :
    ¬ ∀ before, before <+: editedOutside ++ [.reopenRepository "levels"] →
      (levelsInFile.performAll before).Followed := by
  intro hall
  have hfresh : levelsInFile.Fresh :=
    ((fresh_empty _ _).addRepository rfl "levels").addSelector "a" _ _
  have hstub : levelsInFile.Every fun b => ∀ s, b ≠ .stub s :=
    Every.addRepository (fun _ _ h => by cases h) (fun _ h => by cases h) "levels"
  have hops : ∀ op ∈ editedOutside ++ [.reopenRepository "levels"], op.isOrdinary = true := by
    simp [editedOutside, Operation.isOrdinary]
  refine (followed_iff_never_stranded hfresh hstub hops).1 hall editedOutside _ List.prefix_rfl ?_
  -- when the repository is opened again, the selector is wired and has the first token
  refine ⟨"levels", _, rfl, ?_⟩
  generalize hbefore : ((levelsInFile.performAll editedOutside).perform
    (.closeRepository "levels")).2 = before
  have hwired : (before.selectors.get? "a").map (fun s => (s.isWired, s.repository,
      (s.table.get? "k").map Token.raw)) = some (true, some "levels", some "INFO") := by
    rw [← hbefore]
    decide +kernel
  have hread : (before.stores.rereads? "levels").map (fun entries =>
      ((entries.get? "k").bind Token.parse?).map Token.raw) = some (some "ERROR") := by
    rw [← hbefore]
    decide +kernel
  obtain ⟨s, hs, hsw⟩ := Option.map_eq_some_iff.1 hwired
  obtain ⟨entries, he, hraw⟩ := Option.map_eq_some_iff.1 hread
  simp only [Prod.mk.injEq] at hsw
  refine ⟨"a", s, entries, hs, hsw.1, hsw.2.1, he, ?_⟩
  intro htok
  rw [tokens_eq_compile_iff.1 htok "k", hraw] at hsw
  exact absurd hsw.2.2 (by decide)

end Deployment

end Admission

import Admission.Proofs.Store.Session

/-!
# Detection — poll cycles find every change from outside and no other

  A poll cycle compares in two stages, the stamp and the size first and the digest only
  if these differ, so it can be exact only as far as these tell the versions of the file
  apart (`Distinguishing`); a run of a session needs this for the versions that occur in
  it, and nothing more.

  What carries the argument is that an open store always knows a version of the file
  (`Knows`): the text that it read or wrote last, under the stamp and the size that this
  version had, and with the document that belongs to the text. Each thing that happens
  keeps this, and shows in what is told (`Accounts`).
-/

namespace Admission

namespace Session

/-! ### What a session promises -/

/-- Stamp and size tell the texts of some versions of a file apart, and so does the digest. -/
structure Distinguishing (digest : Digest) (V : StoredFile → Prop) : Prop where
  /-- Versions with the same stamp and size have the same text. -/
  looks : ∀ f g a b, V f → V g → f.content.text? = .ok a → g.content.text? = .ok b →
    f.stamp = g.stamp → f.content.size = g.content.size → a = b
  /-- Versions with different texts have different digests. -/
  digests : ∀ f g a b, V f → V g → f.content.text? = .ok a → g.content.text? = .ok b →
    digest a = digest b → a = b

/-- A version of the file at a path in the course of a session. -/
def Version (digest : Digest) (source path : String) (s : Session) (acts : List Act)
    (f : StoredFile) : Prop :=
  ∃ before, before <+: acts ∧ (s.after digest source before).files.findFile path = .ok f

/-- What an open store promises: its entries are those of its document, and its document is
the one that it read from the text seen last, or the one that it wrote as this text. -/
structure Consistent (o : OpenFile) : Prop where
  /-- The entries are those of the document. -/
  entries : o.entries = o.document.entries
  /-- The document belongs to the text. -/
  document : o.document = Document.parse o.seen.text ∨ o.document.render = o.seen.text

/-- What a poll cycle promises, with what the store knew before and knows after it. -/
structure Detects (path source : String) (s : Session) (o o' : OpenFile)
    (event : Option ChangeEvent) : Prop where
  /-- After a cycle that can read the file, its text is known. -/
  reads : ∀ t, s.files.readText path = .ok t → o'.seen.text = t
  /-- One event tells that the text is another one. -/
  tells : o'.seen.text ≠ o.seen.text → event = some (.replaced source)
  /-- No event tells it if the text is the same. -/
  tellsNot : o'.seen.text = o.seen.text → ∀ e, event = some e → e.kind ≠ .reloaded
  /-- Nothing is told about a file that holds the text that is known. -/
  quiet : s.files.readText path = .ok o.seen.text → event = none
  /-- A cycle that cannot read the file leaves everything known as it is. -/
  keeps : (∀ t, s.files.readText path ≠ .ok t) →
    o'.seen.text = o.seen.text ∧ o'.document = o.document ∧ o'.entries = o.entries

/-- What happens in a session shows in what is told and known: a change that is told has been
written, and is no reload, one that is not told has changed nothing, and what happens outside
is known only when a cycle has looked. -/
def Accounts (path source : String) (s s' : Session) (o o' : OpenFile)
    (event : Option ChangeEvent) : Act → Prop
  | .cycle => Detects path source s o o' event
  | .change _ => (event = none ∧ o' = o) ∨
      ∃ e, event = some e ∧ e.kind ≠ .reloaded ∧ s'.files.readText path = .ok o'.seen.text
  | .outside _ => event = none ∧ o' = o

/-! ### The invariant -/

/-- An open store knows a version of the file at its path. -/
structure Knows (V : StoredFile → Prop) (path : String) (s : Session) (o : OpenFile) : Prop where
  /-- The store is open. -/
  opened : s.store.opened = some o
  /-- It is at the path. -/
  location : o.location = .path path
  /-- Its document and entries belong to the text seen last. -/
  consistent : Consistent o
  /-- The text seen last is that of a version, whose stamp and size are known. -/
  seen : ∃ f, V f ∧ f.content.text? = .ok o.seen.text ∧ o.seen = .ofFile o.seen.text f

variable {V : StoredFile → Prop} {digest : Digest} {source path : String} {s : Session}
  {o : OpenFile}

theorem consistent_ofReading (location : Location) (r : Reading) :
    Consistent (.ofReading location r) :=
  ⟨rfl, .inl rfl⟩

theorem Begun.knows (h : s.Begun path) (hV : ∀ f, s.files.findFile path = .ok f → V f) :
    ∃ o, Knows V path s o := by
  obtain ⟨f, t, hf, ht, ho⟩ := h.opened
  exact ⟨_, ho, rfl, consistent_ofReading _ _, f, hV f hf, ht, rfl⟩

theorem onDocument_kind {d d' : Document} {c : Change} {event : ChangeEvent}
    (h : c.onDocument source d = some (event, d')) : event.kind ≠ .reloaded := by
  cases c with
  | set key value =>
    simp only [Change.onDocument_set, Option.some.injEq, Prod.mk.injEq] at h
    obtain ⟨rfl, -⟩ := h
    unfold ChangeEvent.stored
    split
    · intro hk; cases hk
    · intro hk; cases hk
  | remove key =>
    rw [Change.onDocument_remove] at h
    split at h
    · cases h
      intro hk
      cases hk
    · cases h
  | clear =>
    rw [Change.onDocument_clear] at h
    split at h
    · cases h
      intro hk
      cases hk
    · cases h

/-- A change of the store is written before it is known. -/
theorem Knows.change (h : Knows V path s o) (c : Change)
    (hafter : ∀ f, (s.step digest source (.change c)).2.files.findFile path = .ok f → V f) :
    ∃ o', Knows V path (s.step digest source (.change c)).2 o' ∧
      Accounts path source s (s.step digest source (.change c)).2 o o'
        (s.step digest source (.change c)).1 (.change c) := by
  rcases change_cases digest source h.opened h.location c with
    he | ⟨event, document, after, hd, hfile, he⟩
  · rw [he]
    exact ⟨o, h, .inl ⟨rfl, rfl⟩⟩
  · rw [he] at hafter ⊢
    refine ⟨_, ⟨rfl, h.location, ⟨rfl, .inr rfl⟩, _, hafter _ hfile, rfl, rfl⟩, .inr ?_⟩
    refine ⟨event, rfl, onDocument_kind hd, ?_⟩
    exact Files.readText_eq_ok.2 ⟨_, hfile, rfl⟩

/-- A poll cycle finds a new text, or the one that is known, or none. -/
theorem Knows.cycle (h : Knows V path s o) (hd : Distinguishing digest V)
    (hV : ∀ f, s.files.findFile path = .ok f → V f) :
    ∃ o', Knows V path (s.step digest source .cycle).2 o' ∧
      Detects path source s o o' (s.step digest source .cycle).1 := by
  obtain ⟨g, hg, hgt, hseen⟩ := h.seen
  rcases cycle_cases digest source h.opened h.location with ⟨hu, he⟩ |
    ⟨hu, ⟨f, t, hf, ht, ⟨hdig, he⟩ | ⟨hdig, he⟩⟩ | ⟨hno, ⟨hfail, he⟩ | ⟨hfail, cause, he⟩⟩⟩
  · -- the file looks as it did, so it holds the same text
    rw [he]
    refine ⟨o, h, ?_, fun hne => absurd rfl hne, fun _ _ he => (by cases he), fun _ => rfl,
      fun _ => ⟨rfl, rfl, rfl⟩⟩
    · intro t ht
      obtain ⟨f, hf, hft⟩ := Files.readText_eq_ok.1 ht
      obtain ⟨f', hf', hstamp, hsize⟩ := (FileStore.looksUnchanged_path h.location).1 hu
      rw [hf] at hf'
      cases hf'
      rw [hseen] at hstamp hsize
      exact hd.looks g f _ _ hg (hV f hf) hgt hft (Option.some.inj hstamp) (Option.some.inj hsize)
  · -- it holds the same text under another stamp or size
    have hread : s.files.readText path = .ok t := Files.readText_eq_ok.2 ⟨f, hf, ht⟩
    have hsame : t = o.seen.text := hd.digests f g _ _ (hV f hf) hg ht hgt hdig
    rw [he]
    refine ⟨_, ⟨rfl, h.location, ⟨h.consistent.entries, ?_⟩, f, hV f hf, ht, rfl⟩,
      ?_, fun hne => absurd hsame hne, fun _ _ he => (by cases he), fun _ => rfl, ?_⟩
    · -- the document belongs to the text that is seen again
      have htext : (Reading.ofFile t f).text = o.seen.text := hsame
      rw [htext]
      exact h.consistent.document
    · intro t' ht'
      exact Except.ok.inj (hread.symm.trans ht')
    · intro hno
      exact absurd hread (hno t)
  · -- it holds another text
    have hread : s.files.readText path = .ok t := Files.readText_eq_ok.2 ⟨f, hf, ht⟩
    have hother : t ≠ o.seen.text := fun he => hdig (by rw [he])
    rw [he]
    refine ⟨_, ⟨rfl, rfl, consistent_ofReading _ _, f, hV f hf, ht, rfl⟩, ?_, fun _ => rfl,
      fun hsame => absurd hsame hother, ?_, ?_⟩
    · intro t' ht'
      exact Except.ok.inj (hread.symm.trans ht')
    · intro hsame
      rw [hread] at hsame
      exact absurd (Except.ok.inj hsame) hother
    · intro hno
      exact absurd hread (hno t)
  · -- it cannot be read, which was told before
    rw [he]
    exact ⟨o, h, fun t ht => absurd ht (hno t), fun hne => absurd rfl hne,
      fun _ _ he => (by cases he), fun _ => rfl, fun _ => ⟨rfl, rfl, rfl⟩⟩
  · -- it cannot be read, which is told now
    rw [he]
    refine ⟨_, ⟨rfl, h.location, ⟨h.consistent.entries, h.consistent.document⟩, g, hg, hgt, hseen⟩,
      fun t ht => absurd ht (hno t), fun hne => absurd rfl hne, ?_,
      fun ht => absurd ht (hno _), fun _ => ⟨rfl, rfl, rfl⟩⟩
    intro _ e he hk
    cases he
    cases hk

/-- Whatever happens keeps what an open store knows, and shows. -/
theorem Knows.step (h : Knows V path s o) (hd : Distinguishing digest V) (act : Act)
    (hV : ∀ f, s.files.findFile path = .ok f → V f)
    (hafter : ∀ f, (s.step digest source act).2.files.findFile path = .ok f → V f) :
    ∃ o', Knows V path (s.step digest source act).2 o' ∧
      Accounts path source s (s.step digest source act).2 o o' (s.step digest source act).1 act := by
  cases act with
  | cycle => exact h.cycle hd hV
  | change c => exact h.change c hafter
  | outside files => exact ⟨o, ⟨h.opened, h.location, h.consistent, h.seen⟩, rfl, rfl⟩

/-! ### Runs -/

theorem after_concat (digest : Digest) (source : String) (s : Session) (before : List Act)
    (act : Act) : s.after digest source (before ++ [act]) =
      ((s.after digest source before).step digest source act).2 := by
  unfold after
  rw [List.foldl_append]
  rfl

/-- In every state of a run an open store knows a version of the file. -/
theorem Knows.after (h : Knows V path s o) (hd : Distinguishing digest V) {acts : List Act}
    (hV : ∀ before, before <+: acts → ∀ f,
      (s.after digest source before).files.findFile path = .ok f → V f) :
    ∃ o', Knows V path (s.after digest source acts) o' := by
  induction acts generalizing s o with
  | nil => exact ⟨o, h⟩
  | cons act rest ih =>
    have hfirst := hV [act] (by simp)
    obtain ⟨o', h', -⟩ := h.step hd act (hV [] List.nil_prefix) hfirst
    refine ih h' ?_
    intro before hb f hf
    -- the states of the rest are states of the whole run
    exact hV (act :: before) (List.cons_prefix_cons.2 ⟨rfl, hb⟩) f hf

/-- Change detection is exact over whole runs: as long as stamp, size and digest tell the
versions of the run apart, the store starts with the text of the file, it is consistent in every
state, and whatever happens shows in what is told and known. -/
theorem detection_exact {acts : List Act} (hb : s.Begun path)
    (hd : Distinguishing digest (Version digest source path s acts)) :
    (∃ o, s.store.opened = some o ∧ s.files.readText path = .ok o.seen.text) ∧
    (∀ before, before <+: acts → ∃ o,
      (s.after digest source before).store.opened = some o ∧ Consistent o) ∧
    ∀ before act, before ++ [act] <+: acts → ∃ o o',
      (s.after digest source before).store.opened = some o ∧
      (s.after digest source (before ++ [act])).store.opened = some o' ∧
      Accounts path source (s.after digest source before)
        (s.after digest source (before ++ [act])) o o'
        ((s.after digest source before).step digest source act).1 act := by
  -- the files of all moments are versions, among which stamps and sizes tell texts apart
  have hV : ∀ before, before <+: acts → ∀ f,
      (s.after digest source before).files.findFile path = .ok f →
      Version digest source path s acts f :=
    fun before hpre f hf => ⟨before, hpre, hf⟩
  obtain ⟨o₀, h₀⟩ := hb.knows (V := Version digest source path s acts)
    (hV [] List.nil_prefix)
  have hknows : ∀ before, before <+: acts →
      ∃ o, Knows (Version digest source path s acts) path (s.after digest source before) o :=
    fun before hpre => h₀.after hd fun p hp => hV p (hp.trans hpre)
  refine ⟨?_, ?_, ?_⟩
  · obtain ⟨f, t, hf, ht, ho⟩ := hb.opened
    exact ⟨_, ho, Files.readText_eq_ok.2 ⟨f, hf, ht⟩⟩
  · intro before hpre
    obtain ⟨o, h⟩ := hknows before hpre
    exact ⟨o, h.opened, h.consistent⟩
  · intro before act hpre
    have hbefore : before <+: acts := (List.prefix_append before [act]).trans hpre
    obtain ⟨o, h⟩ := hknows before hbefore
    have hafter := hV _ hpre
    rw [after_concat] at hafter ⊢
    obtain ⟨o', h', hacc⟩ := h.step hd act (hV before hbefore) hafter
    exact ⟨o, o', h.opened, h'.opened, hacc⟩

/-- The file of `levelsOpened` after it was edited from outside. -/
def levelsEdited : Files :=
  (({} : Files).put ["t.p"] (.text "k=INFO\n")).put ["t.p"] (.text "k=ERROR\n")

/-- The cycle after an edit from outside reads the new text and tells it. -/
theorem detection_exact_edited :
    ∃ o', (levelsOpened.after Digest.plain "levels"
        [.outside levelsEdited, .cycle]).store.opened = some o' ∧ Consistent o' ∧
      o'.seen.text = "k=ERROR\n" ∧
      ((levelsOpened.after Digest.plain "levels" [.outside levelsEdited]).step Digest.plain
        "levels" .cycle).1 = some (.replaced "levels") := by
  -- the file has two versions in the run
  have hV : ∀ f, Version Digest.plain "levels" "t.p" levelsOpened
      [.outside levelsEdited, .cycle] f →
      f = ⟨.text "k=INFO\n", 0⟩ ∨ f = ⟨.text "k=ERROR\n", 1⟩ := by
    rintro f ⟨before, hpre, hf⟩
    rw [List.prefix_iff_eq_take.1 hpre] at hf
    have hedited : levelsEdited.findFile "t.p" = .ok ⟨.text "k=ERROR\n", 1⟩ := rfl
    generalize before.length = n at hf
    match n with
    | 0 =>
      have hfirst : levelsOpened.files.findFile "t.p" = .ok ⟨.text "k=INFO\n", 0⟩ := rfl
      exact .inl (Except.ok.inj (hf.symm.trans hfirst))
    | 1 => exact .inr (Except.ok.inj (hf.symm.trans hedited))
    | n + 2 =>
      rw [List.take_of_length_le (by simp)] at hf
      exact .inr (Except.ok.inj (hf.symm.trans hedited))
  -- they differ in their stamps and in their texts
  have hd : Distinguishing Digest.plain (Version Digest.plain "levels" "t.p" levelsOpened
      [.outside levelsEdited, .cycle]) := by
    refine ⟨?_, ?_⟩
    · intro f g a b hf hg ha hb hstamp _
      rcases hV f hf with rfl | rfl <;> rcases hV g hg with rfl | rfl <;> cases ha <;> cases hb
      · rfl
      · cases hstamp
      · cases hstamp
      · rfl
    · intro f g a b hf hg ha hb hdig
      rcases hV f hf with rfl | rfl <;> rcases hV g hg with rfl | rfl <;> cases ha <;> cases hb
      · rfl
      · exact absurd hdig (by decide +kernel)
      · exact absurd hdig (by decide +kernel)
      · rfl
  obtain ⟨-, hcons, hacc⟩ := detection_exact levelsOpened_begun hd
  obtain ⟨o, o', ho, ho', hdet⟩ := hacc [.outside levelsEdited] .cycle List.prefix_rfl
  obtain ⟨p, hp, hconsistent⟩ := hcons _ List.prefix_rfl
  cases ho'.symm.trans hp
  have hread : (levelsOpened.after Digest.plain "levels"
      [.outside levelsEdited]).files.readText "t.p" = .ok "k=ERROR\n" := rfl
  have hseen := hdet.reads _ hread
  have hbefore : o.seen.text = "k=INFO\n" := by
    have hfirst : (levelsOpened.after Digest.plain "levels"
        [.outside levelsEdited]).store.opened.map (·.seen.text) = some "k=INFO\n" := by
      decide +kernel
    rw [ho] at hfirst
    exact Option.some.inj hfirst
  refine ⟨o', ho', hconsistent, hseen, hdet.tells ?_⟩
  rw [hseen, hbefore]
  decide

end Session

end Admission

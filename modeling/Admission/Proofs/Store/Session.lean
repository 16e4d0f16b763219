import Admission.Proofs.Files.Replace
import Admission.Proofs.Store.Telling

/-!
# Sessions — an open store between its own changes and those from outside

  A session begins when a store at a path is opened, and goes on until it is closed.
  In it three kinds of things happen, in any order: the store is changed, the files
  change behind its back, and a poll cycle looks at the file.

  `Begun.opened` says what is known at the beginning, `cycle_cases` everything that a
  cycle can come to, and `change_cases` everything that a change can.
-/

namespace Admission

/-! ### Files at a path -/

namespace Files

theorem findFile_eq_ok {fs : Files} {path : String} {f : StoredFile} :
    fs.findFile path = .ok f ↔ fs.find path = .ok (.file f) := by
  unfold findFile
  rw [bind_eq_ok]
  constructor
  · rintro ⟨node, hn, h⟩
    cases node with
    | directory => cases h
    | file g => cases h; exact hn
  · intro h
    exact ⟨.file f, h, rfl⟩

theorem readText_eq_ok {fs : Files} {path t : String} :
    fs.readText path = .ok t ↔ ∃ f, fs.findFile path = .ok f ∧ f.content.text? = .ok t :=
  bind_eq_ok

end Files

/-- A path is read as the file that it names. -/
theorem Location.read_path_eq_ok {web : Web} {fs : Files} {path : String} {r : Reading} :
    Location.read web fs (.path path) = .ok r ↔
      ∃ f t, fs.findFile path = .ok f ∧ f.content.text? = .ok t ∧ r = .ofFile t f := by
  simp only [Location.read]
  constructor
  · intro h
    cases hfind : fs.find path with
    | error cause => simp only [hfind] at h; cases h
    | ok node =>
      cases node with
      | directory => simp only [hfind] at h; cases h
      | file f =>
        simp only [hfind] at h
        cases ht : f.content.text? with
        | error cause => simp only [ht] at h; cases h
        | ok t =>
          simp only [ht] at h
          cases h
          exact ⟨f, t, Files.findFile_eq_ok.2 hfind, ht, rfl⟩
  · rintro ⟨f, t, hf, ht, rfl⟩
    rw [Files.findFile_eq_ok] at hf
    simp only [hf, ht]

theorem Location.read_path_error {web : Web} {fs : Files} {path : String} {cause : Fault}
    (h : Location.read web fs (.path path) = .error cause) (t : String) :
    fs.readText path ≠ .ok t := by
  intro ht
  obtain ⟨f, hf, ht⟩ := Files.readText_eq_ok.1 ht
  rw [Location.read_path_eq_ok.2 ⟨f, t, hf, ht, rfl⟩] at h
  cases h

namespace FileStore

/-- A file looks unchanged if it has the stamp and the size that were seen last. -/
theorem looksUnchanged_path {fs : Files} {o : OpenFile} {path : String}
    (hl : o.location = .path path) : looksUnchanged fs o = true ↔
      ∃ f, fs.findFile path = .ok f ∧ o.seen.stamp = some f.stamp ∧
        o.seen.size = some f.content.size := by
  unfold looksUnchanged
  simp only [hl]
  constructor
  · intro h
    split at h
    · next f hf =>
      unfold Reading.looksLike at h
      rw [Bool.and_eq_true, beq_iff_eq, beq_iff_eq] at h
      exact ⟨f, Files.findFile_eq_ok.2 hf, h.1, h.2⟩
    · cases h
  · rintro ⟨f, hf, hstamp, hsize⟩
    rw [Files.findFile_eq_ok] at hf
    simp only [hf]
    unfold Reading.looksLike
    rw [hstamp, hsize]
    simp

/-- A text that was written is what the file holds. -/
theorem write_eq_ok {fs after : Files} {path text : String}
    (h : write fs path text = .ok after) :
    after.findFile path = .ok ⟨.text text, fs.clock⟩ := by
  unfold write at h
  split at h
  · cases h
  · split at h
    · cases h
    · next hr =>
      cases h
      exact Files.findFile_eq_ok.2 (Files.find_replace hr)

end FileStore

/-! ### Sessions -/

/-- A store and what it is used with. -/
structure Session where
  /-- The files. -/
  files : Files
  /-- The remote stores, which a store at a path has no use for. -/
  web : Web := .down
  /-- The store. -/
  store : FileStore

namespace Session

/-- What happens in a session. -/
inductive Act where
  /-- The store is changed. -/
  | change (c : Change)
  /-- The files are changed from outside. -/
  | outside (files : Files)
  /-- A poll cycle is made. -/
  | cycle

/-- What is told when something happens, and the session after it. -/
def step (digest : Digest) (source : String) (s : Session) : Act → Option ChangeEvent × Session
  | .change c =>
    let (outcome, files, store) := s.store.change source c s.files
    (ChangeEvent.ofOutcome outcome, { s with files, store })
  | .outside files => (none, { s with files })
  | .cycle =>
    let (event, store) := s.store.pollCycle digest source s.web s.files
    (event, { s with store })

/-- The session after several things happened, one after the other. -/
def after (digest : Digest) (source : String) (s : Session) (acts : List Act) : Session :=
  acts.foldl (fun s act => (s.step digest source act).2) s

/-- A session with a store that was closed and has just been opened at a path. -/
def Begun (path : String) (s : Session) : Prop :=
  ∃ (closed : FileStore) (o : OpenFile), closed.isOpen = false ∧
    s.store = (closed.openStore s.web s.files).2 ∧ s.store.opened = some o ∧ o.location = .path path

/-- At the beginning the store's location resolves to its path and has just been read. -/
theorem Begun.loaded {path : String} {s : Session} (h : s.Begun path) :
    ∃ url r, s.store.settings.location? = some url ∧
      Location.resolve url s.store.settings.resources = .ok (.path path) ∧
      (Location.path path).read s.web s.files = .ok r ∧
      s.store.opened = some (.ofReading (.path path) r) := by
  obtain ⟨closed, o, hclosed, hopen, ho, hl⟩ := h
  unfold FileStore.openStore at hopen
  rw [hclosed] at hopen
  simp only [Bool.false_eq_true, if_false] at hopen
  split at hopen
  · -- it could not be opened, so it would be closed
    rw [hopen] at ho
    unfold FileStore.isOpen at hclosed
    rw [ho] at hclosed
    cases hclosed
  · next p hload =>
    obtain ⟨url, location, r, hurl, hresolve, hread, rfl⟩ := FileStore.load_eq_ok hload
    rw [hopen] at ho ⊢
    cases ho
    change location = .path path at hl
    subst hl
    exact ⟨url, r, hurl, hresolve, hread, rfl⟩

/-- At the beginning the store knows what the file at its path holds. -/
theorem Begun.opened {path : String} {s : Session} (h : s.Begun path) :
    ∃ f t, s.files.findFile path = .ok f ∧ f.content.text? = .ok t ∧
      s.store.opened = some (.ofReading (.path path) (.ofFile t f)) := by
  obtain ⟨url, r, -, -, hread, ho⟩ := h.loaded
  obtain ⟨f, t, hf, ht, rfl⟩ := Location.read_path_eq_ok.1 hread
  exact ⟨f, t, hf, ht, ho⟩

/-- A store that was just opened at a file with one level. -/
def levelsOpened : Session where
  files := ({} : Files).put ["t.p"] (.text "k=INFO\n")
  store := (FileStore.openStore .down (({} : Files).put ["t.p"] (.text "k=INFO\n"))
    { settings := { url := some "t.p" } }).2

theorem levelsOpened_begun : levelsOpened.Begun "t.p" := by
  refine ⟨{ settings := { url := some "t.p" } }, .ofReading (.path "t.p")
    (.ofFile "k=INFO\n" ⟨.text "k=INFO\n", 0⟩), rfl, rfl, ?_, rfl⟩
  decide +kernel

/-! ### What happens in a session -/

variable (digest : Digest) (source : String) {path : String} {s : Session} {o : OpenFile}

/-- What a cycle comes to in an open store: the file looks as it did; it holds a text with the
digest of the text seen last, or with another one; or it cannot be read, which was told before
or is told now. -/
theorem cycle_cases (ho : s.store.opened = some o) (hl : o.location = .path path) :
    (FileStore.looksUnchanged s.files o = true ∧ s.step digest source .cycle = (none, s)) ∨
    (FileStore.looksUnchanged s.files o = false ∧
      ((∃ f t, s.files.findFile path = .ok f ∧ f.content.text? = .ok t ∧
        ((digest t = digest o.seen.text ∧ s.step digest source .cycle =
          (none, { s with store := { s.store with
            opened := some { o with seen := .ofFile t f, failing := false } } })) ∨
        (digest t ≠ digest o.seen.text ∧ s.step digest source .cycle =
          (some (.replaced source), { s with store := { s.store with
            opened := some (.ofReading (.path path) (.ofFile t f)) } })))) ∨
      ((∀ t, s.files.readText path ≠ .ok t) ∧
        ((o.failing = true ∧ s.step digest source .cycle = (none, s)) ∨
        (o.failing = false ∧ ∃ cause, s.step digest source .cycle =
          (some (.unread source cause), { s with store := { s.store with
            opened := some { o with failing := true } } })))))) := by
  simp only [step]
  unfold FileStore.pollCycle
  simp only [ho]
  cases hu : FileStore.looksUnchanged s.files o with
  | true => exact .inl ⟨rfl, rfl⟩
  | false =>
    refine .inr ⟨rfl, ?_⟩
    simp only [Bool.false_eq_true, if_false]
    rcases FileStore.conclude_cases digest source (o.seen.fingerprint digest)
        (o.location.read s.web s.files) ho with ⟨r, -, hne, -⟩ | ⟨r, hr, -, hd, he⟩ |
        ⟨r, hr, -, hd, he⟩ | ⟨cause, hr, hf, he⟩ | ⟨cause, hr, hf, he⟩
    · -- the sample was taken from this very store
      exact absurd rfl hne
    · rw [he]
      rw [hl] at hr
      obtain ⟨f, t, hfile, ht, rfl⟩ := Location.read_path_eq_ok.1 hr
      exact .inl ⟨f, t, hfile, ht, .inl ⟨hd, rfl⟩⟩
    · rw [he]
      rw [hl] at hr
      obtain ⟨f, t, hfile, ht, rfl⟩ := Location.read_path_eq_ok.1 hr
      exact .inl ⟨f, t, hfile, ht, .inr ⟨hd, by rw [hl]⟩⟩
    · rw [he]
      rw [hl] at hr
      exact .inr ⟨Location.read_path_error hr, .inl ⟨hf, rfl⟩⟩
    · rw [he]
      rw [hl] at hr
      exact .inr ⟨Location.read_path_error hr, .inr ⟨hf, cause, rfl⟩⟩

/-- What a change comes to in an open store: nothing, or the file holds the new text. -/
theorem change_cases (ho : s.store.opened = some o) (hl : o.location = .path path)
    (c : Change) :
    s.step digest source (.change c) = (none, s) ∨
    ∃ event document after, c.onDocument source o.document = some (event, document) ∧
      after.findFile path = .ok ⟨.text document.render, s.files.clock⟩ ∧
      s.step digest source (.change c) = (some event, { s with files := after, store :=
        { s.store with opened := some (o.written document
          (.ofFile document.render ⟨.text document.render, s.files.clock⟩)) } }) := by
  simp only [step]
  rcases FileStore.change_cases source c s.files s.store with ⟨cause, he⟩ | he |
    ⟨p, q, event, document, after, hp, hq, hd, hw, he⟩
  · rw [he]
    exact .inl rfl
  · rw [he]
    exact .inl rfl
  · -- what was written is read off the file itself
    rw [ho] at hp
    cases hp
    rw [hl] at hq
    cases hq
    have hfile := FileStore.write_eq_ok hw
    refine .inr ⟨event, document, after, hd, hfile, ?_⟩
    rw [he]
    unfold FileStore.readingOf
    rw [hfile]
    rfl

end Session

end Admission

import Admission.Proofs.Store.Writing

/-!
# Equivalence — a store at a path and a store in memory look the same

  A store at a path keeps an ordered list of lines, with comments and with lines that
  later ones overrule; a store in memory keeps a map. Whoever uses them cannot tell
  which one he has: if they start with the same entries, every call comes to the same
  answer, the same things are told, and the same entries can be read after each call
  (`observed_file_eq_observed_memory`). Poll cycles make no difference as long as nobody
  else touches the file, and the one thing that a store in memory has no counterpart to,
  a file that cannot be written, is left out.

  `Agrees` is what ties the two together, and `Agrees.used` says that one use keeps it;
  for whole runs there is nothing left but the induction.
-/

namespace Admission

/-! ### Uses and what can be observed of them -/

/-- What an event says, whoever tells it. -/
def ChangeEvent.content (e : ChangeEvent) : ChangeKind × Option String × Option String :=
  (e.kind, e.key, e.value)

/-- Whether a new text could not be put in the place of a file. -/
def Fault.isOfWriting : Fault → Bool
  | .cannotStage _ _ | .cannotReplace _ _ => true
  | _ => false

namespace Backing

/-- What is done with an open store. -/
inductive Use where
  /-- The value of a key is read. -/
  | get (key : String)
  /-- The keys are read. -/
  | keys
  /-- All entries are read. -/
  | snapshot
  /-- The store is changed. -/
  | change (c : Change)
  /-- A poll cycle is made. -/
  | cycle

/-- What a use returns. -/
inductive Answer where
  /-- The value of a key. -/
  | value (v : Except Fault (Option String))
  /-- The keys. -/
  | keys (ks : Except Fault (List String))
  /-- All entries. -/
  | entries (es : Except Fault Entries)
  /-- Whether a change succeeded. -/
  | outcome (o : Except Fault Unit)
  /-- A poll cycle returns nothing. -/
  | nothing

/-- Whether an answer is that a file could not be written. -/
def Answer.isUnwritten : Answer → Bool
  | .outcome (.error cause) => cause.isOfWriting
  | _ => false

/-- What a use comes to. -/
structure Used where
  /-- What it returns. -/
  answer : Answer
  /-- What is told. -/
  event : Option ChangeEvent
  /-- The files after it. -/
  files : Files
  /-- The store after it. -/
  backing : Backing

/-- A use of a store. -/
def used (digest : Digest) (source : String) (web : Web) (fs : Files) (b : Backing) :
    Use → Used
  | .get key => ⟨.value (b.get? key), none, fs, b⟩
  | .keys => ⟨.keys b.keys, none, fs, b⟩
  | .snapshot => ⟨.entries b.snapshot, none, fs, b⟩
  | .change c =>
    let (outcome, fs, b) := b.change source c fs
    ⟨.outcome (outcome.map fun _ => ()), ChangeEvent.ofOutcome outcome, fs, b⟩
  | .cycle =>
    let (event, b) := b.pollCycle digest source web fs
    ⟨.nothing, event, fs, b⟩

/-- What a user sees of a use. -/
structure Observation where
  /-- What it returned. -/
  answer : Answer
  /-- What the event said that was told, if one was. -/
  told : Option (ChangeKind × Option String × Option String)
  /-- The entries that can be read afterwards. -/
  entries : Except Fault Entries

/-- What a user sees of a use that came to something. -/
def Used.observation (u : Used) : Observation :=
  ⟨u.answer, u.event.map ChangeEvent.content, u.backing.snapshot⟩

/-- What a user sees of a run of uses. -/
def observed (digest : Digest) (source : String) (web : Web) (fs : Files) (b : Backing) :
    List Use → List Observation
  | [] => []
  | u :: rest =>
    let r := b.used digest source web fs u
    r.observation :: r.backing.observed digest source web r.files rest

end Backing

/-! ### Changes -/

/-- What a change comes to does not depend on who tells it. -/
theorem Change.onEntries_content (source source' : String) (entries : Entries) (c : Change) :
    (c.onEntries source entries).map (fun p => (p.1.content, p.2)) =
      (c.onEntries source' entries).map (fun p => (p.1.content, p.2)) := by
  cases c with
  | set key value => rfl
  | remove key =>
    simp only [onEntries]
    split
    · rfl
    · rfl
  | clear =>
    simp only [onEntries]
    split
    · rfl
    · rfl

namespace MemoryStore

/-- What a change of an open store in memory comes to. -/
theorem change_of_open {m : MemoryStore} (hopen : m.isOpen = true) (source : String)
    (c : Change) :
    m.change source c =
      match c.check with
      | .error cause => (.error cause, m)
      | .ok () =>
        match c.onEntries source m.entries with
        | none => (.ok none, m)
        | some (event, entries) => (.ok (some event), { m with entries }) := by
  unfold change
  cases c.check with
  | error cause => rfl
  | ok u => exact if_neg (by simp [hopen])

end MemoryStore

namespace Session

/-- An open store at a path fails to change because the entry is refused, or else because its
file cannot be written. -/
theorem Keeps.change_error {path source : String} {s : Session} {o : OpenFile}
    (h : Keeps path s o) {c : Change} {cause : Fault}
    (he : (s.store.change source c s.files).1 = .error cause) :
    c.check = .error cause ∨ cause.isOfWriting = true := by
  unfold FileStore.change at he
  cases hc : c.check with
  | error refused =>
    simp only [hc] at he
    cases he
    exact .inl rfl
  | ok u =>
    simp only [hc, h.opened, h.location] at he
    right
    cases hd : c.onDocument source o.document with
    | none => simp only [hd] at he; cases he
    | some p =>
      simp only [hd] at he
      unfold FileStore.write at he
      cases hstage : s.files.stage path with
      | error staging => simp only [hstage] at he; cases he; rfl
      | ok u =>
        simp only [hstage] at he
        cases hreplace : s.files.replace path (.text p.2.render) with
        | error replacing => simp only [hreplace] at he; cases he; rfl
        | ok after => simp only [hreplace] at he; cases he

/-- A change that succeeds leaves the files and the store that the session has after it. -/
theorem change_eq_step (digest : Digest) {source : String} {s : Session} {c : Change}
    {event : Option ChangeEvent} (hok : (s.store.change source c s.files).1 = .ok event) :
    s.store.change source c s.files = (.ok event,
      (s.step digest source (.change c)).2.files, (s.step digest source (.change c)).2.store) := by
  rw [← hok]
  rfl

/-! ### Agreement -/

/-- A store at a path whose file looks as it did when it was seen last, and an open store in
memory with the same entries. -/
structure Agrees (path : String) (s : Session) (o : OpenFile) (m : MemoryStore) : Prop
    extends Keeps path s o where
  /-- The file looks as it did. -/
  unchanged : FileStore.looksUnchanged s.files o = true
  /-- The store in memory is open. -/
  isOpen : m.isOpen = true
  /-- It has the entries of the store at the path. -/
  same : m.entries = o.entries

variable {digest digest' : Digest} {source source' path : String} {web web' : Web} {fs' : Files}
  {s : Session} {o : OpenFile} {m : MemoryStore}

/-- A store that was just opened agrees with a store in memory that holds what its file says. -/
theorem Begun.agrees (hb : s.Begun path) {text : String}
    (ht : s.files.readText path = .ok text) (hopen : m.isOpen = true)
    (hm : m.entries = (Document.parse text).entries) : ∃ o, Agrees path s o m := by
  obtain ⟨f, t, hf, htext, ho⟩ := hb.opened
  have htt : t = text := by
    have hread := Files.readText_eq_ok.2 ⟨f, hf, htext⟩
    rw [ht] at hread
    exact (Except.ok.inj hread).symm
  subst htt
  refine ⟨_, ⟨⟨ho, rfl, rfl, Document.sound_parse t⟩, ?_, hopen, hm⟩⟩
  exact (FileStore.looksUnchanged_path rfl).2 ⟨f, hf, rfl, rfl⟩

theorem Agrees.snapshot_eq (h : Agrees path s o m) :
    (Backing.file s.store).snapshot = (Backing.memory m).snapshot := by
  rw [Backing.snapshot_file h.opened, ← h.same]
  exact (if_pos h.isOpen).symm

/-- A poll cycle finds the file as it was and does nothing. -/
theorem Agrees.cycle (h : Agrees path s o m) (digest : Digest) (source : String) (web : Web) :
    s.store.pollCycle digest source web s.files = (none, s.store) := by
  unfold FileStore.pollCycle
  simp only [h.opened, h.unchanged, if_true]

/-- What two stores that agree come to in a use: the same is seen of both, and they agree
afterwards. -/
structure SameUse (path : String) (r r' : Backing.Used) : Prop where
  /-- They return the same. -/
  answer : r.answer = r'.answer
  /-- The same is told. -/
  told : r.event.map ChangeEvent.content = r'.event.map ChangeEvent.content
  /-- They agree afterwards. -/
  agrees : ∃ s o m, r.files = s.files ∧ r.backing = .file s.store ∧ r'.backing = .memory m ∧
    Agrees path s o m

theorem SameUse.observation_eq {r r' : Backing.Used} (h : SameUse path r r') :
    r.observation = r'.observation := by
  obtain ⟨s, o, m, -, hfile, hmemory, hagrees⟩ := h.agrees
  unfold Backing.Used.observation
  rw [h.answer, h.told, hfile, hmemory, hagrees.snapshot_eq]

/-- A change comes to the same in both stores, unless the file cannot be written. -/
theorem Agrees.change (h : Agrees path s o m) (c : Change)
    (hw : ((Backing.file s.store).used digest source web s.files (.change c)).answer.isUnwritten =
      false) :
    SameUse path ((Backing.file s.store).used digest source web s.files (.change c))
      ((Backing.memory m).used digest' source' web' fs' (.change c)) := by
  have hmemory := MemoryStore.change_of_open h.isOpen source' c
  simp only [Backing.used, Backing.change] at hw ⊢
  cases hout : (s.store.change source c s.files).1 with
  | error cause =>
    -- it was refused by both before anything was done
    rw [FileStore.change_error hout] at hw ⊢
    rcases h.toKeeps.change_error hout with hc | hwriting
    · rw [hc] at hmemory
      rw [hmemory]
      exact ⟨rfl, rfl, s, o, m, rfl, rfl, rfl, h⟩
    · change cause.isOfWriting = false at hw
      rw [hwriting] at hw
      cases hw
  | ok event =>
    rw [FileStore.check_of_change hout] at hmemory
    rw [change_eq_step digest hout]
    -- the lines come to what the map comes to, and so it does whoever tells it
    have hlines := Change.onDocument_entries source o.document c
    have hteller := Change.onEntries_content source source' m.entries c
    rw [← h.entries, ← h.same] at hlines
    rw [← hlines] at hteller
    rcases h.toKeeps.change_cases digest hout with ⟨rfl, hd, hstep⟩ |
      ⟨e, document, after, rfl, hd, hfile, hstep⟩
    · rw [hd] at hteller
      have hnone : c.onEntries source' m.entries = none :=
        Option.map_eq_none_iff.1 hteller.symm
      rw [hnone] at hmemory
      rw [hstep, hmemory]
      exact ⟨rfl, rfl, s, o, m, rfl, rfl, rfl, h⟩
    · rw [hd] at hteller
      obtain ⟨⟨e', entries⟩, hsome, hcontent⟩ := Option.map_eq_some_iff.1 hteller.symm
      obtain ⟨htold, hentries⟩ := Prod.mk.inj hcontent
      rw [hsome] at hmemory
      rw [hstep, hmemory]
      -- the file now holds what the store wrote, and looks so
      have hkeeps : Keeps path { s with files := after, store := { s.store with
          opened := some (o.written document
            (.ofFile document.render ⟨.text document.render, s.files.clock⟩)) } }
          (o.written document (.ofFile document.render
            ⟨.text document.render, s.files.clock⟩)) :=
        ⟨rfl, h.location, rfl,
          Change.sound_of_onDocument h.sound (FileStore.check_of_change hout) hd⟩
      have hlooks := (FileStore.looksUnchanged_path hkeeps.location).2 ⟨_, hfile, rfl, rfl⟩
      exact ⟨rfl, congrArg some htold.symm, _, _, { m with entries }, rfl, rfl, rfl,
        ⟨hkeeps, hlooks, h.isOpen, hentries⟩⟩

/-- So does every other use. -/
theorem Agrees.used (h : Agrees path s o m) (u : Backing.Use)
    (hw : ((Backing.file s.store).used digest source web s.files u).answer.isUnwritten = false) :
    SameUse path ((Backing.file s.store).used digest source web s.files u)
      ((Backing.memory m).used digest' source' web' fs' u) := by
  have hread := h.snapshot_eq
  have hstays : ∃ s' o' m', s.files = s'.files ∧ Backing.file s.store = .file s'.store ∧
      Backing.memory m = .memory m' ∧ Agrees path s' o' m' := ⟨s, o, m, rfl, rfl, rfl, h⟩
  cases u with
  | change c => exact h.change c hw
  | get key =>
    have hget : (Backing.file s.store).get? key = (Backing.memory m).get? key :=
      congrArg (Except.map fun entries : Entries => entries.get? key) hread
    exact ⟨congrArg Backing.Answer.value hget, rfl, hstays⟩
  | keys =>
    have hkeys : (Backing.file s.store).keys = (Backing.memory m).keys :=
      congrArg (Except.map KeyMap.keys) hread
    exact ⟨congrArg Backing.Answer.keys hkeys, rfl, hstays⟩
  | snapshot => exact ⟨congrArg Backing.Answer.entries hread, rfl, hstays⟩
  | cycle =>
    simp only [Backing.used, Backing.pollCycle]
    rw [h.cycle]
    exact ⟨rfl, rfl, hstays⟩

/-! ### Whole runs -/

/-- Along a run two stores that agree look the same. -/
theorem Agrees.observed_eq (h : Agrees path s o m) {uses : List Backing.Use}
    (hw : ∀ seen ∈ (Backing.file s.store).observed digest source web s.files uses,
      seen.answer.isUnwritten = false) :
    (Backing.file s.store).observed digest source web s.files uses =
      (Backing.memory m).observed digest' source' web' fs' uses := by
  induction uses generalizing s o m fs' with
  | nil => rfl
  | cons u rest ih =>
    have hfirst := hw _ List.mem_cons_self
    have hrest := fun seen hm => hw seen (List.mem_cons_of_mem _ hm)
    have huse : SameUse path ((Backing.file s.store).used digest source web s.files u)
        ((Backing.memory m).used digest' source' web' fs' u) := h.used u hfirst
    simp only [Backing.observed]
    rw [huse.observation_eq]
    obtain ⟨s', o', m', hfiles, hfile, hmemory, hagrees⟩ := huse.agrees
    rw [hfiles, hfile] at hrest ⊢
    rw [hmemory, ih hagrees hrest]

/-- A store at a path that was just opened, and an open store in memory with the entries that
the text of the file spells, look the same to every user: whatever run of uses is made of both,
with poll cycles in between, each use returns the same value or the same fault, the same is told,
and the same entries can be read after it, as long as no change finds that the file cannot be
written. -/
theorem observed_file_eq_observed_memory (hb : s.Begun path) {text : String}
    (ht : s.files.readText path = .ok text) (hopen : m.isOpen = true)
    (hm : m.entries = (Document.parse text).entries) {uses : List Backing.Use}
    (hw : ∀ seen ∈ (Backing.file s.store).observed digest source web s.files uses,
      seen.answer.isUnwritten = false) :
    (Backing.file s.store).snapshot = (Backing.memory m).snapshot ∧
      (Backing.file s.store).observed digest source web s.files uses =
        (Backing.memory m).observed digest' source' web' fs' uses := by
  obtain ⟨o, h⟩ := hb.agrees ht hopen hm
  exact ⟨h.snapshot_eq, h.observed_eq hw⟩

/-- The levels, kept in memory. -/
def levelsInMemory : MemoryStore where
  entries := (Document.parse "k=INFO\n").entries
  isOpen := true

/-- A run with changes of every kind, among them one that is refused and two that come to
nothing. -/
def usesOfLevels : List Backing.Use :=
  [.change (.set "b" "ERROR"), .cycle, .change (.set "k" ""), .change (.set "#k" "INFO"),
    .change (.remove "z"), .get "k", .change (.remove "b"), .keys, .change .clear,
    .change .clear, .snapshot]

/-- The levels in a file and the levels in memory look the same in such a run, and four changes
are told. -/
theorem observed_file_eq_observed_memory_levels :
    (Backing.file levelsOpened.store).observed Digest.plain "file" .down levelsOpened.files
        usesOfLevels =
      (Backing.memory levelsInMemory).observed Digest.plain "memory" .down {} usesOfLevels ∧
    ((Backing.memory levelsInMemory).observed Digest.plain "memory" .down {}
        usesOfLevels).filterMap Backing.Observation.told =
      [(.keyAdded, some "b", some "ERROR"), (.keySet, some "k", some ""),
        (.keyCleared, some "b", none), (.cleared, none, none)] := by
  have ht : levelsOpened.files.readText "t.p" = .ok "k=INFO\n" := rfl
  have hw : ∀ seen ∈ (Backing.file levelsOpened.store).observed Digest.plain "file" .down
      levelsOpened.files usesOfLevels, seen.answer.isUnwritten = false := by
    decide +kernel
  refine ⟨(observed_file_eq_observed_memory levelsOpened_begun ht rfl rfl hw).2, ?_⟩
  decide +kernel

end Session

end Admission

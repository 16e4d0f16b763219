import Admission.Proofs.Document.Entries
import Admission.Proofs.Files.Replace
import Admission.Repository

/-!
# Telling — what an event says about the store that it comes from

  `ChangeEvent.Tells` compares an event with the entries before and after it: a key was
  added that was not there, or set or cleared where it was, all keys are gone where there
  were some, nothing changed, or the store was replaced. A store moves only so that its
  move is told: `Backing.Moves` says that a silent move keeps the entries, and that a
  told one is what its event says, with the entries already in place.

  Each kind of store is taken apart once. `MemoryStore.change_cases`,
  `FileStore.change_cases` and `FileStore.conclude_cases` say everything that a call can
  come to, and the moves of all stores follow from them:

    * `change_moves`: a change that succeeds moves the store as its event says,
    * `change_error`: a change that fails moves nothing, the files included,
    * `conclude_moves`, `pollCycle_moves`: so do poll cycles, whole ones and torn ones.
-/

namespace Admission

/-! ### Events against entries -/

/-- Whether an event of a source is a true account of the entries before and after it. -/
def ChangeEvent.Tells (e : ChangeEvent) (source : String) (before after : Entries) : Prop :=
  e.source = source ∧
    match e.kind with
    | .keyAdded => ∃ key value, e.key = some key ∧ e.value = some value ∧
        before.contains key = false ∧ after = before.insert key value
    | .keySet => ∃ key value, e.key = some key ∧ e.value = some value ∧
        before.contains key = true ∧ after = before.insert key value
    | .keyCleared => ∃ key, e.key = some key ∧
        before.contains key = true ∧ after = before.erase key
    | .cleared => before.isEmpty = false ∧ after = KeyMap.empty
    | .failed => after = before
    | .reloaded => True

namespace ChangeEvent

theorem stored_tells (source key value : String) (before : Entries) :
    (stored source key value (before.contains key)).Tells source before
      (before.insert key value) := by
  refine ⟨rfl, ?_⟩
  cases h : before.contains key with
  | true => exact ⟨key, value, rfl, rfl, h, rfl⟩
  | false => exact ⟨key, value, rfl, rfl, h, rfl⟩

theorem removed_tells (source : String) {key : String} {before : Entries}
    (h : before.contains key = true) :
    (removed source key).Tells source before (before.erase key) :=
  ⟨rfl, key, rfl, h, rfl⟩

theorem emptied_tells (source : String) {before : Entries} (h : before.isEmpty = false) :
    (emptied source).Tells source before KeyMap.empty :=
  ⟨rfl, h, rfl⟩

theorem unread_tells (source : String) (cause : Fault) (entries : Entries) :
    (unread source cause).Tells source entries entries :=
  ⟨rfl, rfl⟩

theorem replaced_tells (source : String) (before after : Entries) :
    (replaced source).Tells source before after :=
  ⟨rfl, trivial⟩

/-- The event that an outcome brings, if it brings one. -/
def ofOutcome : Except Fault (Option ChangeEvent) → Option ChangeEvent
  | .ok event => event
  | .error _ => none

end ChangeEvent

/-! ### Changes -/

namespace Change

theorem onEntries_tells {source : String} {before after : Entries} {c : Change}
    {event : ChangeEvent} (h : c.onEntries source before = some (event, after)) :
    event.Tells source before after := by
  cases c with
  | set key value =>
    simp only [onEntries, Option.some.injEq, Prod.mk.injEq] at h
    obtain ⟨rfl, rfl⟩ := h
    exact ChangeEvent.stored_tells source key value before
  | remove key =>
    simp only [onEntries] at h
    split at h
    · next hk =>
      simp only [Option.some.injEq, Prod.mk.injEq] at h
      obtain ⟨rfl, rfl⟩ := h
      exact ChangeEvent.removed_tells source hk
    · cases h
  | clear =>
    simp only [onEntries] at h
    split at h
    · cases h
    · next he =>
      simp only [Option.some.injEq, Prod.mk.injEq] at h
      obtain ⟨rfl, rfl⟩ := h
      exact ChangeEvent.emptied_tells source (by simpa using he)

theorem onDocument_set (source : String) (d : Document) (key value : String) :
    (set key value).onDocument source d =
      some (.stored source key value (d.get? key).isSome, d.set key value) := by
  simp only [onDocument, Document.exchange_eq]

theorem onDocument_remove (source : String) (d : Document) (key : String) :
    (remove key).onDocument source d =
      if (d.get? key).isSome then some (.removed source key, d.remove key) else none := rfl

theorem onDocument_clear (source : String) (d : Document) :
    clear.onDocument source d = if d.hasEntries then some (.emptied source, d.clear) else none := by
  simp only [onDocument, Document.drain_eq]

/-- A change does to the entries of a document what it does to entries. -/
theorem onDocument_entries (source : String) (d : Document) (c : Change) :
    (c.onDocument source d).map (fun p => (p.1, p.2.entries)) = c.onEntries source d.entries := by
  cases c with
  | set key value =>
    simp only [onDocument_set, onEntries, Option.map_some, Document.entries_set]
    rw [KeyMap.contains, Document.get?_entries]
  | remove key =>
    simp only [onDocument_remove, onEntries]
    rw [KeyMap.contains, Document.get?_entries]
    split
    · rw [Option.map_some, Document.entries_remove]
    · rfl
  | clear =>
    simp only [onDocument_clear, onEntries]
    rw [Document.hasEntries_eq]
    cases d.entries.isEmpty with
    | true => rfl
    | false => simp [Document.entries_clear]

theorem onDocument_tells {source : String} {d after : Document} {c : Change}
    {event : ChangeEvent} (h : c.onDocument source d = some (event, after)) :
    event.Tells source d.entries after.entries := by
  apply onEntries_tells (c := c)
  rw [← onDocument_entries, h]
  rfl

end Change

/-! ### Memory stores -/

namespace MemoryStore

/-- What a change of a store in memory comes to. -/
theorem change_cases (source : String) (c : Change) (s : MemoryStore) :
    (∃ cause, s.change source c = (.error cause, s)) ∨
    s.change source c = (.ok none, s) ∨
    ∃ event entries, s.isOpen = true ∧ event.Tells source s.entries entries ∧
      s.change source c = (.ok (some event), { s with entries }) := by
  unfold change
  cases hc : c.check with
  | error cause => exact .inl ⟨cause, rfl⟩
  | ok u =>
    cases hopen : s.isOpen with
    | true =>
      cases he : c.onEntries source s.entries with
      | none => exact .inr (.inl rfl)
      | some p => exact .inr (.inr ⟨p.1, p.2, rfl, Change.onEntries_tells he, rfl⟩)
    | false => exact .inl ⟨.memoryClosed, rfl⟩

end MemoryStore

/-! ### File stores -/

/-- The entries that a store keeps are those of its document. -/
def FileStore.Settled (s : FileStore) : Prop :=
  ∀ o, s.opened = some o → o.entries = o.document.entries

namespace FileStore

/-- What a change of a store at a location comes to. -/
theorem change_cases (source : String) (c : Change) (fs : Files) (s : FileStore) :
    (∃ cause, s.change source c fs = (.error cause, fs, s)) ∨
    s.change source c fs = (.ok none, fs, s) ∨
    ∃ o path event document after, s.opened = some o ∧ o.location = .path path ∧
      c.onDocument source o.document = some (event, document) ∧
      write fs path document.render = .ok after ∧
      s.change source c fs = (.ok (some event), after,
        { s with opened := some (o.written document (readingOf after path document.render)) }) := by
  unfold change
  cases hc : c.check with
  | error cause => exact .inl ⟨cause, rfl⟩
  | ok u =>
    cases ho : s.opened with
    | none => exact .inl ⟨s.closedFault, rfl⟩
    | some o =>
      cases hl : o.location with
      | remote url => exact .inl ⟨.readOnlyStore (Location.remote url).shown, by simp only [hl]⟩
      | resource name text =>
        exact .inl ⟨.readOnlyStore (Location.resource name text).shown, by simp only [hl]⟩
      | path path =>
        cases hd : c.onDocument source o.document with
        | none => exact .inr (.inl (by simp only [hl, hd]))
        | some p =>
          cases hw : write fs path p.2.render with
          | error cause => exact .inl ⟨cause, by simp only [hl, hd, hw]⟩
          | ok after =>
            refine .inr (.inr ⟨o, path, p.1, p.2, after, rfl, hl, hd, hw, ?_⟩)
            simp only [hl, hd, hw]

/-- What the end of a poll cycle comes to in an open store. -/
theorem conclude_cases (digest : Digest) (source : String) (sampled : Fingerprint)
    (read : Except Fault Reading) {s : FileStore} {o : OpenFile} (ho : s.opened = some o) :
    (∃ r, read = .ok r ∧ o.seen.fingerprint digest ≠ sampled ∧
      s.conclude digest source sampled read = (none, s)) ∨
    (∃ r, read = .ok r ∧ o.seen.fingerprint digest = sampled ∧
      digest r.text = digest o.seen.text ∧
      s.conclude digest source sampled read =
        (none, { s with opened := some { o with seen := r, failing := false } })) ∨
    (∃ r, read = .ok r ∧ o.seen.fingerprint digest = sampled ∧
      digest r.text ≠ digest o.seen.text ∧
      s.conclude digest source sampled read =
        (some (.replaced source), { s with opened := some (.ofReading o.location r) })) ∨
    (∃ cause, read = .error cause ∧ o.failing = true ∧
      s.conclude digest source sampled read = (none, s)) ∨
    (∃ cause, read = .error cause ∧ o.failing = false ∧
      s.conclude digest source sampled read =
        (some (.unread source cause), { s with opened := some { o with failing := true } })) := by
  unfold conclude
  cases read with
  | ok r =>
    simp only [publish, ho]
    by_cases hs : o.seen.fingerprint digest = sampled
    · -- nobody was faster, so the digest decides
      by_cases hd : digest r.text = digest o.seen.text
      · exact .inr (.inl ⟨r, rfl, hs, hd, by simp [hs, hd]⟩)
      · exact .inr (.inr (.inl ⟨r, rfl, hs, hd, by simp [hs, hd]⟩))
    · exact .inl ⟨r, rfl, hs, by simp [hs]⟩
  | error cause =>
    simp only [report, ho]
    by_cases hf : o.failing = true
    · exact .inr (.inr (.inr (.inl ⟨cause, rfl, hf, by simp [hf]⟩)))
    · have hf' : o.failing = false := by simpa using hf
      exact .inr (.inr (.inr (.inr ⟨cause, rfl, hf', by simp [hf']⟩)))

theorem conclude_closed (digest : Digest) (source : String) (sampled : Fingerprint)
    (read : Except Fault Reading) {s : FileStore} (ho : s.opened = none) :
    s.conclude digest source sampled read = (none, s) := by
  unfold conclude
  cases read with
  | ok r => simp only [publish, ho]
  | error cause => simp only [report, ho]

/-! ### Settled stores -/

theorem settled_of_eq {s : FileStore} {o : OpenFile} (ho : s.opened = some o)
    (he : o.entries = o.document.entries) : s.Settled := by
  intro p hp
  rw [ho] at hp
  cases hp
  exact he

/-- Loading succeeds when the location resolves and can be read, and then knows what was
read there. -/
theorem load_eq_ok {web : Web} {fs : Files} {settings : FileSettings} {o : OpenFile}
    (h : load web fs settings = .ok o) :
    ∃ url location r, settings.location? = some url ∧
      Location.resolve url settings.resources = .ok location ∧
      location.read web fs = .ok r ∧ o = .ofReading location r := by
  unfold load at h
  cases hl : settings.location? with
  | none => simp only [hl] at h; cases h
  | some url =>
    simp only [hl] at h
    obtain ⟨location, hresolve, h⟩ := bind_eq_ok.1 h
    obtain ⟨_, -, h⟩ := bind_eq_ok.1 h
    cases hread : location.read web fs with
    | error cause => simp only [hread] at h; cases h
    | ok r =>
      simp only [hread] at h
      cases h
      exact ⟨url, location, r, rfl, hresolve, hread, rfl⟩

/-- What is at a path is loaded without a request. -/
theorem load_path {fs : Files} {settings : FileSettings} {url path : String} {r : Reading}
    (web : Web) (hurl : settings.location? = some url)
    (hresolve : Location.resolve url settings.resources = .ok (.path path))
    (hread : (Location.path path).read web fs = .ok r) :
    load web fs settings = .ok (.ofReading (.path path) r) := by
  unfold load
  simp only [hurl, hresolve, hread, Location.prepare, bind, Except.bind]

theorem openStore_settled {web : Web} {fs : Files} {s : FileStore} (h : s.Settled) :
    (s.openStore web fs).2.Settled := by
  unfold openStore
  split
  · exact h
  · split
    · exact h
    · next o hl =>
      obtain ⟨url, location, r, -, -, -, rfl⟩ := load_eq_ok hl
      exact settled_of_eq rfl rfl

theorem closeStore_settled (s : FileStore) : s.closeStore.Settled := by
  intro o ho
  cases ho

/-- A change that fails leaves the files and the store as they were. -/
theorem change_error {source : String} {c : Change} {fs : Files} {s : FileStore} {cause : Fault}
    (h : (s.change source c fs).1 = .error cause) :
    s.change source c fs = (.error cause, fs, s) := by
  rcases change_cases source c fs s with ⟨cause', he⟩ | he |
    ⟨o, path, e, document, after, -, -, -, -, he⟩
  · rw [he] at h ⊢
    cases h
    rfl
  · rw [he] at h
    cases h
  · rw [he] at h
    cases h

theorem change_settled {source : String} {c : Change} {fs : Files} {s : FileStore}
    (h : s.Settled) : (s.change source c fs).2.2.Settled := by
  rcases change_cases source c fs s with ⟨cause, he⟩ | he |
    ⟨o, path, event, d, after, ho, -, -, -, he⟩
  · rw [he]; exact h
  · rw [he]; exact h
  · rw [he]; exact settled_of_eq rfl rfl

theorem conclude_settled {digest : Digest} {source : String} {sampled : Fingerprint}
    {read : Except Fault Reading} {s : FileStore} (h : s.Settled) :
    (s.conclude digest source sampled read).2.Settled := by
  cases ho : s.opened with
  | none => rw [conclude_closed digest source sampled read ho]; exact h
  | some o =>
    have hs := h o ho
    rcases conclude_cases digest source sampled read ho with ⟨r, -, -, he⟩ | ⟨r, -, -, -, he⟩ |
      ⟨r, -, -, -, he⟩ | ⟨cause, -, -, he⟩ | ⟨cause, -, -, he⟩
    · rw [he]; exact h
    · rw [he]; exact settled_of_eq rfl hs
    · rw [he]; exact settled_of_eq rfl rfl
    · rw [he]; exact h
    · rw [he]; exact settled_of_eq rfl hs

/-- A poll cycle does nothing, or it reads the location and concludes. -/
theorem pollCycle_cases (digest : Digest) (source : String) (web : Web) (fs : Files)
    (s : FileStore) :
    s.pollCycle digest source web fs = (none, s) ∨
    ∃ o, s.opened = some o ∧ looksUnchanged fs o = false ∧
      s.pollCycle digest source web fs =
        s.conclude digest source (o.seen.fingerprint digest) (o.location.read web fs) := by
  unfold pollCycle
  cases ho : s.opened with
  | none => exact .inl rfl
  | some o =>
    cases hu : looksUnchanged fs o with
    | true => exact .inl (by simp [hu])
    | false => exact .inr ⟨o, rfl, hu, by simp [hu]⟩

theorem pollCycle_settled {digest : Digest} {source : String} {web : Web} {fs : Files}
    {s : FileStore} (h : s.Settled) : (s.pollCycle digest source web fs).2.Settled := by
  rcases pollCycle_cases digest source web fs s with he | ⟨o, -, -, he⟩
  · rw [he]; exact h
  · rw [he]; exact conclude_settled h

end FileStore

/-! ### Moves of a store -/

namespace Backing

/-- The entries that a store has in hand: those of a store in memory stay while it is
closed, those of a store at a location do not. -/
def holdings : Backing → Option Entries
  | memory s => some s.entries
  | file s => s.opened.map OpenFile.entries
  | stub s => some s.store.entries

/-- A store that tells what happens to it, and whose entries are those of its document. -/
def Telling : Backing → Prop
  | memory _ => True
  | file s => s.Settled
  | stub _ => False

/-- What is read of a store is what it has in hand. -/
theorem holdings_of_snapshot {b : Backing} {entries : Entries} (h : b.snapshot = .ok entries) :
    b.holdings = some entries := by
  cases b with
  | memory s =>
    simp only [snapshot, MemoryStore.snapshot] at h
    split at h
    · cases h; rfl
    · cases h
  | file s =>
    simp only [snapshot, FileStore.snapshot] at h
    split at h
    · next o ho => cases h; simp only [holdings, ho, Option.map_some]
    · cases h
  | stub s =>
    simp only [snapshot, Stub.snapshot, MemoryStore.snapshot] at h
    split at h
    · cases h
    · split at h
      · cases h; rfl
      · cases h

/-- A store went from one state to another, and the event, if there is one, says how. -/
inductive Moves (source : String) (b b' : Backing) : Option ChangeEvent → Prop where
  /-- Nothing is told, and the entries are the same. -/
  | silent (h : b'.holdings = b.holdings) : Moves source b b' none
  /-- The event is a true account, and the new entries can be read already. -/
  | told {before after : Entries} {event : ChangeEvent} (hb : b.holdings = some before)
      (ha : b'.snapshot = .ok after) (ht : event.Tells source before after) :
      Moves source b b' (some event)

theorem Moves.refl (source : String) (b : Backing) : Moves source b b none := .silent rfl

/-- A store at a location that is open has the entries of what it knows. -/
theorem snapshot_file {s : FileStore} {o : OpenFile} (ho : s.opened = some o) :
    (file s).snapshot = .ok o.entries := by
  simp only [snapshot, FileStore.snapshot, ho]

theorem holdings_file {s : FileStore} {o : OpenFile} (ho : s.opened = some o) :
    (file s).holdings = some o.entries := by
  simp only [holdings, ho, Option.map_some]

/-! ### Every call moves a store as it tells -/

/-- A change that fails leaves the files and the store as they were. -/
theorem change_error {source : String} {c : Change} {fs : Files} {b : Backing} (h : b.Telling)
    {cause : Fault} (he : (b.change source c fs).1 = .error cause) :
    b.change source c fs = (.error cause, fs, b) := by
  cases b with
  | stub s => exact h.elim
  | memory s =>
    simp only [change] at he ⊢
    rcases s.change_cases source c with ⟨cause', hc⟩ | hc | ⟨event, entries, -, -, hc⟩
    · rw [hc] at he ⊢; cases he; rfl
    · rw [hc] at he; cases he
    · rw [hc] at he; cases he
  | file s =>
    simp only [change] at he ⊢
    rw [FileStore.change_error he]

/-- A change moves the store as its event says; one that fails has none. -/
theorem change_moves {source : String} {c : Change} {fs : Files} {b : Backing} (h : b.Telling) :
    b.Moves source (b.change source c fs).2.2 (ChangeEvent.ofOutcome (b.change source c fs).1) := by
  cases b with
  | stub s => exact h.elim
  | memory s =>
    simp only [change]
    rcases s.change_cases source c with ⟨cause, hc⟩ | hc | ⟨event, entries, hopen, ht, hc⟩
    · rw [hc]; exact Moves.refl source _
    · rw [hc]; exact Moves.refl source _
    · -- the store was open, so what it has can be read
      rw [hc]
      refine .told rfl ?_ ht
      simp only [snapshot, MemoryStore.snapshot, hopen, if_true]
  | file s =>
    simp only [change]
    rcases s.change_cases source c fs with ⟨cause, hc⟩ | hc |
      ⟨o, path, event, d, after, ho, -, hd, -, hc⟩
    · rw [hc]; exact Moves.refl source _
    · rw [hc]; exact Moves.refl source _
    · -- the event was told of the document, whose entries the store has
      rw [hc]
      refine .told (holdings_file ho) (snapshot_file rfl) ?_
      rw [h o ho]
      exact Change.onDocument_tells hd

/-- Replacing all entries of a store in memory moves it as its event says. -/
theorem replaceAll_moves (source : String) (entries : Entries) (s : MemoryStore) :
    (memory s).Moves source (memory (s.replaceAll source entries).2)
      (ChangeEvent.ofOutcome (s.replaceAll source entries).1) := by
  unfold MemoryStore.replaceAll
  cases hopen : s.isOpen with
  | false => exact Moves.refl source _
  | true =>
    refine .told rfl ?_ (ChangeEvent.replaced_tells source s.entries entries)
    simp only [snapshot, MemoryStore.snapshot, Bool.not_true, Bool.false_eq_true, if_false, if_true]

/-- The end of a poll cycle moves the store as its event says, whatever the cycle read. -/
theorem conclude_moves {digest : Digest} {source : String} {sampled : Fingerprint}
    {read : Except Fault Reading} {s : FileStore} :
    (file s).Moves source (file (s.conclude digest source sampled read).2)
      (s.conclude digest source sampled read).1 := by
  cases ho : s.opened with
  | none =>
    rw [FileStore.conclude_closed digest source sampled read ho]
    exact Moves.refl source _
  | some o =>
    rcases FileStore.conclude_cases digest source sampled read ho with ⟨r, -, -, he⟩ |
      ⟨r, -, -, -, he⟩ | ⟨r, -, -, -, he⟩ | ⟨cause, -, -, he⟩ | ⟨cause, -, -, he⟩
    · rw [he]; exact Moves.refl source _
    · -- the text is the same, and only its stamp and size are new
      rw [he]
      refine .silent ?_
      rw [holdings_file ho, holdings_file rfl]
    · rw [he]
      exact .told (holdings_file ho) (snapshot_file rfl) (ChangeEvent.replaced_tells source _ _)
    · rw [he]; exact Moves.refl source _
    · rw [he]
      exact .told (holdings_file ho) (snapshot_file rfl) (ChangeEvent.unread_tells source cause _)

/-- So does a whole poll cycle. -/
theorem pollCycle_moves (digest : Digest) (source : String) (web : Web) (fs : Files)
    (b : Backing) :
    b.Moves source (b.pollCycle digest source web fs).2 (b.pollCycle digest source web fs).1 := by
  cases b with
  | memory s => exact Moves.refl source _
  | stub s => exact Moves.refl source _
  | file s =>
    simp only [pollCycle]
    rcases s.pollCycle_cases digest source web fs with he | ⟨o, -, -, he⟩
    · rw [he]; exact Moves.refl source _
    · rw [he]; exact conclude_moves

/-! ### Opening and closing -/

/-- The entries that opening a store brings into hand: those at the location of a store that
is closed and can be read. -/
def rereads? (web : Web) (fs : Files) : Backing → Option Entries
  | file s =>
    if s.isOpen then none else (FileStore.load web fs s.settings).toOption.map OpenFile.entries
  | _ => none

/-- After opening, a store has in hand what was read, or else what it had before. -/
theorem holdings_openStore (web : Web) (fs : Files) (b : Backing) :
    (b.openStore web fs).2.holdings = (b.rereads? web fs).or b.holdings := by
  cases b with
  | memory s => rfl
  | stub s =>
    simp only [openStore, Stub.opened]
    split
    · rfl
    · rfl
  | file s =>
    simp only [openStore, FileStore.openStore, rereads?]
    by_cases hopen : s.isOpen = true
    · simp only [hopen, if_true, Option.none_or]
    · simp only [hopen]
      cases FileStore.load web fs s.settings with
      | ok o => rfl
      | error cause => rfl

/-- What opening brings into hand can be read afterwards. -/
theorem snapshot_of_rereads {web : Web} {fs : Files} {b : Backing} {entries : Entries}
    (h : b.rereads? web fs = some entries) : (b.openStore web fs).2.snapshot = .ok entries := by
  cases b with
  | memory s => cases h
  | stub s => cases h
  | file s =>
    simp only [rereads?] at h
    simp only [openStore, FileStore.openStore]
    split at h
    · cases h
    · next hopen =>
      rw [if_neg hopen]
      cases hl : FileStore.load web fs s.settings with
      | error cause => rw [hl] at h; cases h
      | ok o => rw [hl] at h; cases h; rfl

/-- A store without a location is not read. -/
theorem rereads_of_undefined {web : Web} {fs : Files} {b : Backing} (h : b.isDefined = false) :
    b.rereads? web fs = none := by
  cases b with
  | memory s => rfl
  | stub s => rfl
  | file s =>
    have hl : s.settings.location? = none :=
      Option.isNone_iff_eq_none.1 (Option.isSome_eq_false_iff.1 h)
    have hload : FileStore.load web fs s.settings = .error .noLocation := by
      unfold FileStore.load
      rw [hl]
    simp only [rereads?, hload]
    exact ite_self none

/-- Closing brings nothing new into hand. -/
theorem holdings_of_closeStore {b : Backing} {entries : Entries}
    (h : b.closeStore.holdings = some entries) : b.holdings = some entries := by
  cases b with
  | memory s => exact h
  | file s => cases h
  | stub s => exact h

/-! ### Properties that every call keeps -/

/-- A property of stores that no call of a store takes from it. -/
structure Stable (P : Backing → Prop) : Prop where
  /-- A change keeps it. -/
  change : ∀ source c fs b, P b → P (b.change source c fs).2.2
  /-- Replacing all entries keeps it. -/
  replaceAll : ∀ source entries s, P (memory s) → P (memory (s.replaceAll source entries).2)
  /-- Other switches keep it. -/
  refuse : ∀ s refusals, P (stub s) → P (stub { s with refusals })
  /-- A poll cycle keeps it. -/
  pollCycle : ∀ digest source web fs b, P b → P (b.pollCycle digest source web fs).2
  /-- The end of a poll cycle keeps it. -/
  conclude : ∀ digest source sampled read s, P (file s) →
    P (file (s.conclude digest source sampled read).2)
  /-- Opening keeps it. -/
  openStore : ∀ web fs b, P b → P (b.openStore web fs).2
  /-- Closing keeps it. -/
  closeStore : ∀ b, P b → P b.closeStore

theorem telling_stable : Stable Telling where
  change := by
    intro source c fs b h
    cases b with
    | memory s => exact trivial
    | file s => exact FileStore.change_settled h
    | stub s => exact h.elim
  replaceAll := fun _ _ _ _ => trivial
  refuse := fun _ _ h => h
  pollCycle := by
    intro digest source web fs b h
    cases b with
    | memory s => exact trivial
    | file s => exact FileStore.pollCycle_settled h
    | stub s => exact h.elim
  conclude := fun _ _ _ _ _ h => FileStore.conclude_settled h
  openStore := by
    intro web fs b h
    cases b with
    | memory s => exact trivial
    | file s => exact FileStore.openStore_settled h
    | stub s => exact h.elim
  closeStore := by
    intro b h
    cases b with
    | memory s => exact trivial
    | file s => exact s.closeStore_settled
    | stub s => exact h.elim

/-- A store in memory. -/
def IsMemory (b : Backing) : Prop := ∃ s, b = memory s

theorem isMemory_stable : Stable IsMemory where
  change := by rintro source c fs _ ⟨s, rfl⟩; exact ⟨_, rfl⟩
  replaceAll := fun _ _ s _ => ⟨_, rfl⟩
  refuse := by rintro s refusals ⟨m, h⟩; cases h
  pollCycle := by rintro digest source web fs _ ⟨s, rfl⟩; exact ⟨s, rfl⟩
  conclude := by rintro digest source sampled read s ⟨m, h⟩; cases h
  openStore := by rintro web fs _ ⟨s, rfl⟩; exact ⟨_, rfl⟩
  closeStore := by rintro _ ⟨s, rfl⟩; exact ⟨_, rfl⟩

theorem IsMemory.telling {b : Backing} (h : b.IsMemory) : b.Telling := by
  obtain ⟨s, rfl⟩ := h
  exact trivial

theorem IsMemory.not_rereads {b : Backing} (h : b.IsMemory) (web : Web) (fs : Files) :
    b.rereads? web fs = none := by
  obtain ⟨s, rfl⟩ := h
  rfl

end Backing

end Admission

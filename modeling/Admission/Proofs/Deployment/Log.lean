import Admission.Proofs.Deployment.Quiet

/-!
# Logs — what a repository told, replayed

  While a repository is open its store is changed, replaced as a whole if it is in
  memory, and looked at by poll cycles, whole ones and such as were overtaken. These are
  its calls (`Backing.Call`), and each of them tells one event or none (`called_tells`):
  the event is a true account of the entries before and after, and if there is none they
  are the same.

  Whoever knew the entries when the repository was opened, and replays what it told
  since, knows the entries that it has (`logged_faithful`). Only where the whole store
  was replaced does he have to read it again, and then he reads what is there after the
  event, as every listener does when it is called.
-/

namespace Admission

/-! ### Replaying events -/

/-- The entries of somebody who knew the entries before an event, after the event; where the
whole store was replaced he has to read it. -/
def ChangeEvent.replay (e : ChangeEvent) (read : Except Fault Entries) (known : Entries) :
    Except Fault Entries :=
  match e.kind, e.key, e.value with
  | .keyAdded, some key, some value => .ok (known.insert key value)
  | .keySet, some key, some value => .ok (known.insert key value)
  | .keyCleared, some key, _ => .ok (known.erase key)
  | .cleared, _, _ => .ok KeyMap.empty
  | .reloaded, _, _ => read
  | _, _, _ => .ok known

/-- Replaying a true account of the entries leads to the entries after it. -/
theorem ChangeEvent.Tells.replay {e : ChangeEvent} {source : String} {before after : Entries}
    (h : e.Tells source before after) : e.replay (.ok after) before = .ok after := by
  obtain ⟨-, h⟩ := h
  unfold ChangeEvent.replay
  cases hk : e.kind with
  | keyAdded =>
    rw [hk] at h
    obtain ⟨key, value, hkey, hvalue, -, rfl⟩ := h
    rw [hkey, hvalue]
  | keySet =>
    rw [hk] at h
    obtain ⟨key, value, hkey, hvalue, -, rfl⟩ := h
    rw [hkey, hvalue]
  | keyCleared =>
    rw [hk] at h
    obtain ⟨key, hkey, -, rfl⟩ := h
    rw [hkey]
  | cleared =>
    rw [hk] at h
    rw [h.2]
  | reloaded => rfl
  | failed =>
    rw [hk] at h
    change after = before at h
    rw [h]

/-! ### Calls of an open store -/

namespace Backing

/-- What is done with a store while it is open. -/
inductive Call where
  /-- It is changed. -/
  | change (c : Change)
  /-- All its entries are replaced, if it is in memory. -/
  | replaceAll (entries : Entries)
  /-- A poll cycle is made. -/
  | cycle
  /-- A poll cycle comes to its end that began when the store had a fingerprint, and that has
  read anything or nothing. -/
  | endCycle (sampled : Fingerprint) (read : Except Fault Reading)

/-- The event that a call tells, and the files and the store after it. -/
def called (digest : Digest) (source : String) (web : Web) (fs : Files) (b : Backing) :
    Call → Option ChangeEvent × Files × Backing
  | .change c => (ChangeEvent.ofOutcome (b.change source c fs).1, (b.change source c fs).2)
  | .replaceAll entries =>
    match b with
    | memory s => (ChangeEvent.ofOutcome (s.replaceAll source entries).1, fs,
        memory (s.replaceAll source entries).2)
    | _ => (none, fs, b)
  | .cycle => ((b.pollCycle digest source web fs).1, fs, (b.pollCycle digest source web fs).2)
  | .endCycle sampled read =>
    match b with
    | file s => ((s.conclude digest source sampled read).1, fs,
        file (s.conclude digest source sampled read).2)
    | _ => (none, fs, b)

variable {digest : Digest} {source : String} {web : Web} {fs : Files} {b : Backing}

variable (digest source web fs) in
/-- Every call moves the store as it tells. -/
theorem called_moves (h : b.Telling) (call : Call) :
    b.Moves source (b.called digest source web fs call).2.2
      (b.called digest source web fs call).1 := by
  cases call with
  | change c => exact change_moves h
  | replaceAll entries =>
    cases b with
    | memory s => exact replaceAll_moves source entries s
    | file s => exact Moves.refl source _
    | stub s => exact h.elim
  | cycle => exact pollCycle_moves digest source web fs b
  | endCycle sampled read =>
    cases b with
    | memory s => exact Moves.refl source _
    | file s => exact conclude_moves
    | stub s => exact h.elim

variable (digest source web fs) in
/-- A property that no call takes from a store is kept by a call. -/
theorem Stable.called {P : Backing → Prop} (hP : Stable P) (h : P b) (call : Call) :
    P (b.called digest source web fs call).2.2 := by
  cases call with
  | change c => exact hP.change _ _ _ _ h
  | replaceAll entries =>
    cases b with
    | memory s => exact hP.replaceAll _ _ _ h
    | file s => exact h
    | stub s => exact h
  | cycle => exact hP.pollCycle _ _ _ _ _ h
  | endCycle sampled read =>
    cases b with
    | memory s => exact h
    | file s => exact hP.conclude _ _ _ _ _ h
    | stub s => exact h

/-- What an open store that tells has in hand can be read. -/
theorem snapshot_of_holdings (h : b.Telling) (hopen : b.isOpen = true) {entries : Entries}
    (he : b.holdings = some entries) : b.snapshot = .ok entries := by
  cases b with
  | memory s =>
    cases he
    simp only [snapshot, MemoryStore.snapshot]
    exact if_pos hopen
  | file s =>
    obtain ⟨o, ho, rfl⟩ := Option.map_eq_some_iff.1 he
    exact snapshot_file ho
  | stub s => exact h.elim

theorem isOpen_of_snapshot {entries : Entries} (h : b.snapshot = .ok entries) :
    b.isOpen = true := by
  cases b with
  | memory s =>
    simp only [snapshot, MemoryStore.snapshot] at h
    split at h
    · next hopen => exact hopen
    · cases h
  | file s =>
    simp only [snapshot, FileStore.snapshot] at h
    split at h
    · next o ho => simp only [isOpen, FileStore.isOpen, ho, Option.isSome_some]
    · cases h
  | stub s =>
    simp only [snapshot, Stub.snapshot, MemoryStore.snapshot] at h
    split at h
    · cases h
    · split at h
      · next hopen => exact hopen
      · cases h

variable (digest source web fs) in
/-- A store in memory that a call leaves is open if it was open before. -/
theorem isOpen_called_memory (s : MemoryStore) (call : Call) :
    ((memory s).called digest source web fs call).2.2.isOpen = s.isOpen := by
  cases call with
  | change c =>
    rcases s.change_cases source c with ⟨cause, he⟩ | he | ⟨event, entries, -, -, he⟩
    · simp only [called, Backing.change, he]; rfl
    · simp only [called, Backing.change, he]; rfl
    · simp only [called, Backing.change, he]; rfl
  | replaceAll entries =>
    simp only [called, MemoryStore.replaceAll]
    split
    · rfl
    · rfl
  | cycle => rfl
  | endCycle sampled read => rfl

variable (digest source web fs) in
theorem called_file (s : FileStore) (call : Call) :
    ∃ s', ((file s).called digest source web fs call).2.2 = file s' := by
  cases call with
  | change c => exact ⟨_, rfl⟩
  | replaceAll entries => exact ⟨s, rfl⟩
  | cycle => exact ⟨_, rfl⟩
  | endCycle sampled read => exact ⟨_, rfl⟩

/-- An event, or its absence, as an account of the entries before and after. -/
def Accounts (source : String) (before after : Entries) : Option ChangeEvent → Prop
  | none => after = before
  | some e => e.Tells source before after

variable (digest source web fs) in
/-- A call of an open store leaves it open, and tells how its entries changed or that they did
not. -/
theorem called_tells (h : b.Telling) {before : Entries} (hb : b.snapshot = .ok before)
    (call : Call) : ∃ after, (b.called digest source web fs call).2.2.snapshot = .ok after ∧
      Accounts source before after (b.called digest source web fs call).1 := by
  have hheld := holdings_of_snapshot hb
  have htell := telling_stable.called digest source web fs h call
  have hmoves := called_moves digest source web fs h call
  generalize hr : b.called digest source web fs call = r at hmoves htell
  obtain ⟨event, files, b'⟩ := r
  cases hmoves with
  | silent hsame =>
    -- what is in hand can be read, unless the store is in memory and closed
    rw [hheld] at hsame
    refine ⟨before, snapshot_of_holdings htell ?_ hsame, rfl⟩
    cases b with
    | memory s =>
      have hopen := isOpen_called_memory digest source web fs s call
      rw [hr] at hopen
      rw [hopen]
      exact isOpen_of_snapshot hb
    | file s =>
      obtain ⟨s', hs'⟩ := called_file digest source web fs s call
      rw [hr] at hs'
      change b' = file s' at hs'
      subst hs'
      obtain ⟨o, ho, rfl⟩ := Option.map_eq_some_iff.1 hsame
      exact isOpen_of_snapshot (snapshot_file ho)
    | stub s => exact h.elim
  | told hheld' hafter ht =>
    rw [hheld] at hheld'
    cases hheld'
    exact ⟨_, hafter, ht⟩

/-! ### The beginning of a session -/

/-- A store at the beginning of a session, with its entries: it is in memory and open, or its
location, whatever it is, has just been read. -/
inductive Begins : Backing → Entries → Prop where
  /-- A store in memory is open. -/
  | memory {s : MemoryStore} (h : s.isOpen = true) : Begins (.memory s) s.entries
  /-- A store knows what was read at its location. -/
  | file {s : FileStore} {location : Location} {r : Reading}
      (h : s.opened = some (.ofReading location r)) :
      Begins (.file s) (Document.parse r.text).entries

variable {entries : Entries}

theorem Begins.telling (h : b.Begins entries) : b.Telling := by
  cases h with
  | memory h => exact trivial
  | file h => exact FileStore.settled_of_eq h rfl

theorem Begins.snapshot (h : b.Begins entries) : b.snapshot = .ok entries := by
  cases h with
  | memory h => exact if_pos h
  | file h => exact snapshot_file h

/-- Opening a closed store that is no stub begins a session if it succeeds. -/
theorem begins_openStore (hclosed : b.isOpen = false) (hs : ∀ s, b ≠ stub s)
    (hok : (b.openStore web fs).1 = .ok ()) : ∃ entries, (b.openStore web fs).2.Begins entries := by
  cases b with
  | memory s => exact ⟨_, .memory rfl⟩
  | stub s => exact absurd rfl (hs s)
  | file s =>
    change s.isOpen = false at hclosed
    simp only [openStore, FileStore.openStore, hclosed, Bool.false_eq_true, if_false] at hok ⊢
    cases hl : FileStore.load web fs s.settings with
    | error cause => simp only [hl] at hok; cases hok
    | ok o =>
      obtain ⟨url, location, r, -, -, -, rfl⟩ := FileStore.load_eq_ok hl
      exact ⟨_, .file rfl⟩

end Backing

/-! ### Calls of a repository -/

/-- What the listeners of a repository heard. -/
structure Heard where
  /-- The event. -/
  event : ChangeEvent
  /-- What could be read of the repository when they were told. -/
  read : Except Fault Entries

/-- The entries of somebody who knew the entries at the beginning of a log, at its end. -/
def replayed (log : List Heard) (start : Entries) : Except Fault Entries :=
  log.foldlM (fun known h => h.event.replay h.read known) start

/-- What a listener writes down when a repository tells it an event; a table writes nothing. -/
def Subscriber.note? (name : String) (event : ChangeEvent) : Subscriber → Option Note
  | .recorder => some ⟨name, none, event⟩
  | .observer who _ => some ⟨name, some who, event⟩
  | .table _ => none

namespace Deployment

/-- The deployment after a call of a repository. -/
def make (name : String) (d : Deployment) : Backing.Call → Deployment
  | .change c => (d.change name c).2
  | .replaceAll entries => (d.replaceAll name entries).2
  | .cycle => d.cycle name
  | .endCycle sampled read => d.endCycle name sampled read

/-- The deployment when the store of a repository has moved and nobody was told yet. -/
def placed (name : String) (files : Files) (b : Backing) (d : Deployment) : Deployment :=
  { d with stores := { d.stores with files }.putBacking name b }

/-- What the listeners of a repository hear in a call. -/
def heard (name : String) (d : Deployment) (call : Backing.Call) : List Heard :=
  match d.stores.backing? name with
  | none => []
  | some b =>
    let (event, files, b) := b.called d.stores.digest name d.stores.web d.stores.files call
    event.toList.map fun e => ⟨e, (d.placed name files b).stores.snapshot name⟩

variable {name : String} {d d' : Deployment} {b : Backing}

theorem placed_self (hb : d.stores.backing? name = some b) :
    d.placed name d.stores.files b = d := by
  obtain ⟨x, hx, rfl⟩ := Option.map_eq_some_iff.1 hb
  have hsame : d.stores.repositories.insert name x = d.stores.repositories := by
    apply KeyMap.ext_get?
    intro r
    rw [KeyMap.get?_insert]
    by_cases hr : r = name
    · rw [if_pos hr, hr, hx]
    · rw [if_neg hr]
  unfold placed Stores.putBacking Stores.modify
  simp only [hx, hsame]

theorem backing?_placed (hb : d.stores.backing? name = some b) (files : Files) (b' : Backing) :
    (d.placed name files b').stores.backing? name = some b' := by
  unfold placed
  rw [Stores.backing?_putBacking, if_pos rfl]
  change (d.stores.backing? name).map _ = _
  rw [hb]
  rfl

theorem listeners?_placed (d : Deployment) (name : String) (files : Files) (b : Backing) :
    (d.placed name files b).stores.listeners? name = d.stores.listeners? name :=
  Stores.listeners?_putBacking { d.stores with files } name b name

/-- A call puts the new store in its place and then delivers the event, if there is one. -/
theorem make_eq (hb : d.stores.backing? name = some b) (call : Backing.Call) :
    d.make name call =
      (d.placed name (b.called d.stores.digest name d.stores.web d.stores.files call).2.1
        (b.called d.stores.digest name d.stores.web d.stores.files call).2.2).deliverAny name
        (b.called d.stores.digest name d.stores.web d.stores.files call).1 := by
  cases call with
  | change c =>
    simp only [make, Deployment.change, hb]
    exact settle_snd name _ _
  -- entries are replaced in memory only, and other stores are left as they are
  | replaceAll entries =>
    cases b with
    | memory s =>
      simp only [make, Deployment.replaceAll, hb]
      exact settle_snd name _ _
    | file s =>
      simp only [make, Deployment.replaceAll, hb]
      exact (placed_self hb).symm
    | stub s =>
      simp only [make, Deployment.replaceAll, hb]
      exact (placed_self hb).symm
  | cycle =>
    simp only [make, Deployment.cycle, hb]
    rfl
  -- only a file store has cycles to end
  | endCycle sampled read =>
    cases b with
    | memory s =>
      simp only [make, Deployment.endCycle, hb]
      exact (placed_self hb).symm
    | file s =>
      simp only [make, Deployment.endCycle, hb]
      rfl
    | stub s =>
      simp only [make, Deployment.endCycle, hb]
      exact (placed_self hb).symm

theorem backing?_make (hb : d.stores.backing? name = some b) (call : Backing.Call) :
    (d.make name call).stores.backing? name =
      some (b.called d.stores.digest name d.stores.web d.stores.files call).2.2 := by
  rw [make_eq hb, stores_deliverAny]
  exact backing?_placed hb _ _

/-! ### What is written down -/

/-- Listeners write an event down one after the other, last first. -/
theorem journal_tellAll (name : String) (event : ChangeEvent) (ls : List (ListenerId × Subscriber))
    (d : Deployment) : (ls.foldl (fun d l => d.tell name event l.2) d).journal =
      (ls.filterMap fun l => l.2.note? name event).reverse ++ d.journal := by
  induction ls generalizing d with
  | nil => rfl
  | cons l rest ih =>
    obtain ⟨id, who⟩ := l
    rw [List.foldl_cons, ih]
    cases who with
    | recorder => simp [tell, Subscriber.note?]
    | observer who fails => simp [tell, Subscriber.note?]
    | table n =>
      have hsame : (d.tell name event (.table n)).journal = d.journal := by
        simp only [tell]
        split
        · rfl
        · rfl
      simp [hsame, Subscriber.note?]

theorem journal_deliverAny {listeners : Registry Subscriber}
    (hl : d.stores.listeners? name = some listeners) (event : Option ChangeEvent) :
    (d.deliverAny name event).journal = (event.toList.flatMap fun e =>
      listeners.listeners.filterMap fun l => l.2.note? name e).reverse ++ d.journal := by
  cases event with
  | none => rfl
  | some e =>
    obtain ⟨r, hr, rfl⟩ := Option.map_eq_some_iff.1 hl
    show (d.deliver name e).journal = _
    unfold deliver
    simp only [hr]
    rw [journal_tellAll]
    simp

/-! ### Sessions with their logs -/

/-- A run of calls of a repository, with the log of what its listeners heard. Between two calls
anything may happen that leaves the store of the repository alone. -/
inductive Logged (name : String) (d : Deployment) : List Heard → Deployment → Prop where
  /-- Nothing has happened. -/
  | begun : Logged name d [] d
  /-- Something else happened. -/
  | meanwhile {log : List Heard} {d' d'' : Deployment} (h : Logged name d log d')
      (hd : d''.stores.backing? name = d'.stores.backing? name) : Logged name d log d''
  /-- A call was made. -/
  | made {log : List Heard} {d' : Deployment} (h : Logged name d log d') (call : Backing.Call) :
      Logged name d (log ++ d'.heard name call) (d'.make name call)

/-- What is heard in a call leads from the entries before it to the entries after it. -/
theorem replayed_heard (hb : d.stores.backing? name = some b) (ht : b.Telling)
    {before : Entries} (hbefore : b.snapshot = .ok before) (call : Backing.Call) :
    ∃ after,
      (b.called d.stores.digest name d.stores.web d.stores.files call).2.2.snapshot = .ok after ∧
      replayed (d.heard name call) before = .ok after := by
  obtain ⟨after, hafter, hacc⟩ :=
    Backing.called_tells d.stores.digest name d.stores.web d.stores.files ht hbefore call
  refine ⟨after, hafter, ?_⟩
  unfold heard
  simp only [hb]
  generalize b.called d.stores.digest name d.stores.web d.stores.files call = r at hafter hacc
  obtain ⟨event, files, b'⟩ := r
  cases event with
  | none => exact congrArg Except.ok hacc.symm
  | some e =>
    have hread : (d.placed name files b').stores.snapshot name = .ok after := by
      rw [Stores.snapshot_eq (backing?_placed hb files b')]
      exact hafter
    show (e.replay _ before >>= fun known => pure known) = _
    rw [hread, hacc.replay]
    rfl

/-- In a session the store tells what happens to it, and the log leads from the entries at the
beginning to those that it has. -/
theorem Logged.replayed (hb : d.stores.backing? name = some b) {start : Entries}
    (hbegin : b.Begins start) {log : List Heard} (h : Logged name d log d') :
    ∃ b' entries, d'.stores.backing? name = some b' ∧ b'.Telling ∧
      b'.snapshot = .ok entries ∧ Admission.replayed log start = .ok entries := by
  -- the induction is on the run; each call appends to the log what it told
  induction h with
  | begun => exact ⟨b, start, hb, hbegin.telling, hbegin.snapshot, rfl⟩
  | meanwhile _ hd ih =>
    obtain ⟨b', entries, hb', h'⟩ := ih
    exact ⟨b', entries, hd.trans hb', h'⟩
  | made _ call ih =>
    obtain ⟨b', before, hb', ht, hbefore, hlog⟩ := ih
    obtain ⟨after, hafter, hheard⟩ := replayed_heard hb' ht hbefore call
    refine ⟨_, after, backing?_make hb' call, Backing.telling_stable.called _ _ _ _ ht call, hafter,
      ?_⟩
    unfold Admission.replayed at hlog hheard ⊢
    rw [List.foldlM_append, hlog]
    exact hheard

/-- In every state of a session, of a store in memory or at any location, the log of what was
told leads from the entries at the beginning to those in force. And every call that may come
next, successful or not, tells at most one event: the store is put in its place, its entries are
what the event says of those before it or the same if there is none, and then the event is
delivered, so that each listener that is called can read the new entries. This event and these
entries are what the log gets, and the event is what each recorder writes down, once. -/
theorem logged_faithful (hb : d.stores.backing? name = some b) {start : Entries}
    (hbegin : b.Begins start) {log : List Heard} (h : Logged name d log d') :
    ∃ entries, d'.stores.snapshot name = .ok entries ∧ Admission.replayed log start = .ok entries ∧
      ∀ call, ∃ event files b' after listeners,
        d'.make name call = (d'.placed name files b').deliverAny name event ∧
        (d'.make name call).stores.snapshot name = .ok after ∧
        Backing.Accounts name entries after event ∧
        d'.heard name call = (event.toList.map fun e => ⟨e, .ok after⟩) ∧
        d'.stores.listeners? name = some listeners ∧
        (d'.make name call).journal = (event.toList.flatMap fun e =>
          listeners.listeners.filterMap fun l => l.2.note? name e).reverse ++ d'.journal ∧
        ∀ e, event = some e → ∀ told rest, listeners.listeners = told ++ rest →
          (told.foldl (fun d l => d.tell name e l.2)
            (d'.placed name files b')).stores.snapshot name = .ok after := by
  obtain ⟨b', entries, hb', ht, hentries, hlog⟩ := h.replayed hb hbegin
  refine ⟨entries, (Stores.snapshot_eq hb').trans hentries, hlog, ?_⟩
  intro call
  obtain ⟨after, hafter, hacc⟩ := Backing.called_tells d'.stores.digest name d'.stores.web
    d'.stores.files ht hentries call
  obtain ⟨r, hr, -⟩ := Option.map_eq_some_iff.1 hb'
  have hlisteners : d'.stores.listeners? name = some r.listeners :=
    Option.map_eq_some_iff.2 ⟨r, hr, rfl⟩
  have hmade := make_eq hb' call
  -- the new store is in its place before anybody is told
  have hplaced := fun files => (Stores.snapshot_eq (backing?_placed hb' files _)).trans hafter
  refine ⟨_, _, _, after, r.listeners, hmade, ?_, hacc, ?_, hlisteners, ?_, ?_⟩
  · rw [Stores.snapshot_eq (backing?_make hb' call)]
    exact hafter
  · unfold heard
    simp only [hb', hplaced]
  · rw [hmade]
    exact journal_deliverAny ((listeners?_placed d' name _ _).trans hlisteners) _
  · intro e he told rest hsplit
    -- telling a listener changes no store
    rw [stores_tellAll]
    exact hplaced _

/-- An open repository whose levels are in a file. -/
def levelsWatched : Deployment where
  stores :=
    let files := ({} : Files).put ["t.p"] (.text "k=INFO\n")
    { files, repositories := KeyMap.empty.insert "levels" (.recorded (.file
        (FileStore.openStore .down files { settings := { url := some "t.p" } }).2)) }

/-- After a key was set. -/
def levelsSet : Deployment := levelsWatched.make "levels" (.change (.set "b" "ERROR"))

/-- After the file was edited from outside as well. -/
def levelsEdited : Deployment := (levelsSet.touch (·.replace "t.p" (.text "k=DEBUG\n"))).2

/-- An edit from outside that a poll cycle has found is in the log as well as the change before
it. -/
theorem logged_faithful_edited :
    ∃ entries, (levelsEdited.make "levels" .cycle).stores.snapshot "levels" = .ok entries ∧
      Admission.replayed (levelsWatched.heard "levels" (.change (.set "b" "ERROR")) ++
        levelsEdited.heard "levels" .cycle) (Document.parse "k=INFO\n").entries = .ok entries ∧
      entries.get? "k" = some "DEBUG" ∧ entries.get? "b" = none := by
  have hopened : (FileStore.openStore .down (({} : Files).put ["t.p"] (.text "k=INFO\n"))
      { settings := { url := some "t.p" } }).2.opened =
      some (.ofReading (.path "t.p") (.ofFile "k=INFO\n" ⟨.text "k=INFO\n", 0⟩)) := by
    decide +kernel
  have hbegin := Backing.Begins.file hopened
  have hset : Logged "levels" levelsWatched
      (levelsWatched.heard "levels" (.change (.set "b" "ERROR"))) levelsSet :=
    Logged.begun.made (.change (.set "b" "ERROR"))
  have hedited : levelsEdited.stores.backing? "levels" = levelsSet.stores.backing? "levels" := by
    decide +kernel
  obtain ⟨entries, hs, hlog, -⟩ :=
    logged_faithful rfl hbegin ((hset.meanwhile hedited).made .cycle)
  refine ⟨entries, hs, hlog, ?_⟩
  have hfinal : ((levelsEdited.make "levels" .cycle).stores.snapshot "levels").toOption =
      some (KeyMap.empty.insert "k" "DEBUG") := by
    decide +kernel
  rw [hs] at hfinal
  rw [Option.some.inj hfinal]
  decide

end Deployment

end Admission

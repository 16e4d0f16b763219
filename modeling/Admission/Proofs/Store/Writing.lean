import Admission.Proofs.Document.Reread
import Admission.Proofs.Store.Session

/-!
# Writing — what a change leaves in the file

  A change is made on the document that the store has in hand, and the file is replaced
  by the text of the new document. So what is in the file afterwards is what the store
  knew, changed: `read_written` says that the entries of the new text are the entries
  of the store with the change applied to them, up to a carriage return at the end of a
  value, which is lost when a line is written.

  Nothing here asks what the file held before. What the store has in hand is a document
  that means what it says (`Keeps`), however the files were changed meanwhile.
-/

namespace Admission

/-! ### Changes of entries -/

namespace Change

/-- The entries after a change. -/
def applied (entries : Entries) : Change → Entries
  | set key value => entries.insert key value
  | remove key => entries.erase key
  | clear => KeyMap.empty

/-- Whether a change concerns a key. -/
def concerns (key : String) : Change → Bool
  | set k _ => k == key
  | remove k => k == key
  | clear => true

/-- The value that a change gives to the keys that it concerns. -/
def value? : Change → Option String
  | set _ value => some value
  | _ => none

theorem get?_applied (c : Change) (entries : Entries) (key : String) :
    (c.applied entries).get? key = if c.concerns key then c.value? else entries.get? key := by
  cases c with
  | set k value =>
    show (entries.insert k value).get? key = if k == key then some value else entries.get? key
    rw [KeyMap.get?_insert]
    by_cases h : key = k
    · simp [h]
    · simp [h, Ne.symm h]
  | remove k =>
    show (entries.erase k).get? key = if k == key then none else entries.get? key
    rw [KeyMap.get?_erase]
    by_cases h : key = k
    · simp [h]
    · simp [h, Ne.symm h]
  | clear => rfl

variable {source : String} {d d' : Document} {c : Change} {event : ChangeEvent}

/-- A change comes to nothing only if there is nothing that it could take away. -/
theorem of_onDocument_none (h : c.onDocument source d = none) :
    c.value? = none ∧ ∀ key, c.concerns key = true → d.entries.get? key = none := by
  cases c with
  | set k value => cases h
  | remove k =>
    refine ⟨rfl, fun key hk => ?_⟩
    have hkey : k = key := by simpa [concerns] using hk
    rw [onDocument_remove] at h
    split at h
    · cases h
    · next hnone =>
      rw [Document.get?_entries, ← hkey]
      simpa using hnone
  | clear =>
    refine ⟨rfl, fun key _ => ?_⟩
    rw [onDocument_clear] at h
    split at h
    · cases h
    · next hnone =>
      rw [Document.hasEntries_eq, Bool.not_eq_true', Bool.not_eq_false] at hnone
      exact (KeyMap.isEmpty_iff_get? _).1 hnone key

/-- An entry that passes its check can be stored. -/
theorem storable_of_check {key value : String} (h : (set key value).check = .ok ()) :
    isStorableKey key = true ∧ isStorableValue value = true := by
  simp only [check, checkEntry] at h
  split at h
  · cases h
  · next hkey =>
    split at h
    · cases h
    · next hvalue => exact ⟨by simpa using hkey, by simpa using hvalue⟩

/-- The value of a change that passes its check is read back as it is. -/
theorem withoutReturn_value? (h : c.check = .ok ()) {value : String} (hv : c.value? = some value) :
    Text.withoutReturn value = value := by
  cases c with
  | set key v =>
    cases hv
    exact Line.withoutReturn_of_isStorableValue (storable_of_check h).2
  | remove key => cases hv
  | clear => cases hv

end Change

/-! ### Changes of documents -/

namespace Document

/-- The document after a change. -/
def edit (d : Document) : Change → Document
  | .set key value => d.set key value
  | .remove key => d.remove key
  | .clear => d.clear

/-- A change does to the entries of a document what it says. -/
theorem entries_edit (d : Document) (c : Change) : (d.edit c).entries = c.applied d.entries := by
  cases c with
  | set key value => exact entries_set d key value
  | remove key => exact entries_remove d key
  | clear => exact entries_clear d

/-- A change that passes its check leaves a document that means what it says. -/
theorem Sound.edit {d : Document} (h : d.Sound) {c : Change} (hc : c.check = .ok ()) :
    (d.edit c).Sound := by
  cases c with
  | set key value =>
    obtain ⟨hkey, hvalue⟩ := Change.storable_of_check hc
    have hreads : Line.KeyReads key := Line.keyReads_of_isStorableKey hkey
    exact h.set hreads (Line.valueReads_of_isStorableValue hvalue)
  | remove key => exact h.remove key
  | clear => exact h.clear

end Document

namespace Change

variable {source : String} {d d' : Document} {c : Change} {event : ChangeEvent}

/-- A change that comes to something leaves the edited document. -/
theorem edit_of_onDocument (h : c.onDocument source d = some (event, d')) : d' = d.edit c := by
  cases c with
  | set key value =>
    rw [onDocument_set] at h
    have hpair := Option.some.inj h
    exact (congrArg Prod.snd hpair).symm
  | remove key =>
    rw [onDocument_remove] at h
    split at h
    · exact (congrArg Prod.snd (Option.some.inj h)).symm
    · cases h
  | clear =>
    rw [onDocument_clear] at h
    split at h
    · exact (congrArg Prod.snd (Option.some.inj h)).symm
    · cases h

theorem entries_of_onDocument (h : c.onDocument source d = some (event, d')) :
    d'.entries = c.applied d.entries := by
  rw [edit_of_onDocument h, Document.entries_edit]

theorem sound_of_onDocument (hd : d.Sound) (hc : c.check = .ok ())
    (h : c.onDocument source d = some (event, d')) : d'.Sound := by
  rw [edit_of_onDocument h]
  exact hd.edit hc

end Change

/-- A change that succeeds has passed its check. -/
theorem FileStore.check_of_change {source : String} {c : Change} {fs : Files} {s : FileStore}
    {event : Option ChangeEvent} (h : (s.change source c fs).1 = .ok event) :
    c.check = .ok () := by
  unfold change at h
  cases hc : c.check with
  | ok u => rfl
  | error cause => simp only [hc] at h; cases h

/-! ### What a store has in hand -/

namespace Session

/-- The store is open at a path with a document that means what it says, and has the entries
of it in hand. -/
structure Keeps (path : String) (s : Session) (o : OpenFile) : Prop where
  /-- The store is open. -/
  opened : s.store.opened = some o
  /-- It is at the path. -/
  location : o.location = .path path
  /-- Its entries are those of its document. -/
  entries : o.entries = o.document.entries
  /-- Every line of its document means what it says. -/
  sound : o.document.Sound

variable {digest : Digest} {source path : String} {s : Session} {o : OpenFile}

theorem Keeps.snapshot (h : Keeps path s o) : s.store.snapshot = .ok o.entries := by
  unfold FileStore.snapshot
  rw [h.opened]

theorem Begun.keeps (h : s.Begun path) : ∃ o, Keeps path s o := by
  obtain ⟨f, t, -, -, ho⟩ := h.opened
  exact ⟨_, ho, rfl, rfl, Document.sound_parse t⟩

variable (digest) in
/-- What a change comes to that succeeds: it comes to nothing, or the file holds the text of the
new document, which the store then has in hand. -/
theorem Keeps.change_cases (h : Keeps path s o) {c : Change} {event : Option ChangeEvent}
    (hok : (s.store.change source c s.files).1 = .ok event) :
    (event = none ∧ c.onDocument source o.document = none ∧
      s.step digest source (.change c) = (none, s)) ∨
    ∃ e document after, event = some e ∧
      c.onDocument source o.document = some (e, document) ∧
      after.findFile path = .ok ⟨.text document.render, s.files.clock⟩ ∧
      s.step digest source (.change c) = (some e, { s with files := after, store :=
        { s.store with opened := some (o.written document
          (.ofFile document.render ⟨.text document.render, s.files.clock⟩)) } }) := by
  have hc := FileStore.check_of_change hok
  simp only [step]
  unfold FileStore.change at hok ⊢
  simp only [hc, h.opened, h.location] at hok ⊢
  cases hd : c.onDocument source o.document with
  | none =>
    simp only [hd] at hok ⊢
    cases hok
    exact .inl ⟨rfl, trivial, rfl⟩
  | some p =>
    obtain ⟨e, document⟩ := p
    simp only [hd] at hok ⊢
    cases hw : FileStore.write s.files path document.render with
    | error cause => simp only [hw] at hok; cases hok
    | ok after =>
      simp only [hw] at hok ⊢
      cases hok
      -- what was written is read off the file itself
      have hfile := FileStore.write_eq_ok hw
      refine .inr ⟨e, document, after, rfl, rfl, hfile, ?_⟩
      unfold FileStore.readingOf
      rw [hfile]
      rfl

variable (digest source) in
/-- Whatever happens, an open store goes on to have a document in hand that means what it
says. -/
theorem Keeps.step (h : Keeps path s o) (act : Act) :
    ∃ o', Keeps path (s.step digest source act).2 o' := by
  cases act with
  | outside files => exact ⟨o, h.opened, h.location, h.entries, h.sound⟩
  | cycle =>
    rcases cycle_cases digest source h.opened h.location with ⟨-, he⟩ |
      ⟨-, ⟨f, t, -, -, ⟨-, he⟩ | ⟨-, he⟩⟩ | ⟨-, ⟨-, he⟩ | ⟨-, cause, he⟩⟩⟩
    · rw [he]
      exact ⟨o, h⟩
    · rw [he]
      exact ⟨_, rfl, h.location, h.entries, h.sound⟩
    · rw [he]
      exact ⟨_, rfl, rfl, rfl, Document.sound_parse t⟩
    · rw [he]
      exact ⟨o, h⟩
    · rw [he]
      exact ⟨_, rfl, h.location, h.entries, h.sound⟩
  | change c =>
    cases hout : (s.store.change source c s.files).1 with
    | error cause =>
      have he := FileStore.change_error hout
      simp only [Session.step, he]
      exact ⟨o, h⟩
    | ok event =>
      rcases h.change_cases digest hout with ⟨-, -, he⟩ |
        ⟨e, document, after, -, hd, -, he⟩
      · rw [he]
        exact ⟨o, h⟩
      · rw [he]
        exact ⟨_, rfl, h.location, rfl,
          Change.sound_of_onDocument h.sound (FileStore.check_of_change hout) hd⟩

variable (digest source) in
theorem Keeps.after (h : Keeps path s o) (acts : List Act) :
    ∃ o', Keeps path (s.after digest source acts) o' := by
  induction acts generalizing s o with
  | nil => exact ⟨o, h⟩
  | cons act rest ih =>
    obtain ⟨o', h'⟩ := h.step digest source act
    exact ih h'

/-! ### What was written -/

/-- The text of a changed document is read back as the entries of the store with the change
applied to them. -/
theorem Keeps.read_written (h : Keeps path s o) {c : Change} (hc : c.check = .ok ())
    {e : ChangeEvent} {document : Document}
    (hd : c.onDocument source o.document = some (e, document)) :
    (Document.parse document.render).entries = (c.applied o.entries).withoutReturns := by
  rw [h.entries, ← Change.entries_of_onDocument hd]
  exact (Change.sound_of_onDocument h.sound hc hd).entries_reread

end Session

end Admission

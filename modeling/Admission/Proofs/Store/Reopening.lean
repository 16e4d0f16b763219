import Admission.Proofs.Store.Writing

/-!
# Reopening — what of a store's own changes is there after it was closed

  Closing a store forgets what it had in hand, and opening it again reads the file. As
  long as nobody else touches the file it holds the text that the store read or wrote
  last (`Holds`), so once the store has written it the entries come back, each without
  the carriage return that may stand at the end of its value.

  Only a value that was in the file from the beginning can end with a return, since
  `checkEntry` refuses to store one. `reopened_snapshot` puts this together: what the
  store's own changes wrote survives, and the snapshot as a whole survives exactly if
  no value in force ends with a return.
-/

namespace Admission

namespace Session

/-! ### Closing and opening again -/

/-- The store is closed and opened again; tells whether this succeeds. -/
def reopened (s : Session) : Except Fault Unit × Session :=
  let (outcome, store) := s.store.closeStore.openStore s.web s.files
  (outcome, { s with store })

/-- Whether something that happens is the store's own doing. -/
def Act.isOwn : Act → Bool
  | .outside _ => false
  | _ => true

/-- In the course of a run a change was told, and so the file was written. -/
def Writes (digest : Digest) (source : String) (s : Session) (acts : List Act) : Prop :=
  ∃ before c rest, acts = before ++ .change c :: rest ∧
    ((s.after digest source before).step digest source (.change c)).1 ≠ none

/-! ### What the file holds -/

/-- Settings whose location is a path. -/
def Located (path : String) (settings : FileSettings) : Prop :=
  ∃ url, settings.location? = some url ∧
    Location.resolve url settings.resources = .ok (.path path)

/-- The file of an open store holds the text that the store read or wrote last, and what ends
with a return among the entries of the store was among the entries at the beginning. -/
structure Holds (initial : Entries) (path : String) (s : Session) (o : OpenFile) : Prop
    extends Keeps path s o where
  /-- The store can be opened at the path again. -/
  located : Located path s.store.settings
  /-- The file has the text, the stamp and the size that were seen last. -/
  file : ∃ f, s.files.findFile path = .ok f ∧ f.content.text? = .ok o.seen.text ∧
    o.seen = .ofFile o.seen.text f
  /-- A value with a return at its end is an old one. -/
  returns : ∀ key value, o.entries.get? key = some value →
    value.toList.getLast? = some '\r' → initial.get? key = some value

variable {digest : Digest} {source path : String} {s : Session} {o : OpenFile}
  {initial : Entries}

theorem Begun.located (h : s.Begun path) : Located path s.store.settings := by
  obtain ⟨url, r, hurl, hresolve, -, -⟩ := h.loaded
  exact ⟨url, hurl, hresolve⟩

theorem Begun.holds (h : s.Begun path) :
    ∃ o, Holds o.entries path s o ∧ s.store.snapshot = .ok o.entries := by
  obtain ⟨f, t, hf, ht, ho⟩ := h.opened
  have hkeeps : Keeps path s (.ofReading (.path path) (.ofFile t f)) :=
    ⟨ho, rfl, rfl, Document.sound_parse t⟩
  exact ⟨_, ⟨hkeeps, h.located, ⟨f, hf, ht, rfl⟩, fun _ _ hv _ => hv⟩, hkeeps.snapshot⟩

/-- A change that passes its check brings no value with a return at its end. -/
theorem returns_applied {c : Change} (hc : c.check = .ok ()) {entries : Entries}
    (h : ∀ key value, entries.get? key = some value →
      value.toList.getLast? = some '\r' → initial.get? key = some value) :
    ∀ key value, (c.applied entries).get? key = some value →
      value.toList.getLast? = some '\r' → initial.get? key = some value := by
  intro key value hv hlast
  rw [Change.get?_applied] at hv
  split at hv
  · have hkeep := Change.withoutReturn_value? hc hv
    exact absurd hlast ((Text.withoutReturn_eq_self_iff value).1 hkeep)
  · exact h key value hv hlast

variable (digest source) in
/-- What the store does itself is in the file: it does nothing, or the file holds the text of
the document that it has in hand then. -/
theorem Holds.step (h : Holds initial path s o) {act : Act} (hown : act.isOwn = true) :
    s.step digest source act = (none, s) ∨
    ∃ o', Holds initial path (s.step digest source act).2 o' ∧
      o'.document.render = o'.seen.text := by
  cases act with
  | outside files => cases hown
  | cycle =>
    -- the file looks as it did when it was seen last
    left
    obtain ⟨f, hf, -, hseen⟩ := h.file
    have hlooks : FileStore.looksUnchanged s.files o = true := by
      rw [FileStore.looksUnchanged_path h.location]
      refine ⟨f, hf, ?_, ?_⟩
      · rw [hseen]; rfl
      · rw [hseen]; rfl
    rcases cycle_cases digest source h.opened h.location with ⟨-, he⟩ | ⟨hu, -⟩
    · exact he
    · rw [hlooks] at hu
      cases hu
  | change c =>
    cases hout : (s.store.change source c s.files).1 with
    | error cause =>
      left
      simp only [Session.step, FileStore.change_error hout]
      rfl
    | ok event =>
      have hc := FileStore.check_of_change hout
      rcases h.change_cases digest hout with ⟨-, -, he⟩ |
        ⟨e, document, after, -, hd, hfile, he⟩
      · exact .inl he
      · right
        have hentries : document.entries = c.applied o.entries := by
          rw [Change.entries_of_onDocument hd, h.entries]
        rw [he]
        refine ⟨_, ⟨⟨rfl, h.location, rfl, Change.sound_of_onDocument h.sound hc hd⟩,
          h.located, ⟨_, hfile, rfl, rfl⟩, ?_⟩, rfl⟩
        show ∀ key value, document.entries.get? key = some value → _
        rw [hentries]
        exact returns_applied hc h.returns

variable (digest source) in
/-- So it is along a whole run of what the store does itself. -/
theorem Holds.after (h : Holds initial path s o) {acts : List Act}
    (hown : ∀ act ∈ acts, act.isOwn = true) :
    ∃ o', Holds initial path (s.after digest source acts) o' ∧
      (o.document.render = o.seen.text → o'.document.render = o'.seen.text) := by
  induction acts generalizing s o with
  | nil => exact ⟨o, h, id⟩
  | cons act rest ih =>
    have hrest : ∀ a ∈ rest, a.isOwn = true := fun a ha => hown a (List.mem_cons_of_mem _ ha)
    show ∃ o', Holds initial path ((s.step digest source act).2.after digest source rest) o' ∧ _
    rcases h.step digest source (hown act List.mem_cons_self) with
      he | ⟨o', h', hw⟩
    · rw [he]
      exact ih h hrest
    · obtain ⟨o'', h'', hw'⟩ := ih h' hrest
      exact ⟨o'', h'', fun _ => hw' hw⟩

/-- A store that has written its file reads back, when it is opened again, what it had in hand,
without the returns at the ends of values. -/
theorem Holds.reopened (h : Holds initial path s o) (hw : o.document.render = o.seen.text) :
    s.reopened.1 = .ok () ∧ s.reopened.2.store.snapshot = .ok o.entries.withoutReturns := by
  obtain ⟨url, hurl, hresolve⟩ := h.located
  obtain ⟨f, hf, ht, -⟩ := h.file
  have hload : FileStore.load s.web s.files s.store.closeStore.settings =
      .ok (.ofReading (.path path) (.ofFile o.seen.text f)) :=
    FileStore.load_path s.web hurl hresolve (Location.read_path_eq_ok.2 ⟨f, _, hf, ht, rfl⟩)
  have hentries : (Document.parse o.seen.text).entries = o.entries.withoutReturns := by
    rw [← hw, h.entries]
    exact h.sound.entries_reread
  unfold Session.reopened FileStore.openStore
  rw [hload]
  refine ⟨rfl, ?_⟩
  rw [← hentries]
  rfl

theorem after_append (digest : Digest) (source : String) (s : Session) (xs ys : List Act) :
    s.after digest source (xs ++ ys) = (s.after digest source xs).after digest source ys :=
  List.foldl_append

/-- After a run of its own changes and of poll cycles, at least one change of which wrote the
file, a store that is closed can be opened again and has the entries that it had, each without
the carriage return at the end of its value. Only a value that was there at the beginning can
have one, and the snapshot is the same exactly if none has. -/
theorem reopened_snapshot (hb : s.Begun path) {acts : List Act}
    (hown : ∀ act ∈ acts, act.isOwn = true) (hw : Writes digest source s acts) :
    ∃ initial entries, s.store.snapshot = .ok initial ∧
      (s.after digest source acts).store.snapshot = .ok entries ∧
      (s.after digest source acts).reopened.1 = .ok () ∧
      (s.after digest source acts).reopened.2.store.snapshot = .ok entries.withoutReturns ∧
      (∀ key value, entries.get? key = some value → value.toList.getLast? = some '\r' →
        initial.get? key = some value) ∧
      ((s.after digest source acts).reopened.2.store.snapshot = .ok entries ↔
        ∀ key value, entries.get? key = some value → value.toList.getLast? ≠ some '\r') := by
  obtain ⟨before, c, rest, rfl, htold⟩ := hw
  obtain ⟨o₀, h₀, hinitial⟩ := hb.holds
  -- up to the change, over it, and on to the end
  obtain ⟨o₁, h₁, -⟩ := h₀.after digest source
    fun a ha => hown a (List.mem_append_left _ ha)
  rcases h₁.step digest source (show (Act.change c).isOwn = true from rfl) with
    he | ⟨o₂, h₂, hw₂⟩
  · rw [he] at htold
    exact absurd rfl htold
  · obtain ⟨o, h, hwritten⟩ := h₂.after digest source
      fun a (ha : a ∈ rest) => hown a (List.mem_append_right _ (List.mem_cons_of_mem _ ha))
    rw [after_append]
    obtain ⟨hopened, hsnapshot⟩ := h.reopened (hwritten hw₂)
    refine ⟨o₀.entries, o.entries, hinitial, h.snapshot, hopened, hsnapshot, h.returns, ?_⟩
    rw [← KeyMap.withoutReturns_eq_self_iff]
    exact ⟨fun hs => Except.ok.inj (hsnapshot.symm.trans hs), fun hs => hs ▸ hsnapshot⟩

/-- A store that was just opened at a file whose only line ends with a return. -/
def returnOpened : Session where
  files := ({} : Files).put ["t.p"] (.text "a=INFO\r")
  store := (FileStore.openStore .down (({} : Files).put ["t.p"] (.text "a=INFO\r"))
    { settings := { url := some "t.p" } }).2

/-- After another key was set, the first one comes back without its return. -/
theorem reopened_snapshot_returnLost :
    ∃ entries, (returnOpened.after Digest.plain "levels"
        [.change (.set "b" "ERROR")]).store.snapshot = .ok entries ∧
      entries.get? "a" = some "INFO\r" ∧
      (returnOpened.after Digest.plain "levels"
        [.change (.set "b" "ERROR")]).reopened.2.store.snapshot = .ok entries.withoutReturns ∧
      (returnOpened.after Digest.plain "levels"
        [.change (.set "b" "ERROR")]).reopened.2.store.snapshot ≠ .ok entries := by
  have hb : returnOpened.Begun "t.p" := by
    refine ⟨{ settings := { url := some "t.p" } }, .ofReading (.path "t.p")
      (.ofFile "a=INFO\r" ⟨.text "a=INFO\r", 0⟩), rfl, rfl, ?_, rfl⟩
    decide +kernel
  have hw : Writes Digest.plain "levels" returnOpened [.change (.set "b" "ERROR")] :=
    ⟨[], .set "b" "ERROR", [], rfl, by decide +kernel⟩
  obtain ⟨initial, entries, -, hs, -, hr, -, hiff⟩ :=
    reopened_snapshot hb (fun a ha => List.mem_singleton.1 ha ▸ rfl) hw
  have ha : entries.get? "a" = some "INFO\r" := by
    have hknown : (returnOpened.after Digest.plain "levels"
        [.change (.set "b" "ERROR")]).store.snapshot.toOption =
        some ((KeyMap.empty.insert "a" "INFO\r").insert "b" "ERROR") := by decide +kernel
    rw [hs] at hknown
    rw [Option.some.inj hknown]
    decide +kernel
  refine ⟨entries, hs, ha, hr, ?_⟩
  rw [Ne, hiff]
  intro hnone
  exact hnone "a" "INFO\r" ha (by decide +kernel)

end Session

end Admission

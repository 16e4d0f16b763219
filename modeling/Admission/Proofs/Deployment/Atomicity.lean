import Admission.Proofs.Deployment.Log
import Admission.Proofs.Files.Staging
import Admission.Proofs.Store.Session

/-!
# Atomicity — an edit is made as a whole or not at all

  A store at a path is edited in stages: the new text is put into a file next to the old
  one, that file takes the place of the old one, and only then the store follows and
  tells it. Here the stages are written out one by one (`FileStore.changeStaged`), with
  everything that can go wrong at each of them (`Mishaps`): the new file cannot be made,
  or it takes only a part of the text, the store is closed by somebody else before the
  file is moved, or the file cannot be moved.

  Without mishaps the stages come to what the store does (`changeStaged_eq_change`). In
  any case an edit comes to one of three things (`Edited`): it fails and leaves all as it
  was, it comes to nothing, or the file holds what the store has in hand and this is
  told.
-/

namespace Admission

/-! ### Mishaps -/

/-- What may go wrong while a file is replaced, apart from what the tree itself refuses. What a
device says is in its own words. -/
structure Mishaps where
  /-- No file can be made next to the old one. -/
  making : Option String := none
  /-- The new file cannot take the whole text; it holds something else then. -/
  filling : Option (Content × String) := none
  /-- Somebody closes the store before the new file is moved. -/
  closing : Bool := false
  /-- The new file cannot be moved. -/
  moving : Option String := none
  /-- The file cannot be looked at after it was moved. -/
  looking : Bool := false

namespace Mishaps

/-- What the new file holds when it has been filled. -/
def content (m : Mishaps) (text : String) : Content :=
  match m.filling with
  | some (content, _) => content
  | none => .text text

/-- The files with the new one next to the old one. -/
def lay (m : Mishaps) (fs : Files) (place : Place) (path text : String) : Except Fault Files :=
  match m.making with
  | some cause => .error (.stated .repository s!"failed to stage write for '{path}': {cause}")
  | none =>
    match fs.lay place (m.content text) with
    | .error cause => .error (.cannotStage path cause)
    | .ok laid => .ok laid

/-- The files after the new one took the place of the old one; `closed` is the fault of using
the store while it is closed. -/
def move (m : Mishaps) (closed : Fault) (laid : Files) (place : Place) (path : String) :
    Except Fault Files :=
  match m.filling with
  | some (_, cause) => .error (.stated .repository s!"failed to write '{path}': {cause}")
  | none =>
    if m.closing then .error closed
    else
      match m.moving with
      | some cause => .error (.stated .repository s!"failed to replace '{path}': {cause}")
      | none =>
        match laid.move place path with
        | .error cause => .error (.cannotReplace path cause)
        | .ok after => .ok after

/-- What is known of the file after it was moved. -/
def look (m : Mishaps) (fs : Files) (path text : String) : Reading :=
  if m.looking then { text } else FileStore.readingOf fs path text

/-- A store as others leave it, if it does nothing itself. -/
def left (m : Mishaps) (s : FileStore) : FileStore := if m.closing then s.closeStore else s

theorem look_text (m : Mishaps) (fs : Files) (path text : String) :
    (m.look fs path text).text = text := by
  unfold look FileStore.readingOf
  split
  · rfl
  · split
    · rfl
    · rfl

end Mishaps

/-! ### Edits in stages -/

namespace FileStore

/-- Whether a text took the place of a file, and the files in either case. The new file has the
name `staged` until then; it is dropped if it comes to a fault. -/
def writeStaged (staged : String) (m : Mishaps) (closed : Fault) (fs : Files)
    (path text : String) : Except Fault Unit × Files :=
  match fs.beside path staged with
  | .error cause => (.error (.cannotStage path cause), fs)
  | .ok place =>
    match m.lay fs place path text with
    | .error cause => (.error cause, fs)
    | .ok laid =>
      match m.move closed laid place path with
      | .error cause => (.error cause, laid.without place)
      | .ok after => (.ok (), after)

/-- A change of a store in stages: the event that tells it, if it comes to something, and the
files and the store after it. -/
def changeStaged (staged : String) (m : Mishaps) (source : String) (c : Change) (fs : Files)
    (s : FileStore) : Except Fault (Option ChangeEvent) × Files × FileStore :=
  match c.check with
  | .error cause => (.error cause, fs, m.left s)
  | .ok () =>
    match s.opened with
    | none => (.error s.closedFault, fs, m.left s)
    | some o =>
      match o.location with
      | .path path =>
        match c.onDocument source o.document with
        | none => (.ok none, fs, m.left s)
        | some (event, document) =>
          match writeStaged staged m s.closedFault fs path document.render with
          | (.error cause, fs) => (.error cause, fs, m.left s)
          | (.ok (), after) =>
            let o := o.written document (m.look after path document.render)
            (.ok (some event), after, { s with opened := some o })
      | location => (.error (.readOnlyStore location.shown), fs, m.left s)

variable {staged source path text : String} {m : Mishaps} {closed : Fault} {fs : Files}
  {s : FileStore} {c : Change}

/-- A file that is not replaced is left as it was, with nothing next to it; one that is replaced
holds the text. -/
theorem writeStaged_cases (staged : String) (m : Mishaps) (closed : Fault) (fs : Files)
    (path text : String) :
    (∃ cause, writeStaged staged m closed fs path text = (.error cause, fs)) ∨
    ∃ after, m.closing = false ∧ after.readText path = .ok text ∧
      writeStaged staged m closed fs path text = (.ok (), after) := by
  unfold writeStaged
  cases hb : fs.beside path staged with
  | error cause => exact .inl ⟨_, rfl⟩
  | ok place =>
    simp only
    cases hl : m.lay fs place path text with
    | error cause => exact .inl ⟨_, rfl⟩
    | ok laid =>
      have hlay : fs.lay place (m.content text) = .ok laid := by
        unfold Mishaps.lay at hl
        split at hl
        · cases hl
        · split at hl
          · cases hl
          · next h => cases hl; exact h
      simp only
      cases hm : m.move closed laid place path with
      | error cause =>
        -- whatever is in the new file, it is dropped
        exact .inl ⟨cause, by simp only [Files.without_lay hlay]⟩
      | ok after =>
        unfold Mishaps.move at hm
        split at hm
        · cases hm
        · next hfilling =>
          split at hm
          · cases hm
          · next hclosing =>
            split at hm
            · cases hm
            · split at hm
              · cases hm
              · next hmove =>
                cases hm
                have hcontent : m.content text = .text text := by
                  unfold Mishaps.content
                  rw [hfilling]
                rw [hcontent] at hlay
                have hfile := Files.findFile_eq_ok.2 (Files.find_move_lay hlay hmove)
                exact .inr ⟨_, by simpa using hclosing,
                  Files.readText_eq_ok.2 ⟨_, hfile, rfl⟩, rfl⟩

/-- Without mishaps, and with a spare name for the new file, a text takes the place of a file as
if that were done at once. -/
theorem writeStaged_eq_write (closed : Fault) (text : String)
    (hs : ∀ place, fs.beside path staged = .ok place → fs.Spare path place) :
    writeStaged staged {} closed fs path text =
      match write fs path text with
      | .error cause => (.error cause, fs)
      | .ok after => (.ok (), after) := by
  unfold writeStaged write
  rw [Files.stage_eq_beside fs path staged]
  cases hb : fs.beside path staged with
  | error cause => rfl
  | ok place =>
    have hspare := hs place hb
    have hlay : fs.lay place (.text text) = .ok
        { fs with nodes := fs.nodes.insert (Files.nameOf place) (.file ⟨.text text, fs.clock⟩) } := by
      unfold Files.lay
      rw [hspare.vacant]
    simp only [Mishaps.lay, Mishaps.content, Mishaps.move, Bool.false_eq_true, if_false, hlay,
      Files.move_lay hspare hlay, Except.map]
    cases fs.replace path (.text text) with
    | error cause => simp only [Files.without_lay hlay]
    | ok after => rfl

/-- Without mishaps, and with a spare name for the new file, the stages come to what the store
does. -/
theorem changeStaged_eq_change (source : String) (c : Change)
    (hs : ∀ o path place, s.opened = some o → o.location = .path path →
      fs.beside path staged = .ok place → fs.Spare path place) :
    s.changeStaged staged {} source c fs = s.change source c fs := by
  unfold changeStaged change
  cases c.check with
  | error cause => rfl
  | ok u =>
    cases ho : s.opened with
    | none => rfl
    | some o =>
      cases hl : o.location with
      | remote url => simp only [hl]; rfl
      | resource resource text => simp only [hl]; rfl
      | path path =>
        cases hd : c.onDocument source o.document with
        | none => simp only [hl, hd]; rfl
        | some p =>
          have hw := writeStaged_eq_write s.closedFault p.2.render
            fun place => hs o path place ho hl
          simp only [hl, hd, hw]
          cases write fs path p.2.render with
          | error cause => rfl
          | ok after => rfl

/-- What a change in stages comes to. -/
theorem changeStaged_cases (staged : String) (m : Mishaps) (source : String) (c : Change)
    (fs : Files) (s : FileStore) :
    (∃ cause, s.changeStaged staged m source c fs = (.error cause, fs, m.left s)) ∨
    s.changeStaged staged m source c fs = (.ok none, fs, m.left s) ∨
    ∃ o path event after, o.location = .path path ∧ o.entries = o.document.entries ∧
      o.seen.text = o.document.render ∧ after.readText path = .ok o.document.render ∧
      s.changeStaged staged m source c fs =
        (.ok (some event), after, { s with opened := some o }) := by
  unfold changeStaged
  cases c.check with
  | error cause => exact .inl ⟨cause, rfl⟩
  | ok u =>
    cases ho : s.opened with
    | none => exact .inl ⟨s.closedFault, rfl⟩
    | some o =>
      simp only
      split
      · next path hl =>
        cases hd : c.onDocument source o.document with
        | none => exact .inr (.inl rfl)
        | some p =>
          obtain ⟨event, document⟩ := p
          simp only
          rcases writeStaged_cases staged m s.closedFault fs path document.render with
            ⟨cause, he⟩ | ⟨after, -, hread, he⟩
          · exact .inl ⟨cause, by simp only [he]⟩
          · refine .inr (.inr ⟨o.written document (m.look after path document.render), path, event,
              after, hl, rfl, m.look_text after path document.render, hread, ?_⟩)
            simp only [he]
      · exact .inl ⟨_, rfl⟩

end FileStore

/-! ### Edits in a deployment -/

namespace Deployment

/-- A deployment as others leave it while one of its stores is edited. -/
def leftBy (m : Mishaps) (name : String) (d : Deployment) : Deployment :=
  if m.closing then { d with stores := d.stores.closeStore name } else d

/-- A change in stages of a repository that has a store at a location. -/
def changeStaged (staged : String) (m : Mishaps) (name : String) (c : Change) (d : Deployment) :
    Reply × Deployment :=
  match d.stores.backing? name with
  | some (.file s) =>
    let (outcome, files, s) := s.changeStaged staged m name c d.stores.files
    (d.placed name files (.file s)).settle name outcome
  | _ => d.change name c

/-- What an edit of a store at a location comes to, where `left` is what others leave of the
deployment. -/
inductive Edited (d : Deployment) (name : String) (s : FileStore) (left : Deployment) :
    Reply × Deployment → Prop where
  /-- It failed, and nothing was done or told. -/
  | failed (cause : Fault) : Edited d name s left (.failed cause, left)
  /-- It came to nothing, which is not told. -/
  | nothing : Edited d name s left (.done, left)
  /-- An event was told; the file holds the text of the document that the store has in hand, and
  the entries are those of the document. -/
  | told {o : OpenFile} {path : String} {files : Files} (event : ChangeEvent)
      (location : o.location = .path path) (text : files.readText path = .ok o.document.render)
      (seen : o.seen.text = o.document.render) (entries : o.entries = o.document.entries) :
      Edited d name s left
        (.done, (d.placed name files (.file { s with opened := some o })).deliver name event)

variable {d left : Deployment} {name : String} {s : FileStore}

/-- After an edit that failed nothing was done or told. -/
theorem Edited.of_failed {r : Reply × Deployment} (h : Edited d name s left r) {cause : Fault}
    (hr : r.1 = .failed cause) : r.2 = left := by
  cases h with
  | failed cause => rfl
  | nothing => cases hr
  | told event location text seen entries => cases hr

theorem placed_left (hs : d.stores.backing? name = some (.file s)) (m : Mishaps) :
    d.placed name d.stores.files (.file (m.left s)) = d.leftBy m name := by
  unfold Mishaps.left leftBy
  cases m.closing with
  | false => exact placed_self hs
  | true =>
    -- putting the closed store there is closing the store that is there
    obtain ⟨x, hx, hb⟩ := Option.map_eq_some_iff.1 hs
    unfold placed Stores.putBacking Stores.closeStore Stores.modify
    simp only [if_true, hx, hb]
    rfl

/-- An edit of a store at a location fails and leaves the whole deployment as it was, files,
stores, selectors and journal; or it comes to nothing; or it is told, and then the file holds the
text of the document that the store has in hand, whose entries it has. The same holds of its
stages, whatever goes wrong at each of them, only that the store is closed then if somebody else
closed it; and without mishaps, and with a spare name, the stages come to the edit itself. -/
theorem change_atomic (hs : d.stores.backing? name = some (.file s)) (c : Change) :
    Edited d name s d (d.change name c) ∧
    (∀ staged m, Edited d name s (d.leftBy m name) (d.changeStaged staged m name c)) ∧
    ∀ staged, (∀ o path place, s.opened = some o → o.location = .path path →
      d.stores.files.beside path staged = .ok place → d.stores.files.Spare path place) →
      d.changeStaged staged {} name c = d.change name c := by
  have hchange : d.change name c =
      (d.placed name (s.change name c d.stores.files).2.1
        (.file (s.change name c d.stores.files).2.2)).settle name
        (s.change name c d.stores.files).1 := by
    unfold change
    rw [hs]
    rfl
  have hstaged : ∀ staged m, d.changeStaged staged m name c =
      (d.placed name (s.changeStaged staged m name c d.stores.files).2.1
        (.file (s.changeStaged staged m name c d.stores.files).2.2)).settle name
        (s.changeStaged staged m name c d.stores.files).1 := by
    intro staged m
    unfold changeStaged
    rw [hs]
  refine ⟨?_, ?_, ?_⟩
  · -- the edit itself
    rw [hchange]
    rcases s.change_cases name c d.stores.files with ⟨cause, he⟩ | he |
      ⟨o, path, event, document, after, -, hl, -, hw, he⟩
    · rw [he]
      simp only [placed_self hs]
      exact .failed cause
    · rw [he]
      simp only [placed_self hs]
      exact .nothing
    · rw [he]
      have hread := Files.readText_eq_ok.2 ⟨_, FileStore.write_eq_ok hw, rfl⟩
      exact .told (o := o.written document (FileStore.readingOf after path document.render)) event
        hl hread (Mishaps.look_text {} after path document.render) rfl
  · -- its stages, where a mishap may have come between
    intro staged m
    rw [hstaged]
    rcases FileStore.changeStaged_cases staged m name c d.stores.files s with ⟨cause, he⟩ | he |
      ⟨o, path, event, after, hl, hentries, hseen, hread, he⟩
    · rw [he]
      simp only [placed_left hs]
      exact .failed cause
    · rw [he]
      simp only [placed_left hs]
      exact .nothing
    · rw [he]
      exact .told event hl hread hseen hentries
  · intro staged hspare
    rw [hstaged, hchange, FileStore.changeStaged_eq_change name c hspare]

/-- A deployment with one repository, which was just opened at a file with one level. -/
def levelsDeployed : Deployment :=
  ({ stores := { files := Session.levelsOpened.files } } : Deployment).addRepository "levels"
    (.file Session.levelsOpened.store)

/-- An edit for which there is no room left fails and leaves the deployment as it was; where
there is room, its stages come to the edit itself. -/
theorem change_atomic_noRoom :
    levelsDeployed.changeStaged ".new" { moving := some "Disk quota exceeded (os error 122)" }
        "levels" (.set "k" "ERROR") =
      (.failed (.stated .repository
        "failed to replace 't.p': Disk quota exceeded (os error 122)"), levelsDeployed) ∧
    levelsDeployed.changeStaged ".new" {} "levels" (.set "k" "ERROR") =
      levelsDeployed.change "levels" (.set "k" "ERROR") ∧
    (levelsDeployed.change "levels" (.set "k" "ERROR")).2.stores.files.readText "t.p" =
      .ok "k=ERROR\n" := by
  have hs : levelsDeployed.stores.backing? "levels" = some (.file Session.levelsOpened.store) := rfl
  obtain ⟨-, hstaged, hequal⟩ := change_atomic hs (.set "k" "ERROR")
  have hreply : (levelsDeployed.changeStaged ".new"
      { moving := some "Disk quota exceeded (os error 122)" } "levels" (.set "k" "ERROR")).1 =
      .failed (.stated .repository
        "failed to replace 't.p': Disk quota exceeded (os error 122)") := by
    decide +kernel
  refine ⟨Prod.ext hreply ((hstaged _ _).of_failed hreply), hequal ".new" ?_, ?_⟩
  · intro o path place ho hl hplace
    have hopened : Session.levelsOpened.store.opened =
        some (.ofReading (.path "t.p") (.ofFile "k=INFO\n" ⟨.text "k=INFO\n", 0⟩)) := by
      decide +kernel
    rw [hopened] at ho
    cases ho
    cases hl
    have hnew : levelsDeployed.stores.files.beside "t.p" ".new" = .ok [".new"] := rfl
    rw [hnew] at hplace
    cases hplace
    exact ⟨by decide +kernel, by decide +kernel⟩
  · rfl

end Deployment

end Admission

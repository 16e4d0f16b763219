import Admission.Proofs.Store.Session

/-!
# Outages — what is told when a file cannot be read

  That a file cannot be read is told at the beginning of an outage and not again while it
  lasts. A store keeps one flag for this. The flag is raised when an outage is told, and
  lowered when a cycle reads the file; a cycle that takes the file to be unchanged does
  neither, and neither does a change of the store's own.

  So the flag speaks of the last cycle that looked into the file, not of the last cycle,
  and an outage goes untold if it begins with a file that looks unchanged, or after
  cycles that found the file readable without looking into it. Nothing else goes wrong:
  `edgeTriggered_iff` says that every run without such an outage tells exactly its
  outages.
-/

namespace Admission

namespace Session

/-! ### Visits -/

/-- A poll cycle in the course of a session. -/
structure Visit where
  /-- Whether the file could not be read. -/
  unreadable : Bool
  /-- Whether the cycle looked into the file, because it does not look as it did. -/
  looked : Bool
  /-- Whether an error was told. -/
  told : Bool
  deriving DecidableEq, Repr

/-- The poll cycle that is made in a session now. -/
def visit (digest : Digest) (source path : String) (s : Session) : Visit where
  unreadable := !(s.files.readText path).isOk
  looked := s.store.opened.any fun o => !FileStore.looksUnchanged s.files o
  told := (s.step digest source .cycle).1.any fun e => e.kind == .failed

/-- The poll cycles of a run, first one first. -/
def visits (digest : Digest) (source path : String) (s : Session) : List Act → List Visit
  | [] => []
  | .cycle :: rest =>
    s.visit digest source path :: visits digest source path (s.step digest source .cycle).2 rest
  | act :: rest => visits digest source path (s.step digest source act).2 rest

/-- Whether the last cycle that looked into the file could not read it. -/
def lastLookFailed (log : List Visit) : Bool :=
  log.foldl (fun failed v => if v.looked then v.unreadable else failed) false

theorem lastLookFailed_concat (log : List Visit) (v : Visit) :
    lastLookFailed (log ++ [v]) = if v.looked then v.unreadable else lastLookFailed log := by
  unfold lastLookFailed
  rw [List.foldl_append]
  rfl

/-- Whether a cycle begins an outage: it cannot read the file, and the cycle before it, if there
is one, could. -/
def Begins (before : List Visit) (v : Visit) : Prop :=
  v.unreadable = true ∧ ∀ p, before.getLast? = some p → p.unreadable = false

/-- Errors are told by the cycles that begin an outage, and by no others. -/
def EdgeTriggered (log : List Visit) : Prop :=
  ∀ before v rest, log = before ++ v :: rest → (v.told = true ↔ Begins before v)

/-- Every outage is noticed: its first cycle looks into the file, and the last one that did so
before it could read the file. -/
def Noticed (log : List Visit) : Prop :=
  ∀ before v rest, log = before ++ v :: rest → Begins before v →
    v.looked = true ∧ lastLookFailed before = false

/-- What a store tells: a cycle tells an error exactly if it looks into a file that it cannot
read, and the last cycle that looked could. -/
def TellsByLooking (log : List Visit) : Prop :=
  ∀ before v rest, log = before ++ v :: rest →
    (v.told = true ↔ v.unreadable = true ∧ v.looked = true ∧ lastLookFailed before = false)

/-! ### The flag of a store -/

/-- The store is open at a path, and its flag is up exactly if the last cycle that looked could
not read the file. -/
def Flagged (path : String) (s : Session) (log : List Visit) : Prop :=
  ∃ o, s.store.opened = some o ∧ o.location = .path path ∧ o.failing = lastLookFailed log

variable {digest : Digest} {source path : String} {s : Session} {log : List Visit}

theorem Begun.flagged (h : s.Begun path) : Flagged path s [] := by
  obtain ⟨f, t, -, -, ho⟩ := h.opened
  exact ⟨_, ho, rfl, rfl⟩

theorem unreadable_of_read (digest : Digest) (source : String) {t : String}
    (h : s.files.readText path = .ok t) :
    (s.visit digest source path).unreadable = false := by
  show (!(s.files.readText path).isOk) = false
  rw [h]
  rfl

theorem unreadable_of_unread (digest : Digest) (source : String)
    (h : ∀ t, s.files.readText path ≠ .ok t) :
    (s.visit digest source path).unreadable = true := by
  show (!(s.files.readText path).isOk) = true
  cases hr : s.files.readText path with
  | ok t => exact absurd hr (h t)
  | error cause => rfl

/-- A cycle tells an error exactly if it looks in vain and the flag is down, and the flag then
speaks of this cycle if it looked. -/
theorem Flagged.cycle (digest : Digest) (source : String) (h : Flagged path s log) :
    ((s.visit digest source path).told = true ↔
      (s.visit digest source path).unreadable = true ∧
      (s.visit digest source path).looked = true ∧ lastLookFailed log = false) ∧
    Flagged path (s.step digest source .cycle).2 (log ++ [s.visit digest source path]) := by
  obtain ⟨o, ho, hl, hflag⟩ := h
  have hlooked : (s.visit digest source path).looked =
      !FileStore.looksUnchanged s.files o := by
    show s.store.opened.any _ = _
    rw [ho]
    rfl
  have htold : (s.visit digest source path).told =
      (s.step digest source .cycle).1.any fun e => e.kind == .failed := rfl
  unfold Flagged
  rw [lastLookFailed_concat, hlooked, htold]
  rcases cycle_cases digest source ho hl with ⟨hu, he⟩ |
    ⟨hu, ⟨f, t, hf, ht, ⟨-, he⟩ | ⟨-, he⟩⟩ | ⟨hno, ⟨hfail, he⟩ | ⟨hfail, cause, he⟩⟩⟩
  · -- it does not look
    rw [he, hu]
    refine ⟨?_, o, ho, hl, hflag⟩
    simp
  · -- it reads the same text again
    have hread := unreadable_of_read digest source
      (Files.readText_eq_ok.2 ⟨f, hf, ht⟩)
    rw [he, hu, hread]
    exact ⟨by simp, _, rfl, hl, rfl⟩
  · -- it reads another text
    have hread := unreadable_of_read digest source
      (Files.readText_eq_ok.2 ⟨f, hf, ht⟩)
    rw [he, hu, hread]
    refine ⟨?_, _, rfl, rfl, rfl⟩
    simp [ChangeEvent.replaced]
  · -- it fails again
    rw [he, hu, unreadable_of_unread digest source hno, ← hflag, hfail]
    exact ⟨by simp, o, ho, hl, hfail⟩
  · -- it fails for the first time
    rw [he, hu, unreadable_of_unread digest source hno, ← hflag, hfail]
    refine ⟨?_, _, rfl, hl, rfl⟩
    simp [ChangeEvent.unread]

/-- Nothing but a cycle moves the flag. -/
theorem Flagged.other (h : Flagged path s log) {act : Act} (ha : act ≠ .cycle) :
    Flagged path (s.step digest source act).2 log := by
  obtain ⟨o, ho, hl, hflag⟩ := h
  cases act with
  | cycle => exact absurd rfl ha
  | outside files => exact ⟨o, ho, hl, hflag⟩
  | change c =>
    rcases change_cases digest source ho hl c with
      he | ⟨event, document, after, -, -, he⟩
    · rw [he]
      exact ⟨o, ho, hl, hflag⟩
    · rw [he]
      exact ⟨_, rfl, hl, hflag⟩

/-- In a run that goes on from a history of cycles, each cycle tells by looking. -/
theorem Flagged.tells (h : Flagged path s log) {acts : List Act} {before rest : List Visit}
    {v : Visit} (hv : visits digest source path s acts = before ++ v :: rest) :
    v.told = true ↔
      v.unreadable = true ∧ v.looked = true ∧ lastLookFailed (log ++ before) = false := by
  induction acts generalizing s log before with
  | nil => simp [visits] at hv
  | cons act acts ih =>
    cases act with
    | change c => exact ih (h.other (by simp)) hv
    | outside files => exact ih (h.other (by simp)) hv
    | cycle =>
      -- the history grows by this cycle, and the flag speaks of it from now on
      obtain ⟨htold, hnext⟩ := h.cycle digest source
      cases before with
      | nil =>
        rw [List.nil_append] at hv
        rw [List.append_nil, ← (List.cons.inj hv).1]
        exact htold
      | cons w before =>
        rw [List.cons_append] at hv
        rw [← (List.cons.inj hv).1, List.append_cons]
        exact ih hnext (List.cons.inj hv).2

/-! ### Whole runs -/

/-- A store tells by looking, in every run from the opening of the store. -/
theorem Begun.tellsByLooking (h : s.Begun path) (acts : List Act) :
    TellsByLooking (visits digest source path s acts) := by
  intro before v rest hv
  exact h.flagged.tells hv

/-- When every outage is noticed, a cycle that could not read the file follows a look that
failed. -/
theorem Noticed.lastLookFailed (h : Noticed log) {before rest : List Visit} {p : Visit}
    (hlog : log = before ++ p :: rest) (hp : p.unreadable = true) :
    lastLookFailed (before ++ [p]) = true := by
  induction hn : before.length generalizing before p rest with
  | zero =>
    rw [List.length_eq_zero_iff] at hn
    subst hn
    have hlook := (h [] p rest hlog ⟨hp, fun q hq => by cases hq⟩).1
    rw [lastLookFailed_concat, hlook, if_pos rfl, hp]
  | succ n ih =>
    rw [lastLookFailed_concat]
    split
    · exact hp
    · next hlook =>
      -- it did not look, so it begins nothing, and the cycle before it failed as well
      rcases List.eq_nil_or_concat before with hnil | ⟨init, q, hcat⟩
      · rw [hnil] at hn
        cases hn
      · rw [List.concat_eq_append] at hcat
        have hq : q.unreadable = true := by
          cases hq : q.unreadable with
          | true => rfl
          | false =>
            refine absurd (h before p rest hlog ⟨hp, ?_⟩).1 hlook
            intro q' hq'
            rw [hcat, List.getLast?_concat] at hq'
            cases hq'
            exact hq
        have hsplit : log = init ++ q :: (p :: rest) := by
          rw [hlog, hcat, List.append_assoc]
          rfl
        rw [hcat]
        rw [hcat, List.length_append, List.length_singleton] at hn
        exact ih hsplit hq (by omega)

/-- With a store that tells by looking, errors are edge-triggered exactly if every outage is
noticed. -/
theorem TellsByLooking.edgeTriggered_iff (h : TellsByLooking log) :
    EdgeTriggered log ↔ Noticed log := by
  constructor
  · intro he before v rest hlog hb
    exact ((h before v rest hlog).1 ((he before v rest hlog).2 hb)).2
  · intro hn before v rest hlog
    constructor
    · intro htold
      obtain ⟨hun, hlook, hlast⟩ := (h before v rest hlog).1 htold
      refine ⟨hun, ?_⟩
      intro p hp
      cases hpu : p.unreadable with
      | false => rfl
      | true =>
        obtain ⟨init, hinit⟩ := List.getLast?_eq_some_iff.1 hp
        have hsplit : log = init ++ p :: (v :: rest) := by
          rw [hlog, hinit, List.append_assoc]
          rfl
        -- the outage was noticed, so the last look failed and nothing would be told
        have hfailed := hn.lastLookFailed hsplit hpu
        rw [← hinit, hlast] at hfailed
        cases hfailed
    · intro hb
      exact (h before v rest hlog).2 ⟨hb.1, hn before v rest hlog hb⟩

/-- Errors are told by looking, and they are told once for each outage exactly in the runs in
which every outage is noticed. -/
theorem errors_told (hb : s.Begun path) (acts : List Act) :
    TellsByLooking (visits digest source path s acts) ∧
    (EdgeTriggered (visits digest source path s acts) ↔
      Noticed (visits digest source path s acts)) :=
  ⟨hb.tellsByLooking acts, (hb.tellsByLooking acts).edgeTriggered_iff⟩

/-- The file is deleted, comes back with a change of the store's own, and is deleted again; a
cycle follows each time. -/
def deletedTwice : List Act :=
  [.outside {}, .cycle, .change (.set "k" "ERROR"), .cycle, .outside {}, .cycle]

/-- The second outage is not told: the cycle between them took the store's own file to be
unchanged and left the flag up. -/
theorem errors_told_deletedTwice :
    visits Digest.plain "levels" "t.p" levelsOpened deletedTwice =
      [⟨true, true, true⟩, ⟨false, false, false⟩, ⟨true, true, false⟩] ∧
    ¬ EdgeTriggered (visits Digest.plain "levels" "t.p" levelsOpened deletedTwice) := by
  have hlog : visits Digest.plain "levels" "t.p" levelsOpened deletedTwice =
      [⟨true, true, true⟩, ⟨false, false, false⟩, ⟨true, true, false⟩] := by
    decide +kernel
  refine ⟨hlog, ?_⟩
  rw [(errors_told levelsOpened_begun deletedTwice).2, hlog]
  intro hnoticed
  have hlast := (hnoticed [⟨true, true, true⟩, ⟨false, false, false⟩] ⟨true, true, false⟩ [] rfl
    ⟨rfl, by simp⟩).2
  exact absurd hlast (by decide)

end Session

end Admission

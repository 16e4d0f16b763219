import Admission.Proofs.Store.Writing

/-!
# Overwriting — what becomes of the rest of a file when a store is changed

  The text that a change puts in the place of a file comes from the document that the
  store has in hand, so of the rest of the file only that survives which the store knew.
  A file that was edited behind its back, and not looked at since, loses what is new in
  it.

  `leaves_iff` gives the exact condition for each change that succeeds: the rest of the
  file is left as it is if and only if the store knew every other key as the file has it.
  It knows them if the file holds the text that it read or wrote last.
-/

namespace Admission

/-! ### What is left of a file -/

/-- A change leaves the rest as it is: the entries after it are those before it with the change
applied to them, up to a carriage return at the end of a value. -/
def Change.Leaves (c : Change) (before after : Entries) : Prop :=
  ∀ key, after.get? key = (c.applied before).get? key ∨
    after.get? key = ((c.applied before).get? key).map Text.withoutReturn

/-- What is known of a key is what is there, up to a carriage return at the end of the value,
which is lost when it is written. -/
def KeyMap.Knows (known there : Entries) (key : String) : Prop :=
  (known.get? key).map Text.withoutReturn = there.get? key ∨
    (known.get? key).map Text.withoutReturn = (there.get? key).map Text.withoutReturn

/-- A key that is known not to be there is not there. -/
theorem KeyMap.Knows.get?_eq_none {known there : Entries} {key : String}
    (h : known.Knows there key) (hnone : known.get? key = none) : there.get? key = none := by
  unfold Knows at h
  rw [hnone] at h
  rcases h with h | h
  · exact h.symm
  · exact Option.map_eq_none_iff.1 h.symm

namespace Change

variable {c : Change}

/-- Writing what is known leaves the rest as it is exactly if the rest is known. -/
theorem leaves_written_iff (hc : c.check = .ok ()) (known there : Entries) :
    c.Leaves there (c.applied known).withoutReturns ↔
      ∀ key, c.concerns key = false → known.Knows there key := by
  unfold Leaves KeyMap.Knows
  constructor
  · intro h key hk
    have hkey := h key
    rw [KeyMap.get?_withoutReturns, get?_applied, get?_applied, hk] at hkey
    exact hkey
  · intro h key
    rw [KeyMap.get?_withoutReturns, get?_applied, get?_applied]
    cases hk : c.concerns key with
    | false => exact h key hk
    | true =>
      -- the value that was set has no return to lose
      left
      rw [if_pos rfl]
      cases hv : c.value? with
      | none => rfl
      | some value =>
        rw [Option.map_some, withoutReturn_value? hc hv]
        rfl

/-- Writing nothing leaves the rest as it is, and does what was asked exactly if there is nothing
to take away. -/
theorem leaves_self_iff (hv : c.value? = none) (there : Entries) :
    c.Leaves there there ↔ ∀ key, c.concerns key = true → there.get? key = none := by
  unfold Leaves
  constructor
  · intro h key hk
    have hkey := h key
    rw [get?_applied, hk, if_pos rfl, hv] at hkey
    exact hkey.elim id id
  · intro h key
    left
    rw [get?_applied]
    cases hk : c.concerns key with
    | false => rfl
    | true => rw [if_pos rfl, hv]; exact h key hk

end Change

namespace Session

variable {digest : Digest} {source path : String} {s : Session} {o : OpenFile}

/-- The entries of a file that holds the text that the store read or wrote last are known. -/
theorem Keeps.knows (h : Keeps path s o) {text : String}
    (hd : o.document = Document.parse text ∨ o.document.render = text) (key : String) :
    o.entries.Knows (Document.parse text).entries key := by
  rcases hd with hd | hd
  · -- it was read, so every value is known as it is there
    right
    rw [h.entries, hd]
  · -- it was written, so every value there has lost its return
    left
    rw [← hd, h.entries, ← KeyMap.get?_withoutReturns, ← h.sound.entries_reread]
    rfl

/-- What a change that succeeds leaves in the file, whatever the file held before. If it is told,
the entries in the file are those of the store with the change applied to them; otherwise the
file is the same. So the rest of the file is left as it is exactly if the store knew every other
key as the file had it, or had nothing to take away where the file had nothing either; and this
is so if the file held the text that the store read or wrote last. -/
theorem leaves_iff (hb : s.Begun path) (acts : List Act) {c : Change}
    {event : Option ChangeEvent} {text : String}
    (htext : (s.after digest source acts).files.readText path = .ok text)
    (hok : ((s.after digest source acts).store.change source c
      (s.after digest source acts).files).1 = .ok event) :
    ∃ o after, (s.after digest source acts).store.opened = some o ∧
      ((s.after digest source acts).step digest source (.change c)).2.files.readText path =
        .ok after ∧
      (event ≠ none → (Document.parse after).entries = (c.applied o.entries).withoutReturns) ∧
      (event = none → after = text) ∧
      (c.Leaves (Document.parse text).entries (Document.parse after).entries ↔
        if event = none then
          ∀ key, c.concerns key = true → (Document.parse text).entries.get? key = none
        else ∀ key, c.concerns key = false →
          o.entries.Knows (Document.parse text).entries key) ∧
      (o.document = Document.parse text ∨ o.document.render = text →
        c.Leaves (Document.parse text).entries (Document.parse after).entries) := by
  obtain ⟨o₀, h₀⟩ := hb.keeps
  obtain ⟨o, h⟩ := h₀.after digest source acts
  have hc := FileStore.check_of_change hok
  rcases h.change_cases digest hok with ⟨rfl, hd, he⟩ |
    ⟨e, document, after, rfl, hd, hfile, he⟩
  · -- nothing was written, since there was nothing to take away
    obtain ⟨hv, hnone⟩ := Change.of_onDocument_none hd
    have hleaves := Change.leaves_self_iff hv (Document.parse text).entries
    rw [he]
    refine ⟨o, text, h.opened, htext, fun hn => absurd rfl hn, fun _ => rfl, ?_, ?_⟩
    · rw [if_pos rfl]
      exact hleaves
    · intro hdoc
      rw [hleaves]
      intro key hk
      have hknown : o.entries.get? key = none := by
        rw [h.entries]
        exact hnone key hk
      exact KeyMap.Knows.get?_eq_none (h.knows hdoc key) hknown
  · rw [he]
    have hread := h.read_written hc hd
    refine ⟨o, document.render, h.opened, Files.readText_eq_ok.2 ⟨_, hfile, rfl⟩, fun _ => hread,
      fun hn => (by cases hn), ?_, ?_⟩
    · rw [hread, if_neg (by simp)]
      exact Change.leaves_written_iff hc _ _
    · intro hdoc
      rw [hread, Change.leaves_written_iff hc]
      exact fun key _ => h.knows hdoc key

/-- The levels after somebody added a line to their file. -/
def levelsExtended : Files :=
  ({} : Files).put ["t.p"] (.text "k=INFO\nb=ERROR\n")

/-- A line that was added behind the back of a store is lost when the store sets another key. -/
theorem leaves_iff_lineLost :
    ∃ after, ((levelsOpened.after Digest.plain "levels" [.outside levelsExtended]).step
        Digest.plain "levels" (.change (.set "c" "DEBUG"))).2.files.readText "t.p" = .ok after ∧
      ¬ (Change.set "c" "DEBUG").Leaves (Document.parse "k=INFO\nb=ERROR\n").entries
        (Document.parse after).entries := by
  have hok : ((levelsOpened.after Digest.plain "levels" [.outside levelsExtended]).store.change
      "levels" (.set "c" "DEBUG") levelsExtended).1 =
      .ok (some (.stored "levels" "c" "DEBUG" false)) := rfl
  have htext : (levelsOpened.after Digest.plain "levels"
      [.outside levelsExtended]).files.readText "t.p" = .ok "k=INFO\nb=ERROR\n" := rfl
  obtain ⟨o, after, ho, hafter, -, -, hiff, -⟩ :=
    leaves_iff levelsOpened_begun [.outside levelsExtended] htext hok
  refine ⟨after, hafter, ?_⟩
  rw [hiff, if_neg (by simp)]
  intro hall
  have hb := hall "b" (by decide)
  have hknown : o.entries.get? "b" = none := by
    cases ho
    decide +kernel
  have hthere := KeyMap.Knows.get?_eq_none hb hknown
  exact absurd hthere (by decide +kernel)

end Session

end Admission

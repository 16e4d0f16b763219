import Admission.Proofs.Files.Replace
import Mathlib.Data.List.Basic

/-!
# Staging — a file that waits to take the place of another

  A file is not written over. A new one is laid next to it under a name that nobody
  uses, filled, and then moved to the path; if anything goes wrong on the way, the new
  one is dropped again. So there are two ways in which it may end, and the tree says
  nothing of the new file in either: `without_lay`, the tree is what it was before, and
  `move_lay`, the file was replaced as if that had been done at once.

  For the second one the name has to be spare (`Spare`): the path must not lead through
  the new file, since it would lead elsewhere while that is there.
-/

namespace Admission

namespace Files

/-! ### Places on a path -/

theorem follow_eq_foldl {fs : Files} {place q : Place} {xs : List String}
    (h : fs.follow place xs = .ok q) : q = xs.foldl Path.step place := by
  induction xs generalizing place with
  | nil => cases h; rfl
  | cons x xs ih =>
    rw [follow_cons] at h
    split at h
    · cases h
    · split at h
      · cases h
      · exact ih h

/-- A path is followed alike in two trees that agree about the places on it. -/
theorem follow_agree {fs after : Files} {place : Place} {xs : List String}
    (h : ∀ ys, ys <+: xs → after.requireDirectory (ys.foldl Path.step place) =
      fs.requireDirectory (ys.foldl Path.step place)) :
    after.follow place xs = fs.follow place xs := by
  induction xs generalizing place with
  | nil => rfl
  | cons x xs ih =>
    rw [follow_cons, follow_cons]
    have hhere : after.requireDirectory place = fs.requireDirectory place :=
      h [] List.nil_prefix
    have hrest := ih fun ys hys => h (x :: ys) (List.cons_prefix_cons.2 ⟨rfl, hys⟩)
    rw [hhere, hrest]

/-- Dots lead nowhere. -/
theorem foldl_step_filter (xs : List String) (place : Place) :
    (xs.filter (· != ".")).foldl Path.step place = xs.foldl Path.step place := by
  induction xs generalizing place with
  | nil => rfl
  | cons x xs ih =>
    by_cases hx : x = "."
    · subst hx
      exact ih place
    · rw [List.filter_cons_of_pos (by simpa using hx)]
      exact ih (Path.step place x)

/-- The places that the names in a path lead through are on its trail. -/
theorem mem_trail (fs : Files) {path : String} {ys : List String} (h : ys <+: Path.names path) :
    ys.foldl Path.step (fs.start path) ∈ fs.trail path := by
  have hsteps : (Path.names path).filter (· != ".") = Path.steps path := by
    unfold Path.names Path.steps
    rw [List.filter_filter]
    congr 1
    funext part
    exact Bool.and_comm _ _
  have hprefix : ys.filter (· != ".") <+: Path.steps path := hsteps ▸ h.filter _
  rw [← foldl_step_filter]
  unfold trail
  refine List.mem_map.2 ⟨(ys.filter (· != ".")).length, ?_, ?_⟩
  · exact List.mem_range.2 (Nat.lt_succ_of_le hprefix.length_le)
  · rw [← List.prefix_iff_eq_take.1 hprefix]

theorem requireDirectory_congr {fs after : Files} {p : Place} (h : after.node? p = fs.node? p) :
    after.requireDirectory p = fs.requireDirectory p := by
  unfold requireDirectory
  rw [h]

/-- A file that is moved to a path takes the same place, or is refused alike, in two trees that
agree about the places on the path. -/
theorem target_congr {fs after : Files} {path : String} (hstart : after.start path = fs.start path)
    (h : ∀ p ∈ fs.trail path, after.node? p = fs.node? p) : after.target path = fs.target path := by
  -- the target is found by asking the nodes on the way to the path, and no other ones
  have hnode : ∀ ys, ys <+: Path.names path →
      after.node? (ys.foldl Path.step (fs.start path)) =
        fs.node? (ys.foldl Path.step (fs.start path)) :=
    fun ys hys => h _ (mem_trail fs hys)
  have hfollow : after.follow (after.start path) (Path.names path).dropLast =
      fs.follow (fs.start path) (Path.names path).dropLast := by
    rw [hstart]
    exact follow_agree fun ys hys =>
      requireDirectory_congr (hnode ys (hys.trans (List.dropLast_prefix _)))
  -- the last name is on the way too, unless it is one of the dots
  have hlast : ∀ name directory, (Path.names path).getLast? = some name →
      fs.follow (fs.start path) (Path.names path).dropLast = .ok directory →
      ¬ (name == "." || name == "..") = true →
      after.node? (directory ++ [name]) = fs.node? (directory ++ [name]) := by
    intro name directory hn hd hdots
    rw [Bool.or_eq_true, beq_iff_eq, beq_iff_eq, not_or] at hdots
    have hstep : directory ++ [name] = Path.step directory name := by
      unfold Path.step
      simp [Path.ne_empty_of_getLast? hn, hdots.1, hdots.2]
    have hall := hnode _ (List.prefix_refl (Path.names path))
    rw [← List.dropLast_append_getLast? name hn, List.foldl_append, ← follow_eq_foldl hd] at hall
    rw [hstep]
    exact hall
  unfold target
  cases checkPath path with
  | error cause => rfl
  | ok u =>
    cases hn : (Path.names path).getLast? with
    | none => simp only [hn]
    | some name =>
      simp only [hn, hfollow]
      cases hd : fs.follow (fs.start path) (Path.names path).dropLast with
      | error cause => rfl
      | ok directory =>
        have hrequire : after.requireDirectory directory = fs.requireDirectory directory := by
          rw [follow_eq_foldl hd]
          exact requireDirectory_congr (hnode _ (List.dropLast_prefix _))
        simp only [bind, Except.bind, hrequire]
        cases fs.requireDirectory directory with
        | error cause => rfl
        | ok u =>
          simp only
          split
          · rfl
          · next hdots => rw [hlast name directory hn hd hdots]

/-! ### Laying a file -/

/-- The place next to what a path names that a name stands for. -/
def beside (fs : Files) (path name : String) : Except FileFault Place := do
  let directory ← fs.follow (fs.start path) (Path.steps path).dropLast
  fs.requireDirectory directory
  .ok (directory ++ [name])

/-- A file can be put next to what a path names exactly if there is a place for it. -/
theorem stage_eq_beside (fs : Files) (path name : String) :
    fs.stage path = (fs.beside path name).map fun _ => () := by
  unfold stage beside
  cases fs.follow (fs.start path) (Path.steps path).dropLast with
  | error cause => rfl
  | ok directory =>
    simp only [bind, Except.bind]
    cases fs.requireDirectory directory with
    | error cause => rfl
    | ok u => rfl

/-- The tree with a new file at a place, where nothing may be. The stamp of the file counts as
used when it has taken the place of another. -/
def lay (fs : Files) (place : Place) (content : Content) : Except FileFault Files :=
  match fs.node? place with
  | some _ => .error .alreadyThere
  | none =>
    .ok { fs with nodes := fs.nodes.insert (nameOf place) (.file ⟨content, fs.clock⟩) }

/-- The tree without what is at a place. -/
def without (fs : Files) (place : Place) : Files :=
  { fs with nodes := fs.nodes.erase (nameOf place) }

/-- The tree with a file moved to what a path names. -/
def move (fs : Files) (place : Place) (path : String) : Except FileFault Files := do
  let taken ← fs.target path
  match fs.node? place with
  | some (.file f) =>
    let rest := fs.without place
    .ok { rest with nodes := rest.nodes.insert (nameOf taken) (.file f), clock := fs.clock + 1 }
  | some .directory => .error .isDirectory
  | none => .error .notFound

/-- A place that a new file may have: nothing is there, and a path does not lead through it. -/
structure Spare (fs : Files) (path : String) (place : Place) : Prop where
  /-- Nothing is there. -/
  vacant : fs.node? place = none
  /-- The path leads elsewhere. -/
  apart : ∀ p ∈ fs.trail path, nameOf p ≠ nameOf place

variable {fs laid : Files} {place : Place} {content : Content} {path : String}

/-- What is at a place where nothing is, by name. -/
theorem node?_eq_none (h : fs.node? place = none) :
    place.isPrefixOf fs.home = false ∧ fs.nodes.get? (nameOf place) = none := by
  unfold node? at h
  split at h
  · cases h
  · next hhome => exact ⟨eq_false_of_ne_true hhome, h⟩

theorem lay_eq_ok (h : fs.lay place content = .ok laid) :
    fs.node? place = none ∧ laid =
      { fs with nodes := fs.nodes.insert (nameOf place) (.file ⟨content, fs.clock⟩) } := by
  unfold lay at h
  split at h
  · cases h
  · next hnone =>
    cases h
    exact ⟨hnone, rfl⟩

/-- Nothing is left of a file that was laid and dropped. -/
theorem without_lay (h : fs.lay place content = .ok laid) : laid.without place = fs := by
  obtain ⟨hnone, rfl⟩ := lay_eq_ok h
  have hvacant := (node?_eq_none hnone).2
  have hnodes : (fs.nodes.insert (nameOf place) (.file ⟨content, fs.clock⟩)).erase (nameOf place) =
      fs.nodes := by
    apply KeyMap.ext_get?
    intro name
    rw [KeyMap.get?_erase, KeyMap.get?_insert]
    by_cases hname : name = nameOf place
    · rw [if_pos hname, hname, hvacant]
    · rw [if_neg hname, if_neg hname]
  unfold without
  rw [hnodes]

/-- A file that was laid is where it was laid. -/
theorem node?_lay (h : fs.lay place content = .ok laid) :
    laid.node? place = some (.file ⟨content, fs.clock⟩) := by
  obtain ⟨hnone, rfl⟩ := lay_eq_ok h
  obtain ⟨hhome, -⟩ := node?_eq_none hnone
  unfold node?
  rw [hhome, if_neg Bool.false_ne_true, KeyMap.get?_insert, if_pos rfl]

/-- Elsewhere everything is as it was. -/
theorem node?_lay_of_ne (h : fs.lay place content = .ok laid) {p : Place}
    (hp : nameOf p ≠ nameOf place) : laid.node? p = fs.node? p := by
  obtain ⟨-, rfl⟩ := lay_eq_ok h
  unfold node?
  rw [KeyMap.get?_insert, if_neg hp]

/-- No directory comes or goes when a file is laid. -/
theorem requireDirectory_lay (h : fs.lay place content = .ok laid) {p : Place} :
    laid.requireDirectory p = .ok () ↔ fs.requireDirectory p = .ok () := by
  obtain ⟨hnone, rfl⟩ := lay_eq_ok h
  obtain ⟨-, hvacant⟩ := node?_eq_none hnone
  rw [requireDirectory_eq_ok, requireDirectory_eq_ok]
  unfold node?
  split
  · exact Iff.rfl
  · rw [KeyMap.get?_insert]
    by_cases hp : nameOf p = nameOf place
    · -- what was laid there is a file, and there was nothing before
      rw [if_pos hp, hp, hvacant]
      simp
    · rw [if_neg hp]

/-- A file that was laid and then moved is put where it was moved to. -/
theorem move_lay_eq (h : fs.lay place content = .ok laid) (path : String) :
    laid.move place path = (laid.target path).map fun taken => fs.put taken content := by
  have hclock : laid.clock = fs.clock := by
    obtain ⟨-, rfl⟩ := lay_eq_ok h
    rfl
  unfold move
  cases laid.target path with
  | error cause => rfl
  | ok taken =>
    simp only [bind, Except.bind, node?_lay h, without_lay h, hclock]
    rfl

/-- A file that was laid and then moved to a path is what the path names. -/
theorem find_move_lay (h : fs.lay place content = .ok laid) {after : Files}
    (hm : laid.move place path = .ok after) :
    after.find path = .ok (.file ⟨content, fs.clock⟩) := by
  rw [move_lay_eq h] at hm
  cases ht : laid.target path with
  | error cause => rw [ht] at hm; cases hm
  | ok taken =>
    rw [ht] at hm
    cases hm
    obtain ⟨-, -, -, -, -, -, -, -, -, -, hnode, -⟩ := target_eq_ok ht
    -- the place was found with the new file there, but that is no directory
    have hfree : fs.node? taken ≠ some .directory := by
      intro hd
      exact hnode (requireDirectory_eq_ok.1
        ((requireDirectory_lay h).2 (requireDirectory_eq_ok.2 hd)))
    obtain ⟨hplace, hkeep⟩ := put_keeps hfree content
    have hstart : (fs.put taken content).start path = laid.start path := by
      obtain ⟨-, rfl⟩ := lay_eq_ok h
      rfl
    exact find_of_target ht hstart (fun p hp => hkeep p ((requireDirectory_lay h).1 hp)) hplace

/-- A file that was laid at a spare place and then moved has replaced what the path named. -/
theorem move_lay (hs : fs.Spare path place) (h : fs.lay place content = .ok laid) :
    laid.move place path = fs.replace path content := by
  have hstart : laid.start path = fs.start path := by
    obtain ⟨-, rfl⟩ := lay_eq_ok h
    rfl
  have htarget := target_congr hstart fun p hp => node?_lay_of_ne h (hs.apart p hp)
  rw [move_lay_eq h, htarget]
  rfl

end Files

end Admission

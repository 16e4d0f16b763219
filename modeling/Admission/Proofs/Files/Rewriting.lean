import Admission.Proofs.Files.Replace
import Admission.Store.File

/-!
# Rewriting — a file that can be read can be written

  A file is found by following every part of its path, and it is written by going to
  the directory around it and putting another file in its place. Whoever finds the file
  has been to that directory: the last part of the path cannot be empty, nor a dot,
  since a file leads nowhere, and two dots lead back to where a directory is
  (`Grounded`). So the last part is a name in the directory before it, and nothing
  refuses a new file there (`write_of_find`).
-/

namespace Admission

namespace Files

variable {fs : Files} {place q : Place} {xs : List String}

/-! ### The way to a directory -/

/-- A place that has directories all the way from the root to it. -/
def Grounded (fs : Files) (place : Place) : Prop :=
  ∀ p, p <+: place → fs.node? p = some .directory

theorem Grounded.dropLast (h : fs.Grounded place) : fs.Grounded place.dropLast :=
  fun p hp => h p (hp.trans (List.dropLast_prefix place))

theorem grounded_start (fs : Files) (path : String) : fs.Grounded (fs.start path) := by
  have hhome : fs.start path <+: fs.home := by
    unfold start
    split
    · exact List.nil_prefix
    · exact List.prefix_refl _
  intro p hp
  unfold node?
  rw [if_pos (List.isPrefixOf_iff_prefix.2 (hp.trans hhome))]

/-- One part leads from a grounded place to a grounded one, if it leads to a directory. -/
theorem Grounded.step (h : fs.Grounded place) {x : String}
    (hd : fs.requireDirectory (Path.step place x) = .ok ()) : fs.Grounded (Path.step place x) := by
  unfold Path.step at hd ⊢
  split
  · exact h
  · next hstay =>
    rw [if_neg hstay] at hd
    split
    · exact h.dropLast
    · next hback =>
      rw [if_neg hback] at hd
      intro p hp
      rcases List.prefix_concat_iff.1 hp with rfl | hp
      · exact requireDirectory_eq_ok.1 hd
      · exact h p hp

/-- A path to a directory leads through directories only. -/
theorem Grounded.follow (h : fs.Grounded place) (hf : fs.follow place xs = .ok q)
    (hq : fs.requireDirectory q = .ok ()) : fs.Grounded q := by
  induction xs generalizing place with
  | nil =>
    cases hf
    exact h
  | cons x xs ih =>
    rw [follow_cons] at hf
    split at hf
    · cases hf
    · split at hf
      · cases hf
      · exact ih (h.step (requireDirectory_of_follow hf hq)) hf

/-! ### The last part of a path -/

/-- To follow a path is to follow all parts but the last to a directory, and then the last. -/
theorem follow_concat_eq_ok {x : String} (h : fs.follow place (xs ++ [x]) = .ok q) :
    ∃ directory, fs.follow place xs = .ok directory ∧
      fs.requireDirectory directory = .ok () ∧ ¬ partLimit < x.utf8ByteSize ∧
      q = Path.step directory x := by
  induction xs generalizing place with
  | nil =>
    rw [List.nil_append, follow_cons] at h
    split at h
    · cases h
    · next hd =>
      split at h
      · cases h
      · next hlen =>
        cases h
        exact ⟨place, rfl, hd, hlen, rfl⟩
  | cons y ys ih =>
    rw [List.cons_append, follow_cons] at h
    split at h
    · cases h
    · next hd =>
      split at h
      · cases h
      · next hlen =>
        obtain ⟨directory, hf, hrest⟩ := ih h
        refine ⟨directory, ?_, hrest⟩
        rw [follow_cons, hd]
        simp only
        rw [if_neg hlen]
        exact hf

/-- Parts that lead nowhere may be left out. -/
theorem follow_filter {keeps : String → Bool}
    (hk : ∀ x, keeps x = false → ∀ place, Path.step place x = place)
    (h : fs.follow place xs = .ok q) : fs.follow place (xs.filter keeps) = .ok q := by
  induction xs generalizing place with
  | nil => exact h
  | cons x xs ih =>
    rw [follow_cons] at h
    split at h
    · cases h
    · next hd =>
      split at h
      · cases h
      · next hlen =>
        cases hx : keeps x with
        | false =>
          rw [hk x hx] at h
          rw [List.filter_cons_of_neg (by simp [hx])]
          exact ih h
        | true =>
          rw [List.filter_cons_of_pos hx, follow_cons, hd]
          simp only
          rw [if_neg hlen]
          exact ih h

/-- The last part of the path of a file is a name in a directory, to which all parts before it
lead. -/
theorem last_part_of_find {path : String} {f : StoredFile} (h : fs.find path = .ok (.file f)) :
    ∃ init name directory, Path.parts path = init ++ [name] ∧
      name ≠ "" ∧ name ≠ "." ∧ name ≠ ".." ∧
      fs.follow (fs.start path) init = .ok directory ∧
      fs.requireDirectory directory = .ok () ∧ ¬ partLimit < name.utf8ByteSize ∧
      checkPath path = .ok () ∧ fs.node? (directory ++ [name]) = some (.file f) := by
  unfold find at h
  obtain ⟨place, hresolve, h⟩ := bind_eq_ok.1 h
  obtain ⟨u, hcheck, hf⟩ := bind_eq_ok.1 hresolve
  have hnode : fs.node? place = some (.file f) := by
    split at h
    · next n hn =>
      cases h
      exact hn
    · cases h
  rcases List.eq_nil_or_concat (Path.parts path) with hnil | ⟨init, name, hparts⟩
  · cases hnil
  rw [List.concat_eq_append] at hparts
  rw [hparts] at hf
  obtain ⟨directory, hfollow, hd, hlen, rfl⟩ := follow_concat_eq_ok hf
  have hgrounded := (grounded_start fs path).follow hfollow hd
  -- there is a file, so the last part did not lead to a directory
  have hfile : ¬ fs.Grounded (Path.step directory name) := by
    intro hg
    rw [hg _ (List.prefix_refl _)] at hnode
    cases hnode
  have hstay : ¬ (name == "" || name == ".") = true := by
    intro hstay
    apply hfile
    unfold Path.step
    rw [if_pos hstay]
    exact hgrounded
  have hback : ¬ (name == "..") = true := by
    intro hback
    apply hfile
    unfold Path.step
    rw [if_neg hstay, if_pos hback]
    exact hgrounded.dropLast
  unfold Path.step at hnode
  rw [if_neg hstay, if_neg hback] at hnode
  rw [Bool.or_eq_true, beq_iff_eq, beq_iff_eq, not_or] at hstay
  rw [beq_iff_eq] at hback
  exact ⟨init, name, directory, hparts, hstay.1, hstay.2, hback, hfollow, hd, hlen, hcheck, hnode⟩

/-! ### Writing -/

variable {path : String} {f : StoredFile}

/-- Where there is a file, a file can be moved to, and it takes that place. -/
theorem target_of_find (h : fs.find path = .ok (.file f)) :
    ∃ place, fs.target path = .ok place ∧ fs.node? place = some (.file f) := by
  obtain ⟨init, name, directory, hparts, hname, hdot, hdots, hf, hd, hlen, hcheck, hnode⟩ :=
    last_part_of_find h
  have hnames : Path.names path = init.filter (· != "") ++ [name] := by
    unfold Path.names
    rw [hparts, List.filter_append, List.filter_cons_of_pos (by simpa using hname)]
    rfl
  have hslash : path.toList.getLast? ≠ some '/' := by
    intro hslash
    have hempty := (Text.getLast?_pieces '/' path.toList).2 (.inr hslash)
    have hlast : (Path.parts path).getLast? = some "" := by
      unfold Path.parts
      rw [List.getLast?_map, hempty]
      rfl
    rw [hparts, List.getLast?_concat] at hlast
    exact hname (Option.some.inj hlast)
  have hbefore : fs.follow (fs.start path) (init.filter (· != "")) = .ok directory := by
    refine follow_filter ?_ hf
    intro x hx place
    have hempty : x = "" := by simpa using hx
    rw [hempty]
    rfl
  refine ⟨directory ++ [name], ?_, hnode⟩
  unfold target
  simp [hcheck, hnames, hbefore, hd, hdot, hdots, hlen, hslash, hnode, bind, Except.bind]

/-- Where there is a file, another one can be put next to it. -/
theorem stage_of_find (h : fs.find path = .ok (.file f)) : fs.stage path = .ok () := by
  obtain ⟨init, name, directory, hparts, hname, hdot, -, hf, hd, -⟩ := last_part_of_find h
  have hsteps : Path.steps path = init.filter (fun x => x != "" && x != ".") ++ [name] := by
    unfold Path.steps
    rw [hparts, List.filter_append, List.filter_cons_of_pos (by simp [hname, hdot])]
    rfl
  have hbefore : fs.follow (fs.start path) (init.filter fun x => x != "" && x != ".") =
      .ok directory := by
    refine follow_filter ?_ hf
    intro x hx place
    have hstay : (x == "" || x == ".") = true := by
      rw [Bool.or_eq_true, beq_iff_eq, beq_iff_eq]
      rw [Bool.and_eq_false_iff] at hx
      simpa using hx
    unfold Path.step
    rw [if_pos hstay]
  unfold stage
  rw [hsteps, List.dropLast_concat, hbefore]
  exact hd

end Files

/-- A text can be written wherever there is a file. -/
theorem FileStore.write_of_find {fs : Files} {path : String} {f : StoredFile}
    (h : fs.find path = .ok (.file f)) (text : String) :
    ∃ after, fs.replace path (.text text) = .ok after ∧ write fs path text = .ok after := by
  obtain ⟨place, ht, -⟩ := Files.target_of_find h
  have hreplace : fs.replace path (.text text) = .ok (fs.put place (.text text)) := by
    unfold Files.replace
    rw [ht]
    rfl
  refine ⟨_, hreplace, ?_⟩
  unfold write
  rw [Files.stage_of_find h, hreplace]

end Admission

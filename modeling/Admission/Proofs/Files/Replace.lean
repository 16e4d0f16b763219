import Admission.Files

/-!
# Replacing a file — what a path names after it

  A file is moved to a path by the names in it, and found there by following every part
  of it, the empty ones and the last one too. The two come to the same place: empty
  parts lead nowhere, and a path that ends with a slash is refused when it is written.
  The tree changes at that one place, and what was there was no directory, so every
  directory that the path leads through is still there (`find_replace`).
-/

namespace Admission

/-- What follows an attempt succeeds exactly if the attempt did and what follows does. -/
theorem bind_eq_ok {ε α β : Type} {x : Except ε α} {f : α → Except ε β} {b : β} :
    (x >>= f) = .ok b ↔ ∃ a, x = .ok a ∧ f a = .ok b := by
  cases x with
  | error e =>
    constructor
    · intro h; cases h
    · rintro ⟨a, h, -⟩; cases h
  | ok a =>
    constructor
    · intro h; exact ⟨a, rfl, h⟩
    · rintro ⟨a', h, hf⟩; cases h; exact hf

/-- What is made of an attempt succeeds exactly if the attempt did. -/
theorem map_eq_ok {ε α β : Type} {x : Except ε α} {f : α → β} {b : β} :
    x.map f = .ok b ↔ ∃ a, x = .ok a ∧ f a = b := by
  cases x with
  | error e =>
    constructor
    · intro h; cases h
    · rintro ⟨a, h, -⟩; cases h
  | ok a =>
    constructor
    · intro h; cases h; exact ⟨a, rfl, rfl⟩
    · rintro ⟨a', h, rfl⟩; cases h; rfl

/-- An attempt succeeds with its error put another way exactly if it succeeds. -/
theorem mapError_eq_ok {ε ε' α : Type} {x : Except ε α} {f : ε → ε'} {a : α} :
    x.mapError f = .ok a ↔ x = .ok a := by
  cases x with
  | error e =>
    constructor
    · intro h; cases h
    · intro h; cases h
  | ok b =>
    constructor
    · intro h; cases h; rfl
    · intro h; cases h; rfl

/-- An error that was put another way comes from one that was not. -/
theorem mapError_eq_error {ε ε' α : Type} {x : Except ε α} {f : ε → ε'} {e' : ε'} :
    x.mapError f = .error e' ↔ ∃ e, x = .error e ∧ f e = e' := by
  cases x with
  | error e =>
    constructor
    · intro h; cases h; exact ⟨e, rfl, rfl⟩
    · rintro ⟨e, h, rfl⟩; cases h; rfl
  | ok b =>
    constructor
    · intro h; cases h
    · rintro ⟨e, h, -⟩; cases h

/-! ### Parts of a path -/

/-- There is one piece exactly if there is no mark. -/
theorem Text.pieces_snd_eq_nil (mark : Char) (cs : List Char) :
    (Text.pieces mark cs).2 = [] ↔ mark ∉ cs := by
  induction cs with
  | nil => simp
  | cons c cs ih =>
    by_cases hc : c = mark
    · rw [hc, Text.pieces_mark]
      simp
    · rw [Text.pieces_other hc, List.mem_cons, not_or]
      simp only [ih, and_iff_right (Ne.symm hc)]

/-- The last piece is empty exactly if there is nothing at all or the last thing is a mark. -/
theorem Text.getLast?_pieces (mark : Char) (cs : List Char) :
    ((Text.pieces mark cs).1 :: (Text.pieces mark cs).2).getLast? = some [] ↔
      cs = [] ∨ cs.getLast? = some mark := by
  induction cs with
  | nil => simp
  | cons c cs ih =>
    have hlast : cs ≠ [] → (c :: cs).getLast? = cs.getLast? := by
      intro hne
      rw [List.getLast?_cons_of_ne_nil hne]
    by_cases hc : c = mark
    · rw [hc, Text.pieces_mark, List.getLast?_cons_cons, ih]
      cases cs with
      | nil => simp
      | cons d cs => simp
    · rw [Text.pieces_other hc]
      cases hp : (Text.pieces mark cs).2 with
      | nil =>
        -- no mark follows, so the only piece holds the character
        have hno := (Text.pieces_snd_eq_nil mark cs).1 hp
        constructor
        · intro h
          simp at h
        · rintro (h | h)
          · cases h
          · rcases List.mem_cons.1 (List.mem_of_getLast? h) with he | hm
            · exact absurd he.symm hc
            · exact absurd hm hno
      | cons p ps =>
        rw [hp] at ih
        rw [List.getLast?_cons_cons] at ih ⊢
        rw [ih]
        cases cs with
        | nil => simp at hp
        | cons d cs => simp

namespace Path

/-- The parts of a path that does not end with a slash are those before its last name, and
that name. -/
theorem parts_eq {path : String} {name : String} (hn : (names path).getLast? = some name)
    (hs : path.toList.getLast? ≠ some '/') :
    ∃ init, parts path = init ++ [name] ∧ init.filter (· != "") = (names path).dropLast := by
  have hne : path.toList ≠ [] := by
    intro h
    unfold names parts at hn
    rw [h] at hn
    simp at hn
  -- the path does not end in a slash, so its last part is a name
  have hlast := mt (Text.getLast?_pieces '/' path.toList).1 (by simp [hne, hs])
  generalize hps : (Text.pieces '/' path.toList).1 :: (Text.pieces '/' path.toList).2 = ps at hlast
  have hparts : parts path = ps.map String.ofList := by
    unfold parts
    rw [← hps]
  rcases List.eq_nil_or_concat ps with hnil | ⟨init, p, hcat⟩
  · rw [hnil] at hps
    cases hps
  · rw [hcat, List.concat_eq_append] at hlast hparts
    have hp : String.ofList p ≠ "" := by
      intro h
      apply hlast
      rw [List.getLast?_concat]
      have hchars := congrArg String.toList h
      rw [String.toList_ofList] at hchars
      rw [hchars]
      rfl
    have hnames : names path = (init.map String.ofList).filter (· != "") ++ [String.ofList p] := by
      unfold names
      rw [hparts, List.map_append, List.filter_append]
      simp [hp]
    rw [hnames, List.getLast?_concat] at hn
    cases hn
    refine ⟨init.map String.ofList, ?_, ?_⟩
    · rw [hparts, List.map_append]
      rfl
    · rw [hnames, List.dropLast_concat]

/-- The last name of a path is not empty. -/
theorem ne_empty_of_getLast? {path : String} {name : String}
    (hn : (names path).getLast? = some name) : name ≠ "" := by
  have hmem := List.mem_of_getLast? hn
  unfold names at hmem
  simpa using (List.mem_filter.1 hmem).2

end Path

namespace Files

/-! ### Following a path -/

theorem follow_cons (fs : Files) (place : Place) (x : String) (xs : List String) :
    fs.follow place (x :: xs) =
      match fs.requireDirectory place with
      | .error cause => .error cause
      | .ok () =>
        if partLimit < x.utf8ByteSize then .error .tooLong
        else fs.follow (Path.step place x) xs := by
  conv => lhs; unfold follow
  cases fs.requireDirectory place with
  | error cause => rfl
  | ok u => rfl

theorem follow_append {fs : Files} {place q : Place} {xs ys : List String}
    (h : fs.follow place xs = .ok q) : fs.follow place (xs ++ ys) = fs.follow q ys := by
  induction xs generalizing place with
  | nil => cases h; rfl
  | cons x xs ih =>
    rw [List.cons_append]
    rw [follow_cons] at h ⊢
    split at h
    · cases h
    · split at h
      · cases h
      · next hlen =>
        rw [if_neg hlen]
        exact ih h

/-- A path that leads to a directory starts at one. -/
theorem requireDirectory_of_follow {fs : Files} {place q : Place} {xs : List String}
    (h : fs.follow place xs = .ok q) (hq : fs.requireDirectory q = .ok ()) :
    fs.requireDirectory place = .ok () := by
  cases xs with
  | nil =>
    cases h
    exact hq
  | cons x xs =>
    rw [follow_cons] at h
    split at h
    · cases h
    · next hd => exact hd

/-- Empty parts lead nowhere, as long as the others lead to a directory. -/
theorem follow_of_names {fs : Files} {place q : Place} {xs : List String}
    (h : fs.follow place (xs.filter (· != "")) = .ok q) (hq : fs.requireDirectory q = .ok ()) :
    fs.follow place xs = .ok q := by
  induction xs generalizing place with
  | nil => exact h
  | cons x xs ih =>
    have hd := requireDirectory_of_follow h hq
    by_cases hx : x = ""
    · -- following an empty part stays at the directory
      subst hx
      have hrest : fs.follow place xs = .ok q := ih h
      rw [follow_cons, hd]
      exact hrest
    · rw [List.filter_cons_of_pos (by simpa using hx)] at h
      rw [follow_cons, hd] at h ⊢
      simp only at h ⊢
      split at h
      · cases h
      · next hlen =>
        rw [if_neg hlen]
        exact ih h

/-- A path leads to the same place in a tree with the same directories. -/
theorem follow_congr {fs after : Files}
    (hk : ∀ p, fs.requireDirectory p = .ok () → after.requireDirectory p = .ok ())
    {place q : Place} {xs : List String} (h : fs.follow place xs = .ok q) :
    after.follow place xs = .ok q := by
  induction xs generalizing place with
  | nil => exact h
  | cons x xs ih =>
    rw [follow_cons] at h ⊢
    split at h
    · cases h
    · next hd =>
      rw [hk place hd]
      split at h
      · cases h
      · next hlen =>
        simp only
        rw [if_neg hlen]
        exact ih h

/-! ### Replacing -/

theorem requireDirectory_eq_ok {fs : Files} {p : Place} :
    fs.requireDirectory p = .ok () ↔ fs.node? p = some .directory := by
  unfold requireDirectory
  split
  · next h => simp [h]
  · next f h => simp [h]
  · next h => simp [h]

/-- What the place of a moved file is like. -/
theorem target_eq_ok {fs : Files} {path : String} {place : Place}
    (h : fs.target path = .ok place) :
    ∃ name directory, (Path.names path).getLast? = some name ∧
      fs.follow (fs.start path) (Path.names path).dropLast = .ok directory ∧
      fs.requireDirectory directory = .ok () ∧ checkPath path = .ok () ∧
      name ≠ "." ∧ name ≠ ".." ∧ ¬ partLimit < name.utf8ByteSize ∧
      path.toList.getLast? ≠ some '/' ∧ fs.node? place ≠ some .directory ∧
      place = directory ++ [name] := by
  unfold target at h
  obtain ⟨u, hc, h⟩ := bind_eq_ok.1 h
  cases hn : (Path.names path).getLast? with
  | none => simp only [hn] at h; cases h
  | some name =>
    simp only [hn] at h
    obtain ⟨directory, hf, h⟩ := bind_eq_ok.1 h
    obtain ⟨v, hd, h⟩ := bind_eq_ok.1 h
    -- each check that stands before the result has been passed
    split at h
    · cases h
    · next hdots =>
      split at h
      · cases h
      · next hlen =>
        split at h
        · cases h
        · next hslash =>
          split at h
          · cases h
          · next hnode =>
            cases h
            simp only [Bool.or_eq_true, beq_iff_eq, not_or] at hdots
            exact ⟨name, directory, rfl, hf, hd, hc, hdots.1, hdots.2, hlen,
              by simpa using hslash, hnode, rfl⟩

/-- A file that stands in the place of what a path named is what the path names, as long as no
directory was lost. -/
theorem find_of_target {fs after : Files} {path : String} {place : Place} {f : StoredFile}
    (ht : fs.target path = .ok place) (hstart : after.start path = fs.start path)
    (hkeep : ∀ p, fs.requireDirectory p = .ok () → after.requireDirectory p = .ok ())
    (hplace : after.node? place = some (.file f)) : after.find path = .ok (.file f) := by
  obtain ⟨name, directory, hn, hf, hd, hc, hdot, hdots, hlen, hslash, -, rfl⟩ := target_eq_ok ht
  obtain ⟨init, hparts, hinit⟩ := Path.parts_eq hn hslash
  have hname := Path.ne_empty_of_getLast? hn
  -- the path leads to the place in the tree as it was
  have hfollow : fs.follow (fs.start path) (Path.parts path) = .ok (directory ++ [name]) := by
    rw [hparts, follow_append (follow_of_names (by rw [hinit]; exact hf) hd), follow_cons, hd]
    simp only
    rw [if_neg hlen]
    unfold Path.step
    simp [hname, hdot, hdots, follow]
  unfold find
  refine bind_eq_ok.2 ⟨directory ++ [name], ?_, ?_⟩
  · refine bind_eq_ok.2 ⟨(), hc, ?_⟩
    rw [hstart]
    exact follow_congr hkeep hfollow
  · rw [hplace]

/-- A file that was put where no directory was is there, and every directory still is. -/
theorem put_keeps {fs : Files} {place : Place} (hnode : fs.node? place ≠ some .directory)
    (content : Content) :
    (fs.put place content).node? place = some (.file ⟨content, fs.clock⟩) ∧
      ∀ p, fs.requireDirectory p = .ok () →
        (fs.put place content).requireDirectory p = .ok () := by
  have hhome : ¬ place.isPrefixOf fs.home = true := by
    intro h
    exact hnode (if_pos h)
  constructor
  · refine (if_neg hhome).trans ?_
    show (fs.nodes.insert _ _).get? _ = _
    rw [KeyMap.get?_insert, if_pos rfl]
  · intro p hp
    rw [requireDirectory_eq_ok] at hp ⊢
    unfold node? at hp hnode ⊢
    rw [if_neg hhome] at hnode
    split at hp
    · next hhome => exact if_pos hhome
    · next hhome =>
      refine (if_neg hhome).trans ?_
      show (fs.nodes.insert _ _).get? _ = _
      rw [KeyMap.get?_insert, if_neg]
      · exact hp
      · intro he
        rw [← he] at hnode
        exact hnode hp

/-- A file that was moved to a path is what the path names. -/
theorem find_replace {fs after : Files} {path : String} {content : Content}
    (h : fs.replace path content = .ok after) :
    after.find path = .ok (.file ⟨content, fs.clock⟩) := by
  obtain ⟨place, ht, h⟩ := bind_eq_ok.1 h
  cases h
  obtain ⟨-, -, -, -, -, -, -, -, -, -, hnode, -⟩ := target_eq_ok ht
  obtain ⟨hplace, hkeep⟩ := put_keeps hnode content
  exact find_of_target ht rfl hkeep hplace

end Files

end Admission

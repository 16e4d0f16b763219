import Admission.Pattern.Body

/-!
# Enclosed readers — reading a part of a pattern inside of anchors

  A value pattern is read inside of anchors, with `closing` after its last character.
  Reading a part of it there should be the same as reading the part by itself. This is
  so, with three exceptions: a comment in which the pattern ends swallows the closing as
  well; what breaks off at the end of the pattern may go on with the closing; and a
  parenthesis that the pattern does not open may close the group of the anchors.

  `Compares` states the first two for the outcomes of two runs, and `Follows` for two
  readers in all states, together with the number of characters that they take. The
  second reader is the first one, except that a loop is given more turns inside of
  anchors, where there is more to read. Since a reader that takes a character of the
  closing cannot give it back, the exceptions stay visible when readers are put together
  (`Follows.bind`), and each reader has to be looked at only once.
-/

namespace Admission.Pattern

/-! ### The closing -/

/-- What closes the anchors around a value pattern. -/
def closing : List Char := [')', '$']

/-- The cursor in the same pattern inside of anchors. -/
def Cursor.enclosed (s : Cursor) : Cursor := { s with rest := s.rest ++ closing }

@[simp] theorem rest_enclosed (s : Cursor) : s.enclosed.rest = s.rest ++ closing := rfl

@[simp] theorem flags_enclosed (s : Cursor) : s.enclosed.flags = s.flags := rfl

@[simp] theorem names_enclosed (s : Cursor) : s.enclosed.names = s.names := rfl

theorem length_enclosed (s : Cursor) : s.enclosed.rest.length = s.rest.length + 2 := by
  rw [rest_enclosed, List.length_append]
  rfl

/-- What the closing begins with is not ignored, so nothing is. -/
theorem dropIgnored_closing : dropIgnored false closing = closing := by
  decide

/-- A comment goes on over the closing. -/
theorem dropIgnored_comment_closing : dropIgnored true closing = [] := by
  decide

/-- What is ignored before the closing is what is ignored without it, unless the closing belongs
to a comment. -/
theorem dropIgnored_append (inComment : Bool) (cs : List Char) :
    dropIgnored inComment (cs ++ closing) = dropIgnored inComment cs ++ closing ∨
      (dropIgnored inComment cs = [] ∧ dropIgnored inComment (cs ++ closing) = []) := by
  induction cs generalizing inComment with
  | nil =>
    cases inComment with
    | true => exact .inr ⟨rfl, dropIgnored_comment_closing⟩
    | false => exact .inl dropIgnored_closing
  | cons c cs ih =>
    rw [List.cons_append]
    unfold dropIgnored
    split
    · exact ih _
    · split
      · exact ih _
      · split
        · exact ih _
        · exact .inl rfl

theorem Flags.drop_append (f : Flags) (cs : List Char) :
    f.drop (cs ++ closing) = f.drop cs ++ closing ∨
      (f.drop cs = [] ∧ f.drop (cs ++ closing) = []) := by
  unfold Flags.drop
  split
  · exact dropIgnored_append false cs
  · exact .inl rfl

theorem dropIgnored_suffix (inComment : Bool) (cs : List Char) :
    dropIgnored inComment cs <:+ cs := by
  induction cs generalizing inComment with
  | nil => exact List.suffix_rfl
  | cons c cs ih =>
    unfold dropIgnored
    split
    · exact (ih _).trans (List.suffix_cons c cs)
    · split
      · exact (ih _).trans (List.suffix_cons c cs)
      · split
        · exact (ih _).trans (List.suffix_cons c cs)
        · exact List.suffix_rfl

theorem Flags.drop_suffix (f : Flags) (cs : List Char) : f.drop cs <:+ cs := by
  unfold Flags.drop
  split
  · exact dropIgnored_suffix false cs
  · exact List.suffix_rfl

/-! ### Taking characters -/

/-- From one cursor to another, at least `n` characters later. -/
structure Cursor.Reaches (n : Nat) (s t : Cursor) : Prop where
  /-- What is left is the end of what was there. -/
  suffix : t.rest <:+ s.rest
  /-- The characters between the two. -/
  length : t.rest.length + n ≤ s.rest.length

namespace Cursor.Reaches

variable {s t u : Cursor} {m n : Nat}

/-- Nothing is taken where nothing changes. -/
theorem of_eq (h : t.rest = s.rest) : s.Reaches 0 t :=
  ⟨h ▸ List.suffix_rfl, Nat.le_of_eq (congrArg List.length h)⟩

theorem mono (h : s.Reaches n t) (hm : m ≤ n) : s.Reaches m t :=
  ⟨h.suffix, by have := h.length; omega⟩

theorem trans (h₁ : s.Reaches m t) (h₂ : t.Reaches n u) : s.Reaches (m + n) u :=
  ⟨h₂.suffix.trans h₁.suffix, by have := h₁.length; have := h₂.length; omega⟩

/-- Nothing is left where nothing was. -/
theorem rest_nil (h : s.Reaches n t) (hs : s.rest = []) : t.rest = [] :=
  List.suffix_nil.1 (hs ▸ h.suffix)

end Cursor.Reaches

/-! ### Comparing two runs -/

variable {α β : Type}

/-- The outcomes of reading a part by itself and inside of anchors. What is read by itself is
read there as well, and the closing is left, unless a comment swallowed it. What cannot be read
by itself may be read there, but then the rest is as `late` says. -/
structure Compares (late : α → Cursor → Prop) (alone inside : Option (α × Cursor)) : Prop where
  /-- What is read by itself is read inside of anchors. -/
  of_some : ∀ a s, alone = some (a, s) →
    inside = some (a, s.enclosed) ∨ (s.rest = [] ∧ inside = some (a, s))
  /-- What is not read by itself is read late. -/
  of_none : alone = none → ∀ a s, inside = some (a, s) → late a s

/-- Fewer than a number of characters are left. -/
def Left (n : Nat) : α → Cursor → Prop := fun _ s => s.rest.length < n

theorem Compares.mono {late late' : α → Cursor → Prop} {alone inside : Option (α × Cursor)}
    (h : Compares late alone inside) (hl : ∀ a s, late a s → late' a s) :
    Compares late' alone inside :=
  ⟨h.of_some, fun hn a s hs => hl a s (h.of_none hn a s hs)⟩

theorem compares_some (late : α → Cursor → Prop) (a : α) (s : Cursor) :
    Compares late (some (a, s)) (some (a, s.enclosed)) := by
  refine ⟨?_, fun h => (by cases h)⟩
  intro b t h
  cases h
  exact .inl rfl

theorem compares_none (late : α → Cursor → Prop) : Compares late none none :=
  ⟨fun _ _ h => (by cases h), fun _ _ _ h => (by cases h)⟩

/-- Where nothing is left, two runs from the same cursor compare. -/
theorem compares_same (late : α → Cursor → Prop) {r : Option (α × Cursor)}
    (h : ∀ a s, r = some (a, s) → s.rest = []) : Compares late r r := by
  refine ⟨fun a s hs => .inr ⟨h a s hs, hs⟩, ?_⟩
  intro hn a s hs
  rw [hn] at hs
  cases hs

theorem bind_run (x : Reader α) (f : α → Reader β) (s : Cursor) :
    (x >>= f) s = (x s).bind fun p => f p.1 p.2 := by
  show StateT.bind x f s = _
  unfold StateT.bind
  cases x s with
  | none => rfl
  | some p => rfl

theorem bind_eq_some {x : Reader α} {f : α → Reader β} {s u : Cursor} {b : β}
    (h : (x >>= f) s = some (b, u)) : ∃ a t, x s = some (a, t) ∧ f a t = some (b, u) := by
  rw [bind_run, Option.bind_eq_some_iff] at h
  obtain ⟨⟨a, t⟩, hx, hf⟩ := h
  exact ⟨a, t, hx, hf⟩

theorem bind_of_some {x : Reader α} {s t : Cursor} {a : α} (h : x s = some (a, t))
    (f : α → Reader β) : (x >>= f) s = f a t := by
  rw [bind_run, h]
  rfl

/-- Runs that compare go on to compare if what follows does: after what was read by itself, with
nothing left after a swallowed closing, and after what was read late. -/
theorem Compares.bind {late : α → Cursor → Prop} {late' : β → Cursor → Prop} {x y : Reader α}
    {f g : α → Reader β} {s s' : Cursor} (hx : Compares late (x s) (y s'))
    (hf : ∀ a t, x s = some (a, t) → Compares late' (f a t) (g a t.enclosed))
    (hsame : ∀ a t, x s = some (a, t) → t.rest = [] → Compares late' (f a t) (g a t))
    (hlate : ∀ a t, y s' = some (a, t) → late a t → ∀ b u, g a t = some (b, u) → late' b u) :
    Compares late' ((x >>= f) s) ((y >>= g) s') := by
  cases hxs : x s with
  | none =>
    refine ⟨fun b u h => ?_, fun _ b u h => ?_⟩
    · obtain ⟨a, t, hxa, _⟩ := bind_eq_some h
      rw [hxs] at hxa
      cases hxa
    · obtain ⟨a, t, hya, hga⟩ := bind_eq_some h
      exact hlate a t hya (hx.of_none hxs a t hya) b u hga
  | some p =>
    obtain ⟨a, t⟩ := p
    rw [bind_of_some hxs]
    rcases hx.of_some a t hxs with hys | ⟨hrest, hys⟩
    · rw [bind_of_some hys]
      exact hf a t hxs
    · rw [bind_of_some hys]
      exact hsame a t hxs hrest

/-! ### Readers that follow each other -/

/-- For cursors with at least `least` and fewer than `bound` characters left, the second reader
reads inside of anchors what the first one reads by itself, or else reads it late. With at least
`least` characters left both take `takes` of them or more, and with none left they are the
same. -/
structure Follows (bound least takes : Nat) (late : α → Cursor → Prop)
    (alone inside : Reader α) : Prop where
  /-- What the first reader takes. -/
  takes_alone : ∀ s a t, least ≤ s.rest.length → alone s = some (a, t) → s.Reaches takes t
  /-- What the second reader takes. -/
  takes_inside : ∀ s a t, least ≤ s.rest.length → inside s = some (a, t) → s.Reaches takes t
  /-- What is read inside of anchors. -/
  compares : ∀ s, least ≤ s.rest.length → s.rest.length < bound →
    Compares late (alone s) (inside s.enclosed)
  /-- What is read where nothing is left. -/
  same : ∀ s, least ≤ s.rest.length → s.rest.length < bound → s.rest = [] → alone s = inside s

/-- A reader that follows itself. -/
abbrev Tracks (bound least takes : Nat) (late : α → Cursor → Prop) (x : Reader α) : Prop :=
  Follows bound least takes late x x

/-- A reader follows itself if its outcomes compare. -/
theorem tracks_of_compares {bound least takes : Nat} {late : α → Cursor → Prop} {x : Reader α}
    (htakes : ∀ s a t, least ≤ s.rest.length → x s = some (a, t) → s.Reaches takes t)
    (hcompares : ∀ s, least ≤ s.rest.length → Compares late (x s) (x s.enclosed)) :
    Tracks bound least takes late x :=
  ⟨htakes, htakes, fun s hs _ => hcompares s hs, fun _ _ _ _ => rfl⟩

namespace Follows

variable {bound least takes m n : Nat} {late : α → Cursor → Prop} {x y : Reader α}

theorem mono {least' takes' : Nat} {late' : α → Cursor → Prop}
    (h : Follows bound least takes late x y) (hleast : least ≤ least') (htakes : takes' ≤ takes)
    (hlate : ∀ a s, late a s → late' a s) : Follows bound least' takes' late' x y where
  takes_alone s a t hs hx := (h.takes_alone s a t (Nat.le_trans hleast hs) hx).mono htakes
  takes_inside s a t hs hy := (h.takes_inside s a t (Nat.le_trans hleast hs) hy).mono htakes
  compares s hs hb := (h.compares s (Nat.le_trans hleast hs) hb).mono hlate
  same s hs := h.same s (Nat.le_trans hleast hs)

/-- Readers follow each other under smaller bounds as well. -/
theorem within {bound' : Nat} (h : Follows bound least takes late x y) (hb : bound' ≤ bound) :
    Follows bound' least takes late x y where
  takes_alone := h.takes_alone
  takes_inside := h.takes_inside
  compares s hs hlt := h.compares s hs (Nat.lt_of_lt_of_le hlt hb)
  same s hs hlt := h.same s hs (Nat.lt_of_lt_of_le hlt hb)

theorem weaken {least' takes' : Nat} (h : Follows bound least takes late x y)
    (hleast : least ≤ least') (htakes : takes' ≤ takes) : Follows bound least' takes' late x y :=
  h.mono hleast htakes fun _ _ hl => hl

/-- A reader that is never late may be called late in any way. -/
theorem never (h : Follows bound least takes (Left 0) x y) : Follows bound least takes late x y :=
  h.mono (Nat.le_refl _) (Nat.le_refl _) fun _ _ hl => absurd hl (Nat.not_lt_zero _)

/-- One reader after another. -/
theorem bind {takes' : Nat} {late' : β → Cursor → Prop} {f g : α → Reader β}
    (hx : Follows bound least takes late x y)
    (hf : ∀ a, Follows (bound - takes) 0 takes' late' (f a) (g a))
    (hlate : ∀ a t, late a t → ∀ b u, g a t = some (b, u) → late' b u) :
    Follows bound least (takes + takes') late' (x >>= f) (y >>= g) := by
  refine ⟨?_, ?_, ?_, ?_⟩
  · intro s b u hs hu
    obtain ⟨a, t, hxa, hfa⟩ := bind_eq_some hu
    exact (hx.takes_alone s a t hs hxa).trans ((hf a).takes_alone t b u (Nat.zero_le _) hfa)
  · intro s b u hs hu
    obtain ⟨a, t, hya, hga⟩ := bind_eq_some hu
    exact (hx.takes_inside s a t hs hya).trans ((hf a).takes_inside t b u (Nat.zero_le _) hga)
  · intro s hs hb
    have hbound : ∀ a t, x s = some (a, t) → t.rest.length < bound - takes := by
      intro a t hxa
      have := (hx.takes_alone s a t hs hxa).length
      omega
    refine (hx.compares s hs hb).bind ?_ ?_ fun a t _ => hlate a t
    · intro a t hxa
      exact (hf a).compares t (Nat.zero_le _) (hbound a t hxa)
    · -- with nothing left, nothing is left afterwards
      intro a t hxa ht
      rw [(hf a).same t (Nat.zero_le _) (hbound a t hxa) ht]
      exact compares_same late' fun b u hu =>
        ((hf a).takes_inside t b u (Nat.zero_le _) hu).rest_nil ht
  · intro s hs hb hnil
    have hxy := hx.same s hs hb hnil
    cases hxa : x s with
    | none =>
      rw [bind_run, bind_run, ← hxy, hxa]
      rfl
    | some p =>
      obtain ⟨a, t⟩ := p
      have hreach := hx.takes_alone s a t hs hxa
      have hlength := hreach.length
      rw [bind_of_some hxa, bind_of_some (hxy ▸ hxa)]
      exact (hf a).same t (Nat.zero_le _) (by omega) (hreach.rest_nil hnil)

/-- One reader after another, where the second takes more than the first may be late. -/
theorem bind_left (takes' : Nat) {total : Nat} {f g : α → Reader β}
    (hx : Follows bound least takes (Left m) x y)
    (hf : ∀ a, Follows (bound - takes) 0 takes' (Left n) (f a) (g a))
    (hlate : m ≤ n + takes') (htotal : total ≤ takes + takes') :
    Follows bound least total (Left n) (x >>= f) (y >>= g) := by
  refine (hx.bind hf ?_).weaken (Nat.le_refl _) htotal
  intro a t ht b u hu
  have h := ((hf a).takes_inside t b u (Nat.zero_le _) hu).length
  have ht' : t.rest.length < m := ht
  show u.rest.length < n
  omega

end Follows

/-! ### Steps that fail or leave the text alone -/

section Steps

variable {bound least takes n : Nat} {late : α → Cursor → Prop}

/-- A step that changes no more than the flags and the names of groups is never late. -/
theorem tracks_of_run {x : Reader α} (a : Cursor → α) (next : Cursor → Cursor)
    (hrun : ∀ s, x s = some (a s, next s)) (hrest : ∀ s, (next s).rest = s.rest)
    (ha : ∀ s, a s.enclosed = a s) (hnext : ∀ s, next s.enclosed = (next s).enclosed) :
    Tracks bound least 0 late x := by
  refine tracks_of_compares ?_ ?_
  · intro s b t _ h
    rw [hrun] at h
    cases h
    exact .of_eq (hrest s)
  · intro s _
    rw [hrun, hrun, ha, hnext]
    exact compares_some _ (a s) (next s)

theorem tracks_pure (a : α) : Tracks bound least 0 late (pure a : Reader α) :=
  tracks_of_run (fun _ => a) (fun s => s) (fun _ => rfl) (fun _ => rfl) (fun _ => rfl)
    fun _ => rfl

/-- A reader whose result is changed. -/
theorem Follows.returning {m : Nat} {x y : Reader α} (h : Follows bound least takes (Left m) x y)
    (f : α → β) : Follows bound least takes (Left m) (do return f (← x)) (do return f (← y)) :=
  h.bind_left 0 (fun a => tracks_pure (f a)) (Nat.le_refl _) (Nat.le_refl _)

theorem tracks_failure : Tracks bound least takes late (failure : Reader α) :=
  tracks_of_compares (fun _ _ _ _ h => (by cases h)) fun _ _ => compares_none _

theorem follows_ite {c : Prop} [Decidable c] {x y x' y' : Reader α}
    (hx : c → Follows bound least takes late x x')
    (hy : ¬ c → Follows bound least takes late y y') :
    Follows bound least takes late (if c then x else y) (if c then x' else y') := by
  by_cases h : c
  · rw [if_pos h, if_pos h]
    exact hx h
  · rw [if_neg h, if_neg h]
    exact hy h

theorem get_bind (f : Cursor → Reader α) (s : Cursor) : (get >>= f) s = f s s := rfl

/-- Asking for the flags changes nothing. -/
theorem follows_flags_bind {f g : Flags → Reader α}
    (hf : ∀ fl, Follows bound least takes late (f fl) (g fl)) :
    Follows bound least takes late (Reader.flags >>= f) (Reader.flags >>= g) where
  takes_alone s := (hf s.flags).takes_alone s
  takes_inside s := (hf s.flags).takes_inside s
  compares s := (hf s.flags).compares s
  same s := (hf s.flags).same s

/-- A condition changes nothing, and it is the same inside of anchors. -/
theorem follows_require_bind {b : Bool} {f g : Unit → Reader α}
    (hf : b = true → Follows bound least takes late (f ()) (g ())) :
    Follows bound least takes late (Reader.require b >>= f) (Reader.require b >>= g) := by
  cases b with
  | true => exact hf rfl
  | false => exact tracks_failure

theorem tracks_orRefuse (o : Option α) : Tracks bound least 0 late (Reader.orRefuse o) := by
  cases o with
  | none => exact tracks_failure
  | some a => exact tracks_pure a

theorem tracks_orRefuse_return (o : Option α) (f : α → β) {late : β → Cursor → Prop} :
    Tracks bound least 0 late (do return f (← Reader.orRefuse o)) := by
  cases o with
  | none => exact tracks_failure
  | some a => exact tracks_pure (f a)

/-- What is refused fails, and what is not changes nothing. -/
theorem orRefuse_bind_run (o : Option α) (f : α → Reader β) (s : Cursor) :
    (Reader.orRefuse o >>= f) s = o.bind fun a => f a s := by
  cases o with
  | none => rfl
  | some a => rfl

theorem tracks_setFlags (f : Flags) {late : Unit → Cursor → Prop} :
    Tracks bound least 0 late (Reader.setFlags f) :=
  tracks_of_run (fun _ => ()) (fun s => { s with flags := f }) (fun _ => rfl) (fun _ => rfl)
    (fun _ => rfl) fun _ => rfl

end Steps

/-! ### Loops -/

section Loops

variable {γ : Type} {takes : Nat} {late : α → Cursor → Prop}

/-- A loop follows itself with more turns, if one turn does when the turns after it do. The two
more turns are for the closing. -/
theorem follows_loop {x : Nat → γ → Reader α} (hzero : ∀ c, x 0 c = failure)
    (hturn : ∀ bound fuel fuel', (∀ c, Follows bound 0 takes late (x fuel c) (x fuel' c)) →
      ∀ c, Follows (bound + 1) 0 takes late (x (fuel + 1) c) (x (fuel' + 1) c))
    {fuel fuel' : Nat} (h : fuel + 2 ≤ fuel') (c : γ) :
    Follows fuel 0 takes late (x fuel c) (x fuel' c) := by
  -- what is taken does not depend on the number of turns, so no cursor need be within bounds
  have htakes : ∀ fuel c, Follows 0 0 takes late (x fuel c) (x fuel c) := by
    intro fuel
    induction fuel with
    | zero =>
      intro c
      rw [hzero]
      exact tracks_failure
    | succ fuel ih =>
      intro c
      exact (hturn 0 fuel fuel ih c).within (Nat.zero_le _)
  induction fuel generalizing fuel' c with
  | zero =>
    exact ⟨(htakes 0 c).takes_alone, (htakes fuel' c).takes_inside,
      fun _ _ hb => absurd hb (Nat.not_lt_zero _), fun _ _ hb => absurd hb (Nat.not_lt_zero _)⟩
  | succ fuel ih =>
    obtain ⟨n, rfl⟩ : ∃ n, fuel' = n + 1 := ⟨fuel' - 1, by omega⟩
    exact hturn fuel fuel n (fun d => ih (by omega) d) c

/-- A loop that gets a turn for each character that is left. -/
theorem tracks_turnsLeft_bind {bound least : Nat} {f : Nat → Reader α}
    (h : ∀ fuel, Follows fuel least takes late (f fuel) (f (fuel + 2))) :
    Tracks bound least takes late (Reader.turnsLeft >>= f) := by
  have hrun : ∀ s, (Reader.turnsLeft >>= f) s = f (s.rest.length + 1) s := fun _ => rfl
  refine tracks_of_compares ?_ ?_
  · intro s a t hs hx
    rw [hrun] at hx
    exact (h (s.rest.length + 1)).takes_alone s a t hs hx
  · intro s hs
    have hlength : s.enclosed.rest.length + 1 = s.rest.length + 1 + 2 := by
      rw [length_enclosed]
    rw [hrun, hrun, hlength]
    exact (h (s.rest.length + 1)).compares s hs (Nat.lt_succ_self _)

end Loops

/-! ### Steps over characters -/

section Characters

variable {bound takes n : Nat} {late : α → Cursor → Prop}

theorem tracks_advance : Tracks bound 1 1 (Left 0) Reader.advance := by
  refine tracks_of_compares ?_ ?_
  · intro s a t hs h
    cases h
    refine ⟨List.drop_suffix 1 s.rest, ?_⟩
    show (s.rest.drop 1).length + 1 ≤ s.rest.length
    rw [List.length_drop]
    omega
  · intro s hs
    have hdrop : (s.rest ++ closing).drop 1 = s.rest.drop 1 ++ closing :=
      List.drop_append_of_le_length hs
    have hinside : Reader.advance s.enclosed =
        some ((), Cursor.enclosed { s with rest := s.rest.drop 1 }) := by
      show some ((), { s with rest := (s.rest ++ closing).drop 1 }) = _
      rw [hdrop]
      rfl
    rw [hinside]
    exact compares_some _ () { s with rest := s.rest.drop 1 }

/-- Passing over one character before a result. -/
theorem tracks_advance_return (a : α) :
    Tracks bound 1 1 late (Reader.advance >>= fun _ => pure a) :=
  (tracks_advance.returning fun _ => a).never

theorem tracks_skipIgnored : Tracks bound 0 0 (Left 0) Reader.skipIgnored := by
  refine tracks_of_compares ?_ ?_
  · intro s a t _ h
    cases h
    exact ⟨s.flags.drop_suffix s.rest, s.flags.drop_length s.rest⟩
  · intro s _
    refine ⟨?_, fun h => (by cases h)⟩
    intro a t h
    cases h
    rcases s.flags.drop_append s.rest with hd | ⟨hnil, hd⟩
    · left
      show some ((), { s with rest := s.flags.drop (s.rest ++ closing) }) = _
      rw [hd]
      rfl
    · -- the comment at the end has swallowed the closing
      right
      refine ⟨hnil, ?_⟩
      show some ((), { s with rest := s.flags.drop (s.rest ++ closing) }) =
        some ((), { s with rest := s.flags.drop s.rest })
      rw [hd, hnil]

theorem tracks_step : Tracks bound 1 1 (Left 0) Reader.step :=
  tracks_advance.bind_left 0 (fun _ => tracks_skipIgnored) (Nat.zero_le _) (Nat.le_refl _)

theorem current_run (s : Cursor) :
    Reader.current s = s.rest.head?.map fun c => (c, s) := by
  obtain ⟨rest, flags, names, groups⟩ := s
  cases rest with
  | nil => rfl
  | cons c cs => rfl

theorem current_bind_nil (f : Char → Reader α) {s : Cursor} (h : s.rest = []) :
    (Reader.current >>= f) s = none := by
  rw [bind_run, current_run, h]
  rfl

theorem current_bind_cons (f : Char → Reader α) {s : Cursor} {c : Char} {cs : List Char}
    (h : s.rest = c :: cs) : (Reader.current >>= f) s = f c s := by
  rw [bind_run, current_run, h]
  rfl

theorem one_le_length {s : Cursor} {c : Char} {cs : List Char} (h : s.rest = c :: cs) :
    1 ≤ s.rest.length := by
  rw [h]
  exact Nat.succ_le_succ (Nat.zero_le _)

/-- At the end of a pattern there is the closing. -/
theorem rest_enclosed_nil {s : Cursor} (h : s.rest = []) : s.enclosed.rest = closing := by
  rw [rest_enclosed, h]
  rfl

theorem rest_enclosed_cons {s : Cursor} {c : Char} {cs : List Char} (h : s.rest = c :: cs) :
    s.enclosed.rest = c :: (cs ++ closing) := by
  rw [rest_enclosed, h]
  rfl

/-- What takes a number of characters after a look at the first one. -/
theorem takes_current_bind {f : Char → Reader α}
    (hf : ∀ c s a t, 1 ≤ s.rest.length → f c s = some (a, t) → s.Reaches takes t) (s : Cursor)
    (a : α) (t : Cursor) (h : (Reader.current >>= f) s = some (a, t)) : s.Reaches takes t := by
  cases hs : s.rest with
  | nil =>
    rw [current_bind_nil f hs] at h
    cases h
  | cons c cs =>
    rw [current_bind_cons f hs] at h
    exact hf c s a t (one_le_length hs) h

/-- Looking at the next character, of which there is one afterwards. At the end of a pattern it
is the parenthesis of the closing. -/
theorem follows_current_bind {f g : Char → Reader α}
    (hf : ∀ c, Follows bound 1 takes late (f c) (g c))
    (hlate : ∀ s a t, s.rest = closing → g ')' s = some (a, t) → late a t) :
    Follows bound 0 takes late (Reader.current >>= f) (Reader.current >>= g) := by
  refine ⟨?_, ?_, ?_, ?_⟩
  · intro s a t _
    exact takes_current_bind (fun c => (hf c).takes_alone) s a t
  · intro s a t _
    exact takes_current_bind (fun c => (hf c).takes_inside) s a t
  · intro s _ hb
    cases hs : s.rest with
    | nil =>
      have hclosing := rest_enclosed_nil hs
      rw [current_bind_nil f hs, current_bind_cons g hclosing]
      exact ⟨fun _ _ h => (by cases h), fun _ a t h => hlate s.enclosed a t hclosing h⟩
    | cons c cs =>
      rw [current_bind_cons f hs, current_bind_cons g (rest_enclosed_cons hs)]
      exact (hf c).compares s (one_le_length hs) hb
  · intro s _ _ hs
    rw [current_bind_nil f hs, current_bind_nil g hs]

/-- Looking at the next character before so many are taken that too few of the closing would be
left. -/
theorem follows_current_bind_late {f g : Char → Reader α}
    (hf : ∀ c, Follows bound 1 takes late (f c) (g c)) (hn : 2 < n + takes)
    (hleft : ∀ a s, Left n a s → late a s) :
    Follows bound 0 takes late (Reader.current >>= f) (Reader.current >>= g) := by
  refine follows_current_bind hf ?_
  intro s a t hs h
  -- the parenthesis of the closing was looked at
  have hlength := ((hf ')').takes_inside s a t (one_le_length hs) h).length
  rw [hs] at hlength
  have hclosing : closing.length = 2 := rfl
  apply hleft
  show t.rest.length < n
  omega

theorem follows_current_bind_left {f g : Char → Reader α}
    (hf : ∀ c, Follows bound 1 takes (Left n) (f c) (g c)) (hn : 2 < n + takes) :
    Follows bound 0 takes (Left n) (Reader.current >>= f) (Reader.current >>= g) :=
  follows_current_bind_late hf hn fun _ _ h => h

theorem tracks_discard_current : Tracks bound 0 0 (Left 3) (discard Reader.current) := by
  have h : discard Reader.current = Reader.current >>= fun _ => pure () := rfl
  rw [h]
  exact follows_current_bind_left
    (fun _ => tracks_pure ()) (by decide)

theorem tracks_expect (c : Char) : Tracks bound 0 1 (Left 2) (Reader.expect c) := by
  refine follows_current_bind_left (fun d => ?_) (by decide)
  refine follows_ite (fun _ => ?_) (fun _ => tracks_failure)
  exact tracks_advance.never

/-- Looking for a next character, where the parenthesis of the closing is as good as none. -/
theorem follows_peek_bind {f g : Option Char → Reader α}
    (hsome : ∀ c, Follows bound 1 takes late (f (some c)) (g (some c)))
    (hnone : Follows bound 0 takes late (f none) (g none)) (hend : g (some ')') = g none) :
    Follows bound 0 takes late (Reader.peek >>= f) (Reader.peek >>= g) := by
  have hrun : ∀ (h : Option Char → Reader α) s, (Reader.peek >>= h) s = h s.rest.head? s :=
    fun _ _ => rfl
  -- what is taken does not depend on whether the text is enclosed
  have htakes : ∀ h : Option Char → Reader α,
      (∀ c s a t, 1 ≤ s.rest.length → h (some c) s = some (a, t) → s.Reaches takes t) →
      (∀ s a t, 0 ≤ s.rest.length → h none s = some (a, t) → s.Reaches takes t) →
      ∀ s a t, (Reader.peek >>= h) s = some (a, t) → s.Reaches takes t := by
    intro h hs hn s a t hr
    rw [hrun] at hr
    cases hrest : s.rest with
    | nil =>
      rw [hrest] at hr
      exact hn s a t (Nat.zero_le _) hr
    | cons c cs =>
      rw [hrest] at hr
      exact hs c s a t (one_le_length hrest) hr
  refine ⟨?_, ?_, ?_, ?_⟩
  · intro s a t _
    exact htakes f (fun c => (hsome c).takes_alone) hnone.takes_alone s a t
  · intro s a t _
    exact htakes g (fun c => (hsome c).takes_inside) hnone.takes_inside s a t
  · intro s hs hb
    rw [hrun, hrun]
    cases hrest : s.rest with
    | nil =>
      -- at the end the enclosed text shows the closing bracket, which counts as the end
      rw [rest_enclosed_nil hrest]
      show Compares late (f none s) (g (some ')') s.enclosed)
      rw [hend]
      exact hnone.compares s (Nat.zero_le _) hb
    | cons c cs =>
      rw [rest_enclosed_cons hrest]
      exact (hsome c).compares s (one_le_length hrest) hb
  · intro s hs hb hnil
    rw [hrun, hrun, hnil]
    exact hnone.same s (Nat.zero_le _) hb hnil

/-! ### Given texts -/

/-- A text without a parenthesis stands at the beginning of a pattern if it stands there inside
of anchors. -/
theorem isPrefixOf_append_closing {expected : List Char} (h : ')' ∉ expected) (cs : List Char) :
    expected.isPrefixOf (cs ++ closing) = expected.isPrefixOf cs := by
  induction expected generalizing cs with
  | nil => rfl
  | cons e es ih =>
    rw [List.mem_cons, not_or] at h
    cases cs with
    | nil =>
      show (e == ')' && es.isPrefixOf ['$']) = false
      rw [beq_eq_false_iff_ne.2 (Ne.symm h.1), Bool.false_and]
    | cons c cs =>
      show (e == c && es.isPrefixOf (cs ++ closing)) = (e == c && es.isPrefixOf cs)
      rw [ih h.2]

theorem length_le_of_isPrefixOf {expected cs : List Char} (h : expected.isPrefixOf cs = true) :
    expected.length ≤ cs.length :=
  (List.isPrefixOf_iff_prefix.1 h).length_le

theorem accept_run (expected : List Char) (s : Cursor) : Reader.accept expected s =
    if expected.isPrefixOf s.rest then
      some (true, { s with rest := s.rest.drop expected.length })
    else some (false, s) := by
  show (if expected.isPrefixOf s.rest then _ else _ : Reader Bool) s = _
  split
  · rfl
  · rfl

/-- A text that is not accepted is left alone. -/
theorem accept_cases {expected : List Char} {s t : Cursor} {b : Bool}
    (h : Reader.accept expected s = some (b, t)) :
    (b = false ∧ t = s) ∨ (b = true ∧ s.Reaches expected.length t) := by
  rw [accept_run] at h
  split at h
  · next hp =>
    cases h
    have hle := length_le_of_isPrefixOf hp
    refine .inr ⟨rfl, List.drop_suffix _ s.rest, ?_⟩
    show (s.rest.drop _).length + _ ≤ s.rest.length
    rw [List.length_drop]
    omega
  · cases h
    exact .inl ⟨rfl, rfl⟩

theorem tracks_accept {expected : List Char} (h : ')' ∉ expected) :
    Tracks bound 0 0 (Left 0) (Reader.accept expected) := by
  refine tracks_of_compares ?_ ?_
  · intro s b t _ hs
    rcases accept_cases hs with ⟨_, rfl⟩ | ⟨_, hreach⟩
    · exact .of_eq rfl
    · exact hreach.mono (Nat.zero_le _)
  · intro s _
    rw [accept_run, accept_run, rest_enclosed, isPrefixOf_append_closing h]
    split
    · next hp =>
      rw [List.drop_append_of_le_length (length_le_of_isPrefixOf hp)]
      exact compares_some _ true { s with rest := s.rest.drop expected.length }
    · exact compares_some _ false s

theorem tracks_laziness : Tracks bound 0 0 (Left 0) Reader.laziness :=
  (tracks_accept (by decide)).bind_left 0 (fun _ => follows_flags_bind fun _ => tracks_pure _)
    (Nat.zero_le _) (Nat.le_refl _)

end Characters

/-! ### Readers for what may be there -/

/-- A reader for something that may stand at the cursor: it leaves the text alone or takes one
character or more. -/
structure Offers (x : Reader (Option α)) : Prop where
  /-- What is found inside of anchors. -/
  tracks : ∀ bound, Tracks bound 0 0 (Left 2) x
  /-- Where nothing is found nothing changes, and what is found is taken. -/
  found : ∀ s o t, x s = some (o, t) → (o = none ∧ t = s) ∨ (o ≠ none ∧ s.Reaches 1 t)

namespace Offers

variable {bound least takes : Nat} {x : Reader (Option α)} {f g : Option α → Reader β}

theorem none_stays (hx : Offers x) (s t : Cursor) (h : x s = some (none, t)) : t = s := by
  rcases hx.found s none t h with ⟨_, ht⟩ | ⟨hne, _⟩
  · exact ht
  · exact absurd rfl hne

theorem some_takes (hx : Offers x) (s : Cursor) (a : α) (t : Cursor)
    (h : x s = some (some a, t)) : s.Reaches 1 t := by
  rcases hx.found s (some a) t h with ⟨hnone, _⟩ | ⟨_, hreach⟩
  · exact absurd hnone (Option.some_ne_none a)
  · exact hreach

/-- What is taken after something that may be there. -/
theorem takes_bind (hx : Offers x)
    (hnone : ∀ s a t, least ≤ s.rest.length → f none s = some (a, t) → s.Reaches takes t)
    (hsome : ∀ a s b t, 0 ≤ s.rest.length → f (some a) s = some (b, t) → s.Reaches takes t)
    (s : Cursor) (b : β) (u : Cursor) (hs : least ≤ s.rest.length)
    (h : (x >>= f) s = some (b, u)) : s.Reaches takes u := by
  obtain ⟨o, t, hxt, hft⟩ := bind_eq_some h
  cases o with
  | none =>
    have heq := hx.none_stays s t hxt
    subst heq
    exact hnone t b u hs hft
  | some a =>
    have hreach := (hx.some_takes s a t hxt).trans (hsome a t b u (Nat.zero_le _) hft)
    exact hreach.mono (Nat.le_add_left _ _)

/-- What follows something that may be there: from the same place, or with one character less. -/
theorem bind (hx : Offers x) (hnone : Follows bound least takes (Left 2) (f none) (g none))
    (hsome : ∀ a, Follows (bound - 1) 0 takes (Left 2) (f (some a)) (g (some a))) :
    Follows bound least takes (Left 2) (x >>= f) (x >>= g) := by
  have hless : ∀ {s t : Cursor} {a : α}, s.rest.length < bound → x s = some (some a, t) →
      t.rest.length < bound - 1 := by
    intro s t a hb hxt
    have := (hx.some_takes s a t hxt).length
    omega
  have hsame : ∀ s, least ≤ s.rest.length → s.rest.length < bound → ∀ o t,
      x s = some (o, t) → t.rest = [] → f o t = g o t := by
    intro s hs hb o t hxt ht
    cases o with
    | none =>
      have heq := hx.none_stays s t hxt
      subst heq
      exact hnone.same t hs hb ht
    | some a => exact (hsome a).same t (Nat.zero_le _) (hless hb hxt) ht
  refine ⟨hx.takes_bind hnone.takes_alone fun a => (hsome a).takes_alone,
    hx.takes_bind hnone.takes_inside fun a => (hsome a).takes_inside, ?_, ?_⟩
  · intro s hs hb
    refine ((hx.tracks bound).compares s (Nat.zero_le _) hb).bind ?_ ?_ ?_
    · intro o t hxt
      cases o with
      | none =>
        have heq := hx.none_stays s t hxt
        subst heq
        exact hnone.compares t hs hb
      | some a => exact (hsome a).compares t (Nat.zero_le _) (hless hb hxt)
    · intro o t hxt ht
      rw [← hsame s hs hb o t hxt ht]
      refine compares_same _ fun b u hu => ?_
      cases o with
      | none =>
        have heq := hx.none_stays s t hxt
        subst heq
        exact (hnone.takes_alone t b u hs hu).rest_nil ht
      | some a => exact ((hsome a).takes_alone t b u (Nat.zero_le _) hu).rest_nil ht
    · -- what is late has taken something, since the closing is two characters long
      intro o t hxt ht b u hu
      have ht' : t.rest.length < 2 := ht
      cases o with
      | none =>
        have heq := hx.none_stays _ t hxt
        rw [heq, length_enclosed] at ht'
        omega
      | some a =>
        have := ((hsome a).takes_inside t b u (Nat.zero_le _) hu).length
        show u.rest.length < 2
        omega
  · intro s hs hb hnil
    cases hxs : x s with
    | none =>
      rw [bind_run, bind_run, hxs]
      rfl
    | some p =>
      obtain ⟨o, t⟩ := p
      have ht : t.rest = [] := by
        cases o with
        | none => rw [hx.none_stays s t hxs, hnil]
        | some a => exact (hx.some_takes s a t hxs).rest_nil hnil
      rw [bind_of_some hxs, bind_of_some hxs]
      exact hsame s hs hb o t hxs ht

end Offers

end Admission.Pattern

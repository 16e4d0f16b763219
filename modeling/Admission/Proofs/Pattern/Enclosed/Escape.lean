import Admission.Proofs.Pattern.Enclosed.Reader

/-!
# Enclosed escapes — what a backslash makes of the end of a pattern

  Characters in braces end at their brace, of which the closing has none, so they read
  the same inside of anchors. A digit that is missing cannot come from the closing
  either.

  One escape is different. After the letter `b` an opening brace at the end of a pattern
  is malformed, while inside of anchors it is not the brace of a name, since the closing
  follows: it is left to be read as a repetition (`AtBrace`), and that goes wrong in turn.
-/

namespace Admission.Pattern

open Admission.Unicode

namespace Reader

variable {bound : Nat}

/-! ### Braces -/

/-- What is between braces ends only at a brace. -/
theorem untilBrace_eq_none {cs : List Char} (h : '\x7d' ∉ cs) (f : Flags) (fuel : Nat) :
    untilBrace f fuel cs = none := by
  induction fuel generalizing cs with
  | zero => rfl
  | succ fuel ih =>
    unfold untilBrace
    have hdrop : '\x7d' ∉ f.drop cs := fun hm => h ((f.drop_suffix cs).subset hm)
    split
    · rfl
    · next rest heq =>
      rw [heq] at hdrop
      exact absurd List.mem_cons_self hdrop
    · next c rest _ heq =>
      rw [heq] at hdrop
      rw [ih fun hm => hdrop (List.mem_cons_of_mem c hm)]
      rfl

/-- A brace is passed over at the end. -/
theorem untilBrace_left {f : Flags} {fuel : Nat} {cs name left : List Char}
    (h : untilBrace f fuel cs = some (name, left)) :
    left <:+ cs ∧ left.length + 1 ≤ cs.length := by
  induction fuel generalizing cs name with
  | zero => cases h
  | succ fuel ih =>
    have hdrop := f.drop_suffix cs
    have hlength := f.drop_length cs
    unfold untilBrace at h
    split at h
    · cases h
    · next rest heq =>
      cases h
      rw [heq] at hdrop hlength
      exact ⟨(List.suffix_cons _ _).trans hdrop, hlength⟩
    · next c rest _ heq =>
      obtain ⟨⟨name', left'⟩, hrest, he⟩ := Option.map_eq_some_iff.1 h
      cases he
      obtain ⟨hsuffix, hshort⟩ := ih hrest
      rw [heq] at hdrop hlength
      rw [List.length_cons] at hlength
      exact ⟨(hsuffix.trans (List.suffix_cons _ _)).trans hdrop, by omega⟩

/-- Between braces a pattern reads the same inside of anchors. -/
theorem untilBrace_append {f : Flags} {fuel fuel' : Nat} {cs : List Char} (h : cs.length < fuel)
    (h' : cs.length < fuel') : untilBrace f fuel' (cs ++ closing) =
      (untilBrace f fuel cs).map fun p => (p.1, p.2 ++ closing) := by
  induction fuel generalizing fuel' cs with
  | zero => cases h
  | succ fuel ih =>
    obtain ⟨fuel', rfl⟩ : ∃ n, fuel' = n + 1 := ⟨fuel' - 1, by omega⟩
    have hdrop := f.drop_length cs
    have hclosing : ∀ n, untilBrace f n closing = none :=
      untilBrace_eq_none (by decide) f
    unfold untilBrace
    rcases f.drop_append cs with hd | ⟨hnil, hd⟩
    · rw [hd]
      cases hcs : f.drop cs with
      | nil =>
        -- after the pattern there is no brace any more
        show Option.map _ (untilBrace f fuel' ['$']) = none
        rw [untilBrace_eq_none (by decide)]
        rfl
      | cons c rest =>
        rw [hcs, List.length_cons] at hdrop
        by_cases hc : c = '\x7d'
        · subst hc
          rfl
        · have hrest := @ih fuel' rest (by omega) (by omega)
          rw [List.cons_append]
          simp only [hrest, Option.map_map]
          rfl
    · rw [hd, hnil]
      rfl

/-! ### Numbers and classes -/

theorem tracks_hexDigits (k n : Nat) : Tracks bound 0 k (Left 2) (hexDigits k n) := by
  induction k generalizing n bound with
  | zero => exact tracks_pure n
  | succ k ih =>
    unfold hexDigits
    refine follows_current_bind_left (fun c => ?_) (by omega)
    cases hexValue? c with
    | none => exact tracks_failure
    | some d => exact tracks_step.bind_left k (fun _ => ih _) (Nat.zero_le _) (by omega)

/-- What stands between braces is read without looking at the closing. -/
theorem tracks_braced : Tracks bound 1 2 (Left 0) braced := by
  have hrun : ∀ s : Cursor, (do
      let s ← get
      let p ← orRefuse (untilBrace s.flags (s.rest.length + 1) s.rest)
      setRest p.2
      return p.1 : Reader (List Char)) s =
      (untilBrace s.flags (s.rest.length + 1) s.rest).map fun p =>
        (p.1, { s with rest := p.2 }) := by
    intro s
    rw [get_bind, orRefuse_bind_run]
    cases untilBrace s.flags (s.rest.length + 1) s.rest with
    | none => rfl
    | some p => rfl
  unfold braced
  refine tracks_advance.bind_left 1 (fun _ => tracks_of_compares ?_ ?_) (Nat.zero_le _)
    (Nat.le_refl _)
  · intro s name t _ h
    rw [hrun] at h
    obtain ⟨p, hp, he⟩ := Option.map_eq_some_iff.1 h
    cases he
    obtain ⟨hsuffix, hlength⟩ := untilBrace_left hp
    exact ⟨hsuffix, hlength⟩
  · intro s _
    have happend := untilBrace_append (f := s.flags) (Nat.lt_succ_self s.rest.length)
      (show s.rest.length < s.enclosed.rest.length + 1 by rw [length_enclosed]; omega)
    rw [hrun, hrun]
    show Compares _ _ ((untilBrace s.flags (s.enclosed.rest.length + 1) (s.rest ++ closing)).map _)
    rw [happend]
    cases untilBrace s.flags (s.rest.length + 1) s.rest with
    | none => exact compares_none _
    | some p => exact compares_some _ p.1 { s with rest := p.2 }

theorem tracks_numbered {digits : Nat} (h : 0 < digits) :
    Tracks bound 1 1 (Left 2) (numbered digits) := by
  have hliteral : ∀ bound (o : Option Char) byte, Tracks bound 0 0 (Left 2)
      (do return Primitive.literal (← orRefuse o) byte) := fun _ o byte =>
    tracks_orRefuse_return o fun c => Primitive.literal c byte
  unfold numbered
  refine tracks_step.bind_left 1 (fun _ => ?_) (Nat.zero_le _) (by omega)
  refine follows_current_bind_left (fun c => follows_ite (fun _ => ?_) (fun _ => ?_)) (by decide)
  · exact tracks_braced.bind_left 0 (fun name => follows_require_bind fun _ => hliteral _ _ _)
      (Nat.zero_le _) (by omega)
  · exact ((tracks_hexDigits digits 0).bind_left 0 (fun n => hliteral _ _ _) (by omega)
      (Nat.le_refl _)).weaken (Nat.zero_le _) (by omega)

theorem tracks_propertyClass (negated : Bool) :
    Tracks bound 1 1 (Left 2) (propertyClass negated) := by
  unfold propertyClass
  refine tracks_step.bind_left 1 (fun _ => ?_) (Nat.zero_le _) (by omega)
  refine follows_current_bind_left (fun c => ?_) (by decide)
  -- the class is looked up in the same way whichever way it was written
  have hlook : ∀ (bound : Nat) (query : ClassQuery), Tracks bound 0 0 (Left 2) (do
      let f ← flags
      require f.unicode
      return Primitive.set (← orRefuse (query.set?.bind fun s =>
        negatedIf f (negated != query.isNegated) (folded f s)))) := by
    intro bound query
    refine follows_flags_bind fun f => follows_require_bind fun _ => ?_
    exact tracks_orRefuse_return _ Primitive.set
  refine follows_ite (fun _ => ?_) (fun _ => follows_require_bind fun _ => ?_)
  · exact tracks_braced.bind_left 0 (fun text => hlook _ _) (Nat.zero_le _) (by omega)
  · exact tracks_step.bind_left 0 (fun _ => hlook _ _) (Nat.zero_le _) (by omega)

/-! ### Conditions -/

end Reader

/-- The cursor is at an opening brace after which nothing counts before the closing. -/
def AtBrace (s : Cursor) : Prop :=
  ∃ ignored, s.rest = '\x7b' :: (ignored ++ closing) ∧ s.flags.drop (ignored ++ closing) = closing

namespace Reader

theorem tracks_namedLook : Tracks bound 1 2 (Left 0) namedLook := by
  unfold namedLook
  exact tracks_braced.bind_left 0 (fun name => follows_require_bind fun _ => tracks_orRefuse _)
    (Nat.le_refl _) (Nat.le_refl _)

/-- Without a brace there is no name. -/
theorem wordLook_of_ne {s : Cursor} (h : ∀ cs, s.rest ≠ '\x7b' :: cs) :
    wordLook s = some (.boundary, s) := by
  unfold wordLook
  rw [get_bind]
  refine congrFun (?_ : _ = (pure .boundary : Reader WordLook)) s
  split
  · next rest hs => exact absurd hs (h rest)
  · rfl

/-- With a brace it depends on the first character that counts after it. -/
theorem wordLook_of_brace {s : Cursor} {cs : List Char} (h : s.rest = '\x7b' :: cs) :
    wordLook s = (s.flags.drop cs).head?.bind fun c =>
      if isConditionChar c then namedLook s else some (.boundary, s) := by
  unfold wordLook
  rw [get_bind, h]
  simp only
  cases s.flags.drop cs with
  | nil => rfl
  | cons c rest =>
    show (if isConditionChar c then namedLook else pure .boundary : Reader WordLook) s =
      if isConditionChar c then namedLook s else some (.boundary, s)
    split
    · rfl
    · rfl

theorem tracks_wordLook : Tracks bound 0 0 (fun _ s => AtBrace s) wordLook := by
  refine tracks_of_compares ?_ ?_
  · intro s a t _ h
    by_cases hs : ∃ cs, s.rest = '\x7b' :: cs
    · obtain ⟨cs, hs⟩ := hs
      rw [wordLook_of_brace hs] at h
      cases hd : (s.flags.drop cs).head? with
      | none =>
        rw [hd] at h
        cases h
      | some c =>
        rw [hd, Option.bind_some] at h
        split at h
        · have hname : Tracks 0 1 2 (Left 0) namedLook := tracks_namedLook
          exact (hname.takes_alone s a t (one_le_length hs) h).mono (Nat.zero_le _)
        · cases h
          exact .of_eq rfl
    · rw [wordLook_of_ne fun cs hcs => hs ⟨cs, hcs⟩] at h
      cases h
      exact .of_eq rfl
  · intro s _
    by_cases hs : ∃ cs, s.rest = '\x7b' :: cs
    · obtain ⟨cs, hs⟩ := hs
      have hinside := rest_enclosed_cons hs
      rw [wordLook_of_brace hs, wordLook_of_brace hinside, flags_enclosed]
      rcases s.flags.drop_append cs with hd | ⟨hnil, hd⟩
      · cases hcs : s.flags.drop cs with
        | nil =>
          -- nothing counts before the closing, so this is no name
          rw [hcs] at hd
          rw [hd]
          refine ⟨fun _ _ h => (by cases h), ?_⟩
          intro _ a t h
          cases h
          exact ⟨cs, hinside, hd⟩
        | cons c rest =>
          rw [hd, hcs, List.cons_append, List.head?_cons, List.head?_cons, Option.bind_some,
            Option.bind_some]
          split
          · have hname : Tracks (s.rest.length + 1) 1 2 (Left 0) namedLook := tracks_namedLook
            exact (hname.compares s (one_le_length hs) (Nat.lt_succ_self _)).mono fun _ _ hl =>
              absurd hl (Nat.not_lt_zero _)
          · exact compares_some _ _ s
      · rw [hd, hnil]
        exact compares_none _
    · have hinside : ∀ cs, s.enclosed.rest ≠ '\x7b' :: cs := by
        intro cs hcs
        rw [rest_enclosed] at hcs
        cases hr : s.rest with
        | nil =>
          rw [hr] at hcs
          exact absurd (List.cons.inj hcs).1 (by decide)
        | cons c rest =>
          rw [hr] at hcs
          exact hs ⟨rest, by rw [hr, (List.cons.inj hcs).1]⟩
      rw [wordLook_of_ne fun cs hcs => hs ⟨cs, hcs⟩, wordLook_of_ne hinside]
      exact compares_some _ _ s

/-! ### Escapes -/

/-- An escape is read late if the closing was touched, or if it is a condition at a brace. -/
def LateEscape (p : Primitive) (s : Cursor) : Prop :=
  s.rest.length < 2 ∨ (AtBrace s ∧ ∃ l, p = .look l)

theorem tracks_escaped (c : Char) : Tracks bound 1 1 LateEscape (escaped c) := by
  have hleft : ∀ (p : Primitive) (s : Cursor), Left 2 p s → LateEscape p s := fun _ _ h => .inl h
  have hdone : ∀ (bound : Nat) (p : Primitive), Tracks bound 0 0 LateEscape (pure p) :=
    fun _ p => tracks_pure p
  -- an escape of one character is passed over first
  have hone : ∀ x : Reader Primitive, (∀ bound, Tracks bound 0 0 LateEscape x) →
      Tracks bound 1 1 LateEscape (advance >>= fun _ => x) := fun x hx =>
    tracks_advance.bind (fun _ => hx _) fun _ _ hl => absurd hl (Nat.not_lt_zero _)
  have hnegated : ∀ (f : Flags) (c : Char) (bound : Nat), Tracks bound 0 0 LateEscape
      (do return Primitive.set (← orRefuse (negatedIf f true (letterClass f c.toLower)))) :=
    fun _ _ _ => tracks_orRefuse_return _ Primitive.set
  unfold escaped
  refine follows_flags_bind fun f => ?_
  split
  · exact (tracks_numbered (by decide)).mono (Nat.le_refl _) (Nat.le_refl _) hleft
  · exact (tracks_numbered (by decide)).mono (Nat.le_refl _) (Nat.le_refl _) hleft
  · exact (tracks_numbered (by decide)).mono (Nat.le_refl _) (Nat.le_refl _) hleft
  · exact (tracks_propertyClass _).mono (Nat.le_refl _) (Nat.le_refl _) hleft
  · exact (tracks_propertyClass _).mono (Nat.le_refl _) (Nat.le_refl _) hleft
  · exact hone _ fun _ => hdone _ _
  · exact hone _ fun _ => hdone _ _
  · exact hone _ fun _ => hdone _ _
  · exact hone _ (hnegated f _)
  · exact hone _ (hnegated f _)
  · exact hone _ (hnegated f _)
  · refine hone _ fun bound => follows_ite (fun _ => hdone _ _) (fun _ => ?_)
    split
    · exact hdone _ _
    · exact hdone _ _
    · exact hdone _ _
    · exact hdone _ _
    · exact hdone _ _
    · exact hdone _ _
    · exact hdone _ _
    · exact hdone _ _
    · -- a condition that is left at a brace
      refine tracks_wordLook.bind (fun kind => hdone _ _) ?_
      intro kind s hs p t h
      cases h
      exact .inr ⟨hs, _, rfl⟩
    · exact hdone _ _
    · exact hdone _ _
    · exact hdone _ _
    · exact tracks_failure

theorem tracks_escape : Tracks bound 1 1 LateEscape escape := by
  unfold escape
  refine (tracks_advance.bind (fun _ => ?_) fun _ _ hl => absurd hl (Nat.not_lt_zero _) :
    Tracks bound 1 (1 + 0) LateEscape _)
  have hchar : Tracks (bound - 1) 0 1 LateEscape (current >>= escaped) :=
    follows_current_bind_late tracks_escaped (by decide) fun _ _ hl => .inl hl
  exact hchar.weaken (Nat.le_refl _) (Nat.zero_le _)

end Reader

end Admission.Pattern

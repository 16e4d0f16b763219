import Admission.Pattern.Body
import Admission.Proofs.Pattern.Enclosed.Bracket

/-!
# Enclosed bodies — a whole pattern inside of anchors

  A body is read in the same way inside of anchors, up to the parenthesis that closes
  them, unless the pattern itself closes a group that it has not opened or ends in a
  comment. What cannot be read by itself may be read inside of anchors, but then the
  parenthesis of the closing has been taken for a part of the pattern and is missing
  afterwards (`follows_body`).
-/

namespace Admission.Pattern

variable {bound : Nat}

namespace Reader

/-! ### Group heads -/

theorem tracks_groupName : Tracks bound 0 0 (Left 0) groupName := by
  have hrun : ∀ s : Cursor, groupName s = (aroundChar '>' s.rest).bind fun p =>
      if isGroupName p.1 && !s.names.contains p.1 then
        some ((), { s with rest := p.2, names := p.1 :: s.names })
      else none := by
    intro s
    unfold groupName
    rw [get_bind, orRefuse_bind_run]
    cases aroundChar '>' s.rest with
    | none => rfl
    | some p =>
      simp only [Option.bind_some, require]
      split
      · rfl
      · rfl
  -- the mark at which the name ends is not in what closes, so it is found in both or in neither
  have hmark : '>' ∉ closing := by decide
  refine tracks_of_compares ?_ ?_
  · intro s a t _ h
    rw [hrun] at h
    obtain ⟨p, hp, hset⟩ := Option.bind_eq_some_iff.1 h
    split at hset
    · cases hset
      obtain ⟨hsuffix, hlength⟩ := aroundChar_after hp
      exact ⟨hsuffix, Nat.le_of_succ_le hlength⟩
    · cases hset
  · intro s _
    rw [hrun, hrun, rest_enclosed, aroundChar_append hmark, names_enclosed]
    cases aroundChar '>' s.rest with
    | none => exact compares_none _
    | some p =>
      simp only [Option.map_some, Option.bind_some]
      split
      · exact compares_some _ () { s with rest := p.2, names := p.1 :: s.names }
      · exact compares_none _

/-- The letters of flags end at the closing at the latest. -/
theorem flagLetters_append (cs : List Char) : flagLetters (cs ++ closing) = flagLetters cs := by
  unfold flagLetters
  induction cs with
  | nil => rfl
  | cons c cs ih => rw [List.cons_append, List.takeWhile_cons, List.takeWhile_cons, ih]

theorem tracks_takeLetters : Tracks bound 0 0 (Left 0) takeLetters := by
  refine tracks_of_compares ?_ ?_
  · intro s letters t _ h
    cases h
    exact ⟨List.drop_suffix _ s.rest, (List.drop_suffix _ s.rest).length_le⟩
  · intro s _
    have hle : (flagLetters s.rest).length ≤ s.rest.length :=
      (List.takeWhile_prefix _).length_le
    have hinside : takeLetters s.enclosed = some (flagLetters s.rest,
        Cursor.enclosed { s with rest := s.rest.drop (flagLetters s.rest).length }) := by
      show some (flagLetters (s.rest ++ closing), ({ s with
        rest := (s.rest ++ closing).drop (flagLetters (s.rest ++ closing)).length } : Cursor)) = _
      rw [flagLetters_append, List.drop_append_of_le_length hle]
      rfl
    rw [hinside]
    exact compares_some _ _ { s with rest := s.rest.drop (flagLetters s.rest).length }

theorem tracks_flagHead : Tracks bound 0 0 (Left 2) flagHead := by
  unfold flagHead
  refine tracks_takeLetters.bind_left 0 (fun letters => ?_) (Nat.zero_le _) (Nat.le_refl _)
  apply follows_flags_bind
  intro fl
  refine (tracks_orRefuse _).bind_left 0 (fun f => ?_) (Nat.zero_le _) (Nat.le_refl _)
  have hadvance : ∀ bound (head : GroupHead), Tracks bound 1 1 (Left 2) (do
      advance
      return head) := fun _ head => tracks_advance_return head
  -- without a colon or a parenthesis of its own the pattern gives that of the closing away
  have hend : Tracks bound 0 1 (Left 2) (do
      if (← current) = ':' then
        advance
        return GroupHead.group f false
      else
        require !letters.isEmpty
        advance
        return GroupHead.switches f) :=
    follows_current_bind_left (fun c => follows_ite (fun _ => hadvance _ _) fun _ =>
      follows_require_bind fun _ => hadvance _ _) (by decide)
  exact hend.weaken (Nat.le_refl _) (Nat.zero_le _)

theorem tracks_looksAround : Tracks bound 0 0 (Left 0) looksAround := by
  refine tracks_of_run (fun s => lookAroundHeads.any fun head => head.isPrefixOf s.rest)
    (fun s => s) (fun _ => rfl) (fun _ => rfl) (fun s => ?_) fun _ => rfl
  have hheads : ∀ head ∈ lookAroundHeads, ')' ∉ head := by decide
  rw [Bool.eq_iff_iff, List.any_eq_true, List.any_eq_true]
  refine exists_congr fun head => and_congr_right fun hmem => ?_
  rw [rest_enclosed, isPrefixOf_append_closing (hheads head hmem)]

theorem tracks_groupHead : Tracks bound 1 1 (Left 2) groupHead := by
  unfold groupHead
  refine tracks_step.bind_left 0 (fun _ => ?_) (Nat.zero_le _) (Nat.le_refl _)
  refine tracks_looksAround.bind_left 0 (fun around => ?_) (Nat.zero_le _) (Nat.le_refl _)
  apply follows_require_bind
  intro _
  apply follows_flags_bind
  intro f
  have hnamed : ∀ bound, Tracks bound 0 0 (Left 0)
      (accept ['?', 'P', '<'] <||> accept ['?', '<']) := fun _ =>
    (tracks_accept (by decide)).bind_left 0 (fun b => by
      cases b with
      | true => exact tracks_pure true
      | false => exact tracks_accept (by decide)) (Nat.le_refl _) (Nat.le_refl _)
  refine (hnamed _).bind_left 0 (fun named => ?_) (Nat.zero_le _) (Nat.le_refl _)
  refine follows_ite (fun _ => ?_) fun _ => ?_
  · exact tracks_groupName.bind_left 0 (fun _ => tracks_pure _) (Nat.zero_le _) (Nat.le_refl _)
  · refine (tracks_accept (by decide)).bind_left 0 (fun flagged => ?_) (Nat.zero_le _)
      (Nat.le_refl _)
    exact follows_ite (fun _ => tracks_flagHead) fun _ => tracks_pure _

theorem tracks_groupNumber (recorded : Bool) :
    Tracks bound 0 0 (Left 0) (groupNumber recorded) := by
  cases recorded with
  | false => exact tracks_pure none
  | true =>
    exact tracks_of_run (fun s => some s.groups) (fun s => { s with groups := s.groups + 1 })
      (fun _ => rfl) (fun _ => rfl) (fun _ => rfl) fun _ => rfl

/-! ### Repetition signs -/

theorem follows_decimalDigits {fuel fuel' : Nat} (h : fuel + 2 ≤ fuel') (found : List Char) :
    Follows fuel 0 0 (Left 0) (decimalDigits fuel found) (decimalDigits fuel' found) := by
  refine follows_loop (fun _ => rfl) (fun bound fuel fuel' ih found => ?_) h found
  unfold decimalDigits
  refine follows_peek_bind (fun c => follows_ite (fun _ => ?_) fun _ => ?_) (tracks_pure _) rfl
  · exact tracks_step.bind_left 0 (fun _ => ih _) (Nat.le_refl _) (Nat.zero_le _)
  · exact tracks_pure _

/-- The closing does not begin with a blank. -/
theorem trimLeft_append_closing (cs : List Char) :
    Text.trimLeft (cs ++ closing) = Text.trimLeft cs ++ closing :=
  dropWhile_isBlank_append cs

theorem tracks_skipBlanks : Tracks bound 0 0 (Left 0) skipBlanks := by
  refine tracks_of_compares ?_ ?_
  · intro s a t _ h
    cases h
    have hsuffix : Text.trimLeft s.rest <:+ s.rest := List.dropWhile_suffix _
    exact ⟨hsuffix, hsuffix.length_le⟩
  · intro s _
    have hinside : skipBlanks s.enclosed =
        some ((), Cursor.enclosed { s with rest := Text.trimLeft s.rest }) := by
      show some ((), ({ s with rest := Text.trimLeft (s.rest ++ closing) } : Cursor)) = _
      rw [trimLeft_append_closing]
      rfl
    rw [hinside]
    exact compares_some _ () { s with rest := Text.trimLeft s.rest }

theorem tracks_skipAfterNumber : Tracks bound 0 0 (Left 0) skipAfterNumber := by
  have hskip : ∀ bound, Tracks bound 0 0 (Left 0) (do
      skipBlanks
      skipIgnored) := fun _ =>
    tracks_skipBlanks.bind_left 0 (fun _ => tracks_skipIgnored) (Nat.le_refl _) (Nat.le_refl _)
  refine follows_peek_bind (fun c => follows_ite (fun _ => ?_) fun _ => ?_) (tracks_pure ()) rfl
  · exact (hskip _).weaken (Nat.zero_le _) (Nat.le_refl _)
  · exact tracks_pure ()

theorem tracks_turnsOfDigits (digits : List Char) :
    Tracks bound 0 0 (Left 0) (turnsOfDigits digits) :=
  follows_ite (fun _ => tracks_pure none) fun _ => follows_require_bind fun _ => tracks_pure _

theorem tracks_decimal : Tracks bound 0 0 (Left 0) decimal := by
  unfold decimal
  refine tracks_skipBlanks.bind_left 0 (fun _ => ?_) (Nat.le_refl _) (Nat.le_refl _)
  apply tracks_turnsLeft_bind
  intro fuel
  refine (follows_decimalDigits (Nat.le_refl _) []).bind_left 0 (fun digits => ?_) (Nat.le_refl _)
    (Nat.le_refl _)
  exact tracks_skipAfterNumber.bind_left 0 (fun _ => tracks_turnsOfDigits digits) (Nat.le_refl _)
    (Nat.le_refl _)

theorem tracks_numberOfTurns : Tracks bound 0 0 (Left 0) numberOfTurns :=
  tracks_decimal.bind_left 0 (fun n => tracks_orRefuse n) (Nat.le_refl _) (Nat.le_refl _)

theorem tracks_mostTurns (least : Nat) : Tracks bound 0 0 (Left 3) (mostTurns least) := by
  refine follows_current_bind_left (fun c => follows_ite (fun _ => ?_) fun _ => tracks_pure _)
    (by decide)
  refine tracks_step.bind_left 0 (fun _ => ?_) (by decide) (Nat.zero_le _)
  refine follows_current_bind_left (fun d => follows_ite (fun _ => tracks_pure _) fun _ => ?_)
    (by decide)
  exact (tracks_numberOfTurns.returning some).never.weaken (Nat.zero_le _) (Nat.le_refl _)

theorem tracks_turns : Tracks bound 1 1 (Left 2) turns := by
  unfold turns
  refine tracks_step.bind_left 0 (fun _ => ?_) (by decide) (Nat.le_refl _)
  refine tracks_numberOfTurns.bind_left 0 (fun least => ?_) (by decide) (Nat.le_refl _)
  -- the comma may be missing before the closing, but then the brace is missing as well
  refine (tracks_mostTurns least).bind_left 1 (fun most => ?_) (by decide) (Nat.zero_le _)
  refine (tracks_expect _).bind_left 0 (fun _ => ?_) (by decide) (Nat.le_refl _)
  refine tracks_skipIgnored.bind_left 0 (fun _ => ?_) (by decide) (Nat.le_refl _)
  refine tracks_laziness.bind_left 0 (fun lazy => ?_) (by decide) (Nat.le_refl _)
  apply follows_require_bind
  intro _
  exact tracks_pure _

theorem tracks_sign (least : Nat) (most : Option Nat) :
    Tracks bound 1 1 (Left 0) (sign least most) := by
  unfold sign
  refine tracks_advance.bind_left 0 (fun _ => ?_) (Nat.le_refl _) (Nat.le_refl _)
  exact tracks_laziness.returning fun lazy => Quantity.mk least most lazy

theorem tracks_signOf {c : Char} {quantity : Reader Quantity} (h : signOf c = some quantity) :
    Tracks bound 1 1 (Left 2) quantity := by
  have hsign : ∀ least most, Tracks bound 1 1 (Left 2) (sign least most) := fun _ _ =>
    (tracks_sign _ _).never
  unfold signOf at h
  split at h
  · cases h
    exact hsign _ _
  · cases h
    exact hsign _ _
  · cases h
    exact hsign _ _
  · cases h
    exact tracks_turns
  · cases h

/-- Where a repetition sign stands it is taken, and it is one. -/
theorem repetition_found (s : Cursor) (o : Option Quantity) (t : Cursor)
    (h : repetition s = some (o, t)) : (o = none ∧ t = s) ∨ (o ≠ none ∧ s.Reaches 1 t) := by
  have hrun : repetition s = offered (s.rest.head?.bind signOf) s := rfl
  rw [hrun] at h
  cases hsign : s.rest.head?.bind signOf with
  | none =>
    rw [hsign] at h
    cases h
    exact .inl ⟨rfl, rfl⟩
  | some quantity =>
    rw [hsign] at h
    obtain ⟨c, hc, hquantity⟩ := Option.bind_eq_some_iff.1 hsign
    obtain ⟨cs, hcs⟩ := List.head?_eq_some_iff.1 hc
    have htakes : Tracks 0 1 1 (Left 2) (do return some (← quantity)) :=
      (tracks_signOf hquantity).returning some
    refine .inr ⟨?_, htakes.takes_alone s o t (one_le_length hcs) h⟩
    obtain ⟨q, u, _, hu⟩ := bind_eq_some h
    cases hu
    exact Option.some_ne_none q

theorem tracks_repetition : Tracks bound 0 0 (Left 2) repetition := by
  refine follows_peek_bind (fun c => ?_) (tracks_pure none) rfl
  show Tracks bound 1 0 (Left 2) (offered (signOf c))
  cases hsign : signOf c with
  | none => exact tracks_pure none
  | some quantity =>
    exact ((tracks_signOf hsign).returning some).weaken (Nat.le_refl _) (Nat.zero_le _)

theorem offers_repetition : Offers repetition :=
  ⟨fun _ => tracks_repetition, repetition_found⟩

/-! ### Parts -/

/-- A part is read late if the closing was touched, or if it is a condition at a brace. -/
def LatePart (_ : Part) (s : Cursor) : Prop := s.rest.length < 2 ∨ AtBrace s

theorem tracks_atom : Tracks bound 0 1 LatePart atom := by
  -- the set of one character
  have hset : ∀ o : Option Admission.Unicode.CharSet, Tracks bound 1 1 LatePart (do
      advance
      return Part.set (← orRefuse o) 0) := by
    intro o
    have hreturn : ∀ bound, Tracks bound 0 0 (Left 0) (do return Part.set (← orRefuse o) 0) :=
      fun _ => tracks_orRefuse_return o fun s => Part.set s 0
    exact (tracks_advance.bind_left 0 (fun _ => hreturn _) (Nat.le_refl _) (Nat.le_refl _)).never
  apply follows_flags_bind
  intro f
  have hchar : ∀ c, Tracks bound 1 1 LatePart (atomAt f c) := by
    intro c
    unfold atomAt
    split
    · have hbracket : Tracks bound 1 1 (Left 2) (bracket >>= fun p => pure (Part.set p.1 p.2)) :=
        tracks_bracket.returning fun p => Part.set p.1 p.2
      exact hbracket.mono (Nat.le_refl _) (Nat.le_refl _) fun _ _ hl => .inl hl
    · refine (tracks_escape.bind (fun p => tracks_orRefuse (p.part? f)) ?_ :
        Tracks bound 1 (1 + 0) LatePart _)
      -- an escape leaves the cursor where it is when it becomes a part
      intro p s hlate q t h
      have hstay : t = s := by
        cases hpart : p.part? f with
        | none =>
          rw [hpart] at h
          cases h
        | some part =>
          rw [hpart] at h
          cases h
          rfl
      rw [hstay]
      rcases hlate with hleft | ⟨hbrace, _⟩
      · exact .inl hleft
      · exact .inr hbrace
    · exact hset _
    · exact tracks_advance_return _
    · exact tracks_advance_return _
    · exact hset _
  exact follows_current_bind_late hchar (by decide) fun _ _ hl => .inl hl

/-! ### Bodies -/

/-- A condition at a brace is followed by no repetition, since the brace holds no number. -/
theorem body_atBrace {s : Cursor} (h : AtBrace s) (fuel : Nat) (branches parts : List Part) :
    body fuel branches parts s = none := by
  cases fuel with
  | zero => rfl
  | succ fuel =>
    have hturns : turns s = none := by
      obtain ⟨ignored, hrest, hdrop⟩ := h
      have hstep : step s = some ((), { s with rest := closing }) := by
        show some ((), ({ s with rest := s.flags.drop (s.rest.drop 1) } : Cursor)) = _
        rw [hrest, List.drop_one, List.tail_cons, hdrop]
      unfold turns
      rw [bind_of_some hstep]
      rfl
    have hrepetition : repetition s = none := by
      obtain ⟨ignored, hrest, _⟩ := h
      show offered (s.rest.head?.bind signOf) s = none
      rw [hrest]
      show (turns >>= fun q => pure (some q)) s = none
      rw [bind_run, hturns]
      rfl
    obtain ⟨ignored, hrest, _⟩ := id h
    unfold body
    rw [bind_of_some h.skipIgnored]
    have hpeek : peek s = some (some '\x7b', s) := by
      show some (s.rest.head?, s) = _
      rw [hrest]
      rfl
    rw [bind_of_some hpeek]
    show (repetition >>= _) s = none
    rw [bind_run, hrepetition]
    rfl

theorem follows_body {fuel fuel' : Nat} (h : fuel + 2 ≤ fuel') (branches parts : List Part) :
    Follows fuel 0 0 (Left 2) (body fuel branches parts) (body fuel' branches parts) := by
  refine follows_loop (x := fun fuel (c : List Part × List Part) => body fuel c.1 c.2)
    (fun _ => rfl) (fun bound fuel fuel' ih c => ?_) h (branches, parts)
  have hbody : ∀ {bound'} branches parts, bound' ≤ bound → Follows bound' 0 0 (Left 2)
      (body fuel branches parts) (body fuel' branches parts) := fun branches parts hb =>
    (ih (branches, parts)).within hb
  obtain ⟨branches, parts⟩ := c
  show Follows (bound + 1) 0 0 (Left 2) (body (fuel + 1) branches parts)
    (body (fuel' + 1) branches parts)
  have hdone : Tracks (bound + 1) 0 0 (Left 2)
      (pure (Part.choice (.sequence parts.reverse :: branches).reverse)) :=
    tracks_pure _
  unfold body
  refine tracks_skipIgnored.bind_left 0 (fun _ => ?_) (by decide) (Nat.le_refl _)
  refine follows_peek_bind (fun c => ?_) hdone rfl
  split
  · next heq => cases heq
  · exact hdone.weaken (Nat.zero_le _) (Nat.le_refl _)
  · -- the next branch
    exact tracks_advance.bind_left 0 (fun _ => hbody _ _ (by omega)) (by decide) (by decide)
  · -- flags, or a group, whose parenthesis is read after what is in it
    refine tracks_groupHead.bind_left 0 (fun head => ?_) (by decide) (by decide)
    cases head with
    | switches f =>
      exact (tracks_setFlags f).bind_left 0 (fun _ => hbody _ _ (by omega)) (Nat.zero_le _)
        (by decide)
    | group f recorded =>
      refine (tracks_groupNumber recorded).bind_left 0 (fun number => ?_) (by decide) (by decide)
      apply follows_flags_bind
      intro outer
      refine (tracks_setFlags f).bind_left 0 (fun _ => ?_) (Nat.zero_le _) (by decide)
      refine (hbody [] [] (by omega)).bind_left 0 (fun inner => ?_) (by decide) (by decide)
      refine (tracks_expect ')').bind_left 0 (fun _ => ?_) (by decide) (by decide)
      refine (tracks_setFlags outer).bind_left 0 (fun _ => ?_) (Nat.zero_le _) (by decide)
      exact hbody _ _ (by omega)
  · -- a repetition of the last part, or another part
    refine offers_repetition.bind ?_ fun q => ?_
    · have hatom : Tracks (bound + 1) 1 1 LatePart atom :=
        tracks_atom.weaken (Nat.zero_le _) (Nat.le_refl _)
      refine (hatom.bind (fun part => hbody branches (part :: parts) (Nat.le_refl _)) ?_).mono
        (Nat.le_refl _) (Nat.zero_le _) fun _ _ hl => hl
      intro part s hlate p t ht
      rcases hlate with hleft | hbrace
      · have hreach := (hbody branches (part :: parts) (Nat.le_refl _)).takes_inside s p t
          (Nat.zero_le _) ht
        have hlength := hreach.length
        show t.rest.length < 2
        omega
      · rw [body_atBrace hbrace] at ht
        cases ht
    · cases parts with
      | nil => exact tracks_failure
      | cons last before =>
        apply follows_require_bind
        intro _
        exact hbody _ _ (Nat.le_refl _)

end Reader

end Admission.Pattern

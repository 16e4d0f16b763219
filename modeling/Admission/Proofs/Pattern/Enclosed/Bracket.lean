import Admission.Proofs.Pattern.Enclosed.Escape

/-!
# Enclosed brackets — sets that a pattern leaves open

  The closing holds neither a bracket nor a colon, a hyphen or another sign that counts
  between brackets. A set that is not closed in the pattern is therefore not closed by
  the anchors either, though their characters would be members of it. A single item
  may take them all the same, since it may be an escape that breaks off.
-/

namespace Admission.Pattern

open Admission.Unicode

variable {bound : Nat}

/-! ### Named classes -/

/-- A mark that the closing does not hold divides a pattern in the same way inside of anchors. -/
theorem Reader.aroundChar_append {mark : Char} (h : mark ∉ closing) (cs : List Char) :
    aroundChar mark (cs ++ closing) =
      (aroundChar mark cs).map fun p => (p.1, p.2 ++ closing) := by
  induction cs with
  | nil =>
    have hparenthesis : ')' ≠ mark := fun he => h (he ▸ List.mem_cons_self)
    have hdollar : '$' ≠ mark := fun he => h (he ▸ List.mem_cons_of_mem _ List.mem_cons_self)
    show aroundChar mark [')', '$'] = none
    unfold aroundChar aroundChar aroundChar
    rw [if_neg hparenthesis, if_neg hdollar]
    rfl
  | cons c cs ih =>
    rw [List.cons_append]
    unfold aroundChar
    split
    · rfl
    · rw [ih, Option.map_map, Option.map_map]
      rfl

/-- What stands after a mark is the end of what was there, and shorter. -/
theorem Reader.aroundChar_after {mark : Char} {cs before after : List Char}
    (h : aroundChar mark cs = some (before, after)) :
    after <:+ cs ∧ after.length + 1 ≤ cs.length := by
  induction cs generalizing before with
  | nil => cases h
  | cons c cs ih =>
    unfold aroundChar at h
    split at h
    · cases h
      exact ⟨List.suffix_cons _ _, Nat.le_refl _⟩
    · obtain ⟨⟨before', after'⟩, hrest, he⟩ := Option.map_eq_some_iff.1 h
      cases he
      obtain ⟨hsuffix, hlength⟩ := ih hrest
      exact ⟨hsuffix.trans (List.suffix_cons _ _), Nat.le_succ_of_le hlength⟩

theorem asciiClassNamed_append (cs : List Char) :
    asciiClassNamed (cs ++ closing) =
      (asciiClassNamed cs).map fun p => (p.1, p.2 ++ closing) := by
  have hcolon : ':' ∉ closing := by decide
  unfold asciiClassNamed
  rw [Reader.aroundChar_append hcolon]
  cases Reader.aroundChar ':' cs with
  | none => rfl
  | some p =>
    obtain ⟨name, after⟩ := p
    cases after with
    | nil => rfl
    | cons c after =>
      by_cases hc : c = ']'
      · subst hc
        show (asciiClassRanges (String.ofList name)).map _ =
          ((asciiClassRanges (String.ofList name)).map _).map _
        rw [Option.map_map]
        rfl
      · simp [hc]

theorem asciiClassNamed_left {cs left : List Char} {ranges : List (Nat × Nat)}
    (h : asciiClassNamed cs = some (ranges, left)) : left <:+ cs := by
  unfold asciiClassNamed at h
  split at h
  · next name after hmark =>
    obtain ⟨found, _, he⟩ := Option.map_eq_some_iff.1 h
    cases he
    exact (List.suffix_cons _ _).trans (Reader.aroundChar_after hmark).1
  · cases h

theorem asciiClassAt_append (cs : List Char) :
    asciiClassAt (cs ++ closing) =
      (asciiClassAt cs).map fun p => (p.1, p.2.1, p.2.2 ++ closing) := by
  have hnegated : ')' ∉ ['[', ':', '^'] := by decide
  have hplain : ')' ∉ ['[', ':'] := by decide
  unfold asciiClassAt
  rw [isPrefixOf_append_closing hnegated, isPrefixOf_append_closing hplain]
  split
  · next hp =>
    have hle : 3 ≤ cs.length := length_le_of_isPrefixOf hp
    rw [List.drop_append_of_le_length hle, asciiClassNamed_append, Option.map_map, Option.map_map]
    rfl
  · split
    · next hp =>
      have hle : 2 ≤ cs.length := length_le_of_isPrefixOf hp
      rw [List.drop_append_of_le_length hle, asciiClassNamed_append, Option.map_map,
        Option.map_map]
      rfl
    · rfl

theorem asciiClassAt_left {cs left : List Char} {negated : Bool} {ranges : List (Nat × Nat)}
    (h : asciiClassAt cs = some (negated, ranges, left)) :
    left <:+ cs ∧ left.length + 1 ≤ cs.length := by
  -- what follows the name is the end of what follows the bracket
  have hafter : ∀ {k : Nat} {expected : List Char}, expected.isPrefixOf cs = true →
      k = expected.length → 0 < k → left <:+ cs.drop k →
      left <:+ cs ∧ left.length + 1 ≤ cs.length := by
    intro k expected hp hk hpos hl
    have hle := length_le_of_isPrefixOf hp
    have hlength := hl.length_le
    rw [List.length_drop] at hlength
    exact ⟨hl.trans (List.drop_suffix _ _), by omega⟩
  unfold asciiClassAt at h
  split at h
  · next hp =>
    obtain ⟨p, hn, he⟩ := Option.map_eq_some_iff.1 h
    cases he
    exact hafter hp rfl (by decide) (asciiClassNamed_left hn)
  · split at h
    · next hp =>
      obtain ⟨p, hn, he⟩ := Option.map_eq_some_iff.1 h
      cases he
      exact hafter hp rfl (by decide) (asciiClassNamed_left hn)
    · cases h

namespace Reader

theorem asciiClass_of_none {s : Cursor} (h : asciiClassAt s.rest = none) :
    asciiClass s = some (none, s) := by
  unfold asciiClass
  rw [get_bind, h]
  rfl

theorem asciiClass_of_some {s : Cursor} {negated : Bool} {ranges : List (Nat × Nat)}
    {left : List Char} (h : asciiClassAt s.rest = some (negated, ranges, left)) :
    asciiClass s =
      (negatedIf s.flags negated (folded s.flags (CharSet.ofRanges ranges))).map fun set =>
        (some set, { s with rest := left }) := by
  unfold asciiClass
  rw [get_bind, h]
  show (orRefuse _ >>= _) s = _
  rw [orRefuse_bind_run]
  cases negatedIf s.flags negated (folded s.flags (CharSet.ofRanges ranges)) with
  | none => rfl
  | some set => rfl

theorem asciiClass_cases {s t : Cursor} {o : Option CharSet} (h : asciiClass s = some (o, t)) :
    (o = none ∧ t = s) ∨ (o ≠ none ∧ s.Reaches 1 t) := by
  cases hclass : asciiClassAt s.rest with
  | none =>
    rw [asciiClass_of_none hclass] at h
    cases h
    exact .inl ⟨rfl, rfl⟩
  | some p =>
    obtain ⟨negated, ranges, left⟩ := p
    rw [asciiClass_of_some hclass] at h
    obtain ⟨set, _, he⟩ := Option.map_eq_some_iff.1 h
    cases he
    obtain ⟨hsuffix, hlength⟩ := asciiClassAt_left hclass
    exact .inr ⟨Option.some_ne_none _, hsuffix, hlength⟩

theorem tracks_asciiClass : Tracks bound 0 0 (Left 2) asciiClass := by
  refine tracks_of_compares ?_ ?_
  · intro s o t _ h
    rcases asciiClass_cases h with ⟨_, rfl⟩ | ⟨_, hreach⟩
    · exact .of_eq rfl
    · exact hreach.mono (Nat.zero_le _)
  · intro s _
    have hinside : asciiClassAt s.enclosed.rest =
        (asciiClassAt s.rest).map fun p => (p.1, p.2.1, p.2.2 ++ closing) :=
      asciiClassAt_append s.rest
    cases hclass : asciiClassAt s.rest with
    | none =>
      rw [hclass] at hinside
      rw [asciiClass_of_none hclass, asciiClass_of_none hinside]
      exact compares_some _ none s
    | some p =>
      obtain ⟨negated, ranges, left⟩ := p
      rw [hclass] at hinside
      rw [asciiClass_of_some hclass, asciiClass_of_some hinside, flags_enclosed]
      cases negatedIf s.flags negated (folded s.flags (CharSet.ofRanges ranges)) with
      | none => exact compares_none _
      | some set => exact compares_some _ (some set) { s with rest := left }

theorem offers_asciiClass : Offers asciiClass :=
  ⟨fun _ => tracks_asciiClass, fun _ _ _ => asciiClass_cases⟩

/-! ### Items -/

theorem tracks_bracketPrimitive : Tracks bound 0 1 LateEscape bracketPrimitive := by
  have hchar : ∀ c, Tracks bound 1 1 LateEscape (if c = '\\' then escape else do
      advance
      return .literal c false) := by
    intro c
    apply follows_ite
    · intro _
      exact tracks_escape
    · intro _
      exact tracks_advance_return _
  exact follows_current_bind_late hchar (by decide) fun _ _ hl => .inl hl

theorem tracks_literalCode (f : Flags) (c : Char) : Tracks bound 0 0 (Left 0) (literalCode f c) :=
  follows_require_bind fun _ => tracks_pure _

theorem tracks_singleItem (f : Flags) (p : Primitive) :
    Tracks bound 0 0 (Left 0) (singleItem f p) := by
  cases p with
  | literal c byte =>
    exact (tracks_literalCode f c).returning fun n => CharSet.range n n
  | set s => exact tracks_pure s
  | look l => exact tracks_failure

theorem tracks_rangeItem (f : Flags) (first last : Primitive) :
    Tracks bound 0 0 (Left 0) (rangeItem f first last) := by
  unfold rangeItem
  split
  · next lo _ hi _ =>
    apply follows_require_bind
    intro _
    refine (tracks_literalCode f lo).bind_left 0 (fun n => ?_) (Nat.le_refl _) (Nat.le_refl _)
    exact (tracks_literalCode f hi).returning (CharSet.range n)
  · exact tracks_failure

end Reader

/-- The closing does not begin with a blank. -/
theorem dropWhile_isBlank_append (cs : List Char) :
    (cs ++ closing).dropWhile Text.isBlank = cs.dropWhile Text.isBlank ++ closing := by
  induction cs with
  | nil => decide
  | cons c cs ih =>
    rw [List.cons_append, List.dropWhile_cons, List.dropWhile_cons]
    split
    · exact ih
    · rfl

/-- What the closing adds after a hyphen does not keep it from making a range. -/
theorem endsRange_nextCounting_append (f : Flags) (cs : List Char) (c : Char) :
    endsRange (nextCounting f (c :: (cs ++ closing))) = endsRange (nextCounting f (c :: cs)) := by
  unfold nextCounting
  simp only
  split
  · rw [dropWhile_isBlank_append]
    cases hcs : cs.dropWhile Text.isBlank with
    | nil => rfl
    | cons d ds =>
      by_cases hd : d = '#'
      · subst hd
        show endsRange (((ds ++ closing).dropWhile Text.isBlank).head?.or (some '#')) =
          endsRange ((ds.dropWhile Text.isBlank).head?.or (some '#'))
        rw [dropWhile_isBlank_append]
        cases ds.dropWhile Text.isBlank with
        | nil => rfl
        | cons e es => rfl
      · rw [List.cons_append]
        split
        · next heq => exact absurd (List.cons.inj heq).1 hd
        · split
          · next heq => exact absurd (List.cons.inj heq).1 hd
          · rfl
  · cases cs with
    | nil => rfl
    | cons d ds => rfl

namespace Reader

/-- The hyphen of a range is seen in the pattern only; the closing does not hold one. -/
theorem tracks_atRange :
    Tracks bound 0 0 (fun range s => range = false ∧ s.rest.length < 3) atRange := by
  refine follows_current_bind (fun c => tracks_of_compares ?_ ?_) ?_
  · intro s range t _ h
    cases h
    exact .of_eq rfl
  · intro s hs
    obtain ⟨d, ds, hcons⟩ : ∃ d ds, s.rest = d :: ds := by
      cases hrest : s.rest with
      | nil =>
        rw [hrest] at hs
        cases hs
      | cons d ds => exact ⟨d, ds, rfl⟩
    -- the same character decides in both places
    have hsame : endsRange (nextCounting s.flags s.enclosed.rest) =
        endsRange (nextCounting s.flags s.rest) := by
      rw [rest_enclosed_cons hcons, hcons]
      exact endsRange_nextCounting_append s.flags ds d
    show Compares _ (some (c == '-' && !endsRange (nextCounting s.flags s.rest), s))
      (some (c == '-' && !endsRange (nextCounting s.flags s.enclosed.rest), s.enclosed))
    rw [hsame]
    exact compares_some _ _ s
  · intro s range t hs h
    cases h
    refine ⟨rfl, ?_⟩
    rw [hs]
    decide

theorem tracks_itemFrom (f : Flags) (first : Primitive) :
    Tracks bound 0 0 (Left 3) (itemFrom f first) := by
  have hrange : ∀ bound, Tracks bound 0 0 (Left 3) (do
      expect '-'
      skipIgnored
      discard current
      rangeItem f first (← bracketPrimitive)) := by
    intro bound
    have hlast : ∀ bound, Tracks bound 0 1 (Left 3)
        (bracketPrimitive >>= fun last => rangeItem f first last) := by
      intro bound
      refine (tracks_bracketPrimitive.bind (fun last => (tracks_rangeItem f first last).never) ?_ :
        Tracks bound 0 (1 + 0) (Left 3) _)
      intro last t hlate set u h
      have htakes : Tracks 0 0 0 (Left 0) (rangeItem f first last) := tracks_rangeItem f first last
      have hlength := (htakes.takes_inside t set u (Nat.zero_le _) h).length
      rcases hlate with hleft | ⟨_, l, rfl⟩
      · show u.rest.length < 3
        omega
      · -- a condition is no end of a range
        cases first with
        | literal _ _ => cases h
        | set _ => cases h
        | look _ => cases h
    refine (tracks_expect '-').bind_left 0 (fun _ => ?_) (by decide) (Nat.zero_le _)
    refine tracks_skipIgnored.bind_left 0 (fun _ => ?_) (by decide) (Nat.le_refl _)
    exact tracks_discard_current.bind_left 1 (fun _ => hlast _) (by decide) (Nat.zero_le _)
  have hsingle : ∀ bound, Tracks bound 0 0 (Left 3) (singleItem f first) := fun _ =>
    (tracks_singleItem f first).never
  unfold itemFrom
  refine tracks_skipIgnored.bind_left 0 (fun _ => ?_) (by decide) (Nat.le_refl _)
  refine (tracks_atRange.bind (fun range => ?_) ?_ : Tracks _ 0 (0 + 0) (Left 3) _)
  · apply follows_ite
    · intro _
      exact hrange _
    · intro _
      exact hsingle _
  · intro range t ⟨hfalse, hlength⟩ set u h
    subst hfalse
    have hreach := ((hsingle 0).takes_inside t set u (Nat.zero_le _) h).length
    show u.rest.length < 3
    omega

end Reader

/-- At a brace nothing is ignored. -/
theorem AtBrace.drop {s : Cursor} (h : AtBrace s) : s.flags.drop s.rest = s.rest := by
  obtain ⟨ignored, hrest, _⟩ := h
  rw [hrest]
  unfold Flags.drop
  split
  · rfl
  · rfl

theorem AtBrace.skipIgnored {s : Cursor} (h : AtBrace s) :
    Reader.skipIgnored s = some ((), s) := by
  show some ((), { s with rest := s.flags.drop s.rest }) = _
  rw [h.drop]

namespace Reader

/-- A condition at a brace is no item. -/
theorem itemFrom_atBrace {s : Cursor} (h : AtBrace s) (f : Flags) (l : Look) :
    itemFrom f (.look l) s = none := by
  have hrange : atRange s = some (false, s) := by
    obtain ⟨ignored, hrest, _⟩ := h
    unfold atRange
    rw [current_bind_cons _ hrest]
    rfl
  unfold itemFrom
  rw [bind_of_some h.skipIgnored, bind_of_some hrange]
  rfl

theorem tracks_bracketItem : Tracks bound 0 1 (Left 3) bracketItem := by
  apply follows_flags_bind
  intro f
  refine (tracks_bracketPrimitive.bind (fun first => tracks_itemFrom f first) ?_ :
    Tracks bound 0 (1 + 0) (Left 3) _)
  intro first t hlate set u h
  rcases hlate with hleft | ⟨hbrace, l, rfl⟩
  · have hitem : Tracks 0 0 0 (Left 3) (itemFrom f first) := tracks_itemFrom f first
    have hlength := (hitem.takes_inside t set u (Nat.zero_le _) h).length
    show u.rest.length < 3
    omega
  · rw [itemFrom_atBrace hbrace] at h
    cases h

/-! ### Opening and closing -/

theorem follows_leadingHyphens {fuel fuel' : Nat} (h : fuel + 2 ≤ fuel') (u : ItemUnion) :
    Follows fuel 0 0 (Left 3) (leadingHyphens fuel u) (leadingHyphens fuel' u) := by
  refine follows_loop (fun _ => rfl) (fun bound fuel fuel' ih u => ?_) h u
  unfold leadingHyphens
  refine follows_current_bind_left (fun c => follows_ite (fun _ => ?_) fun _ => ?_) (by decide)
  · exact tracks_step.bind_left 0 (fun _ => ih _) (by decide) (Nat.zero_le _)
  · exact tracks_pure u

theorem tracks_negation : Tracks bound 0 0 (Left 3) negation := by
  refine follows_current_bind_left (fun c => follows_ite (fun _ => ?_) fun _ => ?_) (by decide)
  · exact (tracks_step.returning fun _ => true).never.weaken (Nat.le_refl _) (Nat.zero_le _)
  · exact tracks_pure false

theorem tracks_openBracket : Tracks bound 1 1 (Left 3) openBracket := by
  unfold openBracket
  -- the parenthesis of the closing may be looked at, but it is none of the signs that are taken
  refine tracks_step.bind_left 0 (fun _ => ?_) (by decide) (Nat.le_refl _)
  refine tracks_negation.bind_left 0 (fun negated => ?_) (by decide) (Nat.le_refl _)
  refine tracks_turnsLeft_bind fun fuel => ?_
  refine (follows_leadingHyphens (Nat.le_refl _) {}).bind_left 0 (fun u => ?_) (by decide)
    (Nat.le_refl _)
  refine follows_current_bind_left (fun c => follows_ite (fun _ => ?_) fun _ => ?_) (by decide)
  · refine tracks_step.bind_left 0 (fun _ => ?_) (by decide) (Nat.zero_le _)
    exact tracks_discard_current.returning _
  · exact tracks_pure _

theorem tracks_closed (negated : Bool) (inner : CharSet × Nat) :
    Tracks bound 0 0 (Left 0) (closed negated inner) := by
  apply follows_flags_bind
  intro f
  exact tracks_orRefuse_return _ fun s => (s, inner.2 + 1)

/-- An operator is taken if it stands here. -/
theorem setOperator_cases {s t : Cursor} {o : Option SetOperator}
    (h : setOperator s = some (o, t)) : (o = none ∧ t = s) ∨ (o ≠ none ∧ s.Reaches 1 t) := by
  have hfound : ∀ {expected : List Char} {u : Cursor} {operator : SetOperator},
      1 ≤ expected.length → s.Reaches expected.length u →
      some operator ≠ none ∧ s.Reaches 1 u := fun hle hreach =>
    ⟨Option.some_ne_none _, hreach.mono hle⟩
  unfold setOperator at h
  obtain ⟨both, t₁, hboth, h₁⟩ := bind_eq_some h
  rcases accept_cases hboth with ⟨rfl, rfl⟩ | ⟨rfl, hreach⟩
  · obtain ⟨leftOnly, t₂, hleft, h₂⟩ := bind_eq_some h₁
    rcases accept_cases hleft with ⟨rfl, rfl⟩ | ⟨rfl, hreach⟩
    · obtain ⟨oneOnly, t₃, hone, h₃⟩ := bind_eq_some h₂
      rcases accept_cases hone with ⟨rfl, rfl⟩ | ⟨rfl, hreach⟩
      · cases h₃
        exact .inl ⟨rfl, rfl⟩
      · cases h₃
        exact .inr (hfound (by decide) hreach)
    · cases h₂
      exact .inr (hfound (by decide) hreach)
  · cases h₁
    exact .inr (hfound (by decide) hreach)

theorem tracks_setOperator : Tracks bound 0 0 (Left 0) setOperator := by
  have hpure : ∀ bound (o : Option SetOperator), Tracks bound 0 0 (Left 0) (pure o) :=
    fun _ o => tracks_pure o
  refine (tracks_accept (by decide)).bind_left 0 (fun both => follows_ite (fun _ => hpure _ _)
    fun _ => ?_) (Nat.le_refl _) (Nat.le_refl _)
  refine (tracks_accept (by decide)).bind_left 0 (fun leftOnly => follows_ite (fun _ => hpure _ _)
    fun _ => ?_) (Nat.le_refl _) (Nat.le_refl _)
  exact (tracks_accept (by decide)).bind_left 0 (fun oneOnly => follows_ite (fun _ => hpure _ _)
    fun _ => hpure _ _) (Nat.le_refl _) (Nat.le_refl _)

theorem offers_setOperator : Offers setOperator :=
  ⟨fun _ => tracks_setOperator.never, fun _ _ _ => setOperator_cases⟩

theorem follows_bracketItems {fuel fuel' : Nat} (h : fuel + 2 ≤ fuel') (before : Option Pending)
    (u : ItemUnion) :
    Follows fuel 0 1 (Left 2) (bracketItems fuel before u) (bracketItems fuel' before u) := by
  refine follows_loop (x := fun fuel (c : Option Pending × ItemUnion) =>
    bracketItems fuel c.1 c.2) (fun _ => rfl) (fun bound fuel fuel' ih c => ?_) h (before, u)
  have hitems : ∀ {bound'} before u, bound' ≤ bound → Follows bound' 0 1 (Left 2)
      (bracketItems fuel before u) (bracketItems fuel' before u) := fun before u hb =>
    (ih (before, u)).within hb
  show Follows (bound + 1) 0 1 (Left 2) (bracketItems (fuel + 1) c.1 c.2)
    (bracketItems (fuel' + 1) c.1 c.2)
  unfold bracketItems
  refine tracks_skipIgnored.bind_left 1 (fun _ => ?_) (by decide) (Nat.le_refl _)
  apply follows_flags_bind
  intro f
  refine follows_current_bind_left (fun d => ?_) (by decide)
  split
  · -- a named class, or brackets of their own
    refine offers_asciiClass.bind ?_ fun s => hitems _ _ (by omega)
    refine tracks_openBracket.bind_left 1 (fun p => ?_) (by decide) (by decide)
    refine (hitems none p.2 (by omega)).bind_left 1 (fun inner => ?_) (by decide) (by decide)
    refine (tracks_closed p.1 inner).bind_left 1 (fun q => ?_) (by decide) (by decide)
    exact hitems _ _ (by omega)
  · exact tracks_advance_return _
  · -- an operator, or an item
    refine offers_setOperator.bind ?_ fun o => hitems _ _ (by omega)
    have hitem : Tracks (bound + 1) 1 1 (Left 3) bracketItem :=
      tracks_bracketItem.weaken (Nat.zero_le _) (Nat.le_refl _)
    exact hitem.bind_left 1 (fun s => hitems _ _ (Nat.le_refl _)) (by decide) (by decide)

/-- A set that is open at the end of a pattern is not closed by the anchors. -/
theorem tracks_bracket : Tracks bound 1 1 (Left 2) bracket := by
  unfold bracket
  apply tracks_turnsLeft_bind
  intro fuel
  refine tracks_openBracket.bind_left 1 (fun p => ?_) (by decide) (by decide)
  have hitems := (follows_bracketItems (Nat.le_refl (fuel + 2)) none p.2).within (Nat.sub_le fuel 1)
  exact hitems.bind_left 0
    (fun inner => (tracks_closed p.1 inner).never) (by decide)
    (by decide)

end Reader

end Admission.Pattern

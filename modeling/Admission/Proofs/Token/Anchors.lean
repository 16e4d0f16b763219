import Admission.Proofs.Pattern.Enclosed.Body
import Admission.Proofs.Pattern.Search
import Admission.Token

/-!
# Anchors — what a token's pattern has to match

  A token's pattern is written between anchors before it is read, so that it has to match
  a value from end to end. This is right for a pattern that reads between the anchors as
  it reads by itself. Two kinds of texts do not: one that closes a group which it has not
  opened closes the group of the anchors, and one that ends in a comment makes the closing
  a part of the comment. The first may be accepted although it is no pattern, and the
  second is refused although it is one.

  The other texts are patterns between the anchors if they are patterns by themselves and
  the two levels of nesting that the anchors add are not too many. A value then passes
  exactly if the pattern matches all of it (`parse?_fullMatch`).
-/

namespace Admission.Pattern

/-! ### Reading further -/

/-- A reader that reads what another one reads. -/
def Extends {α : Type} (x y : Reader α) : Prop := ∀ s r, x s = some r → y s = some r

theorem Extends.refl {α : Type} (x : Reader α) : Extends x x := fun _ _ h => h

theorem Extends.bind {α β : Type} {x y : Reader α} {f g : α → Reader β} (hx : Extends x y)
    (hf : ∀ a, Extends (f a) (g a)) : Extends (x >>= f) (y >>= g) := by
  intro s r h
  obtain ⟨b, u⟩ := r
  obtain ⟨a, t, hxa, hfa⟩ := bind_eq_some h
  rw [bind_of_some (hx s (a, t) hxa)]
  exact hf a t (b, u) hfa

/-- With more turns a body reads what it reads with fewer. -/
theorem Reader.body_extends {fuel fuel' : Nat} (h : fuel ≤ fuel') (branches parts : List Part) :
    Extends (body fuel branches parts) (body fuel' branches parts) := by
  induction fuel generalizing fuel' branches parts with
  | zero =>
    intro s r hs
    cases hs
  | succ fuel ih =>
    obtain ⟨n, rfl⟩ : ∃ n, fuel' = n + 1 := ⟨fuel' - 1, by omega⟩
    have hbody : ∀ branches parts, Extends (body fuel branches parts) (body n branches parts) :=
      ih (by omega)
    unfold body
    refine (Extends.refl _).bind fun _ => (Extends.refl _).bind fun c => ?_
    split
    · exact .refl _
    · exact .refl _
    · exact (Extends.refl _).bind fun _ => hbody _ _
    · refine (Extends.refl _).bind fun head => ?_
      cases head with
      | switches f => exact (Extends.refl _).bind fun _ => hbody _ _
      | group f recorded =>
        refine (Extends.refl _).bind fun number => (Extends.refl _).bind fun outer =>
          (Extends.refl _).bind fun _ => (hbody _ _).bind fun inner => ?_
        exact (Extends.refl _).bind fun _ => (Extends.refl _).bind fun _ => hbody _ _
    · refine (Extends.refl _).bind fun q => ?_
      cases q with
      | none => exact (Extends.refl _).bind fun part => hbody _ _
      | some q =>
        cases parts with
        | nil => exact .refl _
        | cons last before => exact (Extends.refl _).bind fun _ => hbody _ _

end Admission.Pattern

namespace Admission.Token

open Pattern

/-! ### What goes wrong between anchors -/

/-- The part that a pattern spells up to its end, or up to a parenthesis that it does not open. -/
def spelled (p : List Char) : Option (Part × Cursor) :=
  Reader.body (p.length + 1) [] [] { rest := p }

theorem ofText?_eq (p : List Char) :
    Part.ofText? p = (spelled p).bind fun r => if r.2.rest.isEmpty then some r.1 else none := rfl

/-- A pattern closes a group that it has not opened. -/
def closesEarly (p : List Char) : Bool := (spelled p).any fun r => !r.2.rest.isEmpty

/-- A pattern ends in a comment, so that what is written after it is no part of it. -/
def hidesClosing (p : List Char) : Bool := (Part.ofText? (p ++ closing)).isSome

/-- A part between the anchors at both ends of a value. -/
def between (part : Part) : Part := .sequence [.look .start, part.group none, .look .finish]

/-- A part is neither too deep nor too large to stand between the anchors, which nest it twice
more. -/
def fitsBetween (part : Part) : Bool :=
  part.depth + 2 ≤ depthLimit &&
    (Plan.sequence [.look .start, part.plan, .look .finish]).isSmallEnough

/-- A pattern that closes a group early is malformed. -/
theorem ofText?_of_closesEarly {p : List Char} (h : closesEarly p = true) :
    Part.ofText? p = none := by
  rw [ofText?_eq]
  unfold closesEarly at h
  cases hs : spelled p with
  | none => rfl
  | some r =>
    rw [hs, Option.any_some, Bool.not_eq_true'] at h
    rw [Option.bind_some, h]
    rfl

/-- A text that is a pattern closes no group early. -/
theorem not_closesEarly_of_ofText? {p : List Char} {part : Part}
    (h : Part.ofText? p = some part) : closesEarly p = false := by
  refine Bool.eq_false_iff.2 fun hclose => ?_
  rw [ofText?_of_closesEarly hclose] at h
  cases h

/-- A pattern that closes no group early is spelled to its end. -/
theorem spelled_of_not_closesEarly {p : List Char} (h : closesEarly p = false) {part : Part}
    {s : Cursor} (hs : spelled p = some (part, s)) :
    s.rest = [] ∧ Part.ofText? p = some part := by
  unfold closesEarly at h
  rw [hs, Option.any_some, Bool.not_eq_false'] at h
  refine ⟨List.isEmpty_iff.1 h, ?_⟩
  rw [ofText?_eq, hs, Option.bind_some, h]
  rfl

/-! ### Reading between anchors -/

/-- Reading on after a part that stands in the group of the anchors. -/
def afterPart (n : Nat) (part : Part) : Reader Part := do
  Reader.expect ')'
  Reader.setFlags {}
  Reader.body n [] [part.group none, .look .start]

/-- Reading a text after the opening anchor is reading it in a group. -/
theorem body_anchors (n : Nat) (cs : List Char) :
    Reader.body (n + 2) [] [] { rest := ['^', '(', '?', ':'] ++ cs } =
      (Reader.body n [] [] >>= afterPart n) { rest := cs } := rfl

/-- What is left of the closing is the anchor at the end of a value. -/
theorem afterPart_closing (n : Nat) (part : Part) {s : Cursor} (h : s.rest = closing) :
    ∃ t, afterPart (n + 2) part s = some (between part, t) ∧ t.rest = [] := by
  obtain ⟨rest, flags, names, groups⟩ := s
  cases h
  exact ⟨⟨[], {}, names, groups⟩, rfl, rfl⟩

/-- Without its parenthesis there is nothing to read on. -/
theorem afterPart_suffix (n : Nat) (part : Part) {s : Cursor}
    (h : s.rest = [] ∨ s.rest = ['$']) : afterPart n part s = none := by
  have hexpect : Reader.expect ')' s = none := by
    rcases h with hs | hs
    · exact current_bind_nil _ hs
    · exact current_bind_cons _ hs
  unfold afterPart
  rw [bind_run, hexpect]
  rfl

/-- Reading a pattern where the closing follows it. -/
def inside (p : List Char) : Option (Part × Cursor) :=
  Reader.body (p.length + 5) [] [] { rest := p ++ closing }

theorem spelled_anchored (p : List Char) :
    spelled (anchored p) = (inside p).bind fun r => afterPart (p.length + 5) r.1 r.2 := by
  have htext : anchored p = ['^', '(', '?', ':'] ++ (p ++ closing) :=
    List.append_assoc ['^', '(', '?', ':'] p closing
  have hlength : (['^', '(', '?', ':'] ++ (p ++ closing)).length + 1 = p.length + 5 + 2 := by
    rw [List.length_append, List.length_append]
    show 4 + (p.length + 2) + 1 = _
    omega
  unfold spelled
  rw [htext, hlength, body_anchors, bind_run]
  rfl

/-- Where the closing is left, the pattern is between its anchors. -/
theorem ofText?_anchored_of_closing {p : List Char} {part : Part} {s : Cursor}
    (h : inside p = some (part, s)) (hs : s.rest = closing) :
    Part.ofText? (anchored p) = some (between part) := by
  obtain ⟨t, hafter, ht⟩ := afterPart_closing (p.length + 3) part hs
  rw [ofText?_eq, spelled_anchored, h, Option.bind_some, hafter, Option.bind_some, ht]
  rfl

/-- Where the parenthesis of the closing is gone, the text between anchors is malformed. -/
theorem ofText?_anchored_of_suffix {p : List Char}
    (h : ∀ part s, inside p = some (part, s) → s.rest = [] ∨ s.rest = ['$']) :
    Part.ofText? (anchored p) = none := by
  rw [ofText?_eq, spelled_anchored]
  cases hi : inside p with
  | none => rfl
  | some r =>
    obtain ⟨part, s⟩ := r
    rw [Option.bind_some, afterPart_suffix (p.length + 5) part (h part s hi)]
    rfl

/-- What a pattern spells by itself it spells before the closing as well, with any number of
turns that is enough. -/
theorem compares_enclosed (p : List Char) {n : Nat} (h : p.length + 3 ≤ n) :
    Compares (Left 2) (spelled p) (Reader.body n [] [] { rest := p ++ closing }) :=
  (Reader.follows_body h [] []).compares { rest := p } (Nat.zero_le _) (Nat.lt_succ_self _)

/-- The end of a pattern and its closing that is shorter than the closing. -/
theorem rest_of_late {p : List Char} {part : Part} {s : Cursor} (h : inside p = some (part, s))
    (hlate : s.rest.length < 2) : s.rest = [] ∨ s.rest = ['$'] := by
  have hbody : Follows 0 0 0 (Left 2) (Reader.body 0 [] []) (Reader.body (p.length + 5) [] []) :=
    Reader.follows_body (by omega) [] []
  have hsuffix := (hbody.takes_inside _ part s (Nat.zero_le _) h).suffix
  have hclosing : s.rest <:+ closing :=
    List.suffix_of_suffix_length_le hsuffix (List.suffix_append p closing) (Nat.le_of_lt hlate)
  rcases List.suffix_cons_iff.1 hclosing with heq | htail
  · rw [heq] at hlate
    exact absurd hlate (by decide)
  · rcases List.suffix_cons_iff.1 htail with heq | hnil
    · exact .inr heq
    · exact .inl (List.suffix_nil.1 hnil)

/-- What stands between anchors is a pattern exactly if it is one by itself and does not hide its
closing, provided that it closes no group early. -/
theorem ofText?_anchored {p : List Char} (h : closesEarly p = false) :
    Part.ofText? (anchored p) =
      if hidesClosing p then none else (Part.ofText? p).map between := by
  cases hs : spelled p with
  | none =>
    have hnone : Part.ofText? p = none := by
      rw [ofText?_eq, hs]
      rfl
    rw [hnone, Option.map_none, ite_self]
    -- what is read late has taken the parenthesis that would close the group
    apply ofText?_anchored_of_suffix
    intro part s hi
    exact rest_of_late hi ((compares_enclosed p (by omega)).of_none hs part s hi)
  | some r =>
    obtain ⟨part, s⟩ := r
    obtain ⟨hrest, hpart⟩ := spelled_of_not_closesEarly h hs
    -- reading the closed pattern as a whole shows whether the closing is left
    have hlength : (p ++ closing).length + 1 = p.length + 3 := by
      rw [List.length_append]
      rfl
    have hextends := Reader.body_extends (show p.length + 3 ≤ p.length + 5 by omega) [] []
    rcases (compares_enclosed p (Nat.le_refl _)).of_some part s hs with hleft | ⟨_, hhidden⟩
    · have hnot : hidesClosing p = false := by
        unfold hidesClosing
        rw [ofText?_eq, spelled, hlength, hleft, Option.bind_some, rest_enclosed, hrest]
        rfl
      have hclosing : s.enclosed.rest = closing := rest_enclosed_nil hrest
      have hinside : inside p = some (part, s.enclosed) := hextends _ _ hleft
      rw [hnot, hpart, ofText?_anchored_of_closing hinside hclosing]
      rfl
    · have hyes : hidesClosing p = true := by
        unfold hidesClosing
        rw [ofText?_eq, spelled, hlength, hhidden, Option.bind_some, hrest]
        rfl
      have hinside : inside p = some (part, s) := hextends _ _ hhidden
      rw [hyes, if_pos rfl]
      -- the comment has left nothing that could close the group
      apply ofText?_anchored_of_suffix
      intro part' s' hi
      rw [hinside] at hi
      cases hi
      exact .inl hrest

-- a pattern whose comment goes on over the closing
example : isPattern "(?x)a#".toList = true ∧ isPattern (anchored "(?x)a#".toList) = false := by
  decide +kernel

/-! ### Tokens -/

theorem depth_between (part : Part) : (between part).depth = part.depth + 2 := by
  show max (max (max 0 0) (part.depth + 1)) 0 + 1 = part.depth + 2
  omega

/-- The expression between anchors, where the part closes no group early. -/
theorem exprOfText?_anchored {p : List Char} (h : closesEarly p = false) (e : Expr) :
    Expr.ofText? (anchored p) = some e ↔
      ∃ part, Part.ofText? p = some part ∧ hidesClosing p = false ∧ fitsBetween part = true ∧
        e = .seq (.look .start) (.seq part.expr (.look .finish)) := by
  have hbound : Expr.ofText? (anchored p) = (Part.ofText? (anchored p)).bind fun part =>
      if part.depth ≤ depthLimit && part.plan.isSmallEnough then some part.expr else none := rfl
  have hfits : ∀ part, (decide ((between part).depth ≤ depthLimit) &&
      (between part).plan.isSmallEnough) = fitsBetween part := by
    intro part
    rw [depth_between]
    rfl
  rw [hbound, ofText?_anchored h]
  constructor
  · intro he
    obtain ⟨whole, hwhole, hexpr⟩ := Option.bind_eq_some_iff.1 he
    split at hwhole
    · cases hwhole
    · next hhidden =>
      obtain ⟨part, hpart, rfl⟩ := Option.map_eq_some_iff.1 hwhole
      rw [hfits] at hexpr
      split at hexpr
      · next hfit =>
        cases hexpr
        exact ⟨part, hpart, Bool.eq_false_iff.2 hhidden, hfit, rfl⟩
      · cases hexpr
  · rintro ⟨part, hpart, hhidden, hfit, rfl⟩
    have hnot : ¬ hidesClosing p = true := Bool.eq_false_iff.1 hhidden
    rw [if_neg hnot, hpart, Option.map_some, Option.bind_some, hfits, if_pos hfit]
    rfl

/-- What a text with a pattern is read as. -/
theorem parse?_of_divide {raw : String} {level p : List Char} {minimum : Severity}
    (htext : divide (Text.trimBoth raw.toList) = (level, some p)) (hp : p ≠ [])
    (hlevel : Severity.ofName? (String.ofList level) = some minimum) :
    parse? raw = (Expr.ofText? (anchored p)).map fun e =>
      ⟨minimum, some e, String.ofList (Text.trimBoth raw.toList)⟩ := by
  unfold parse? parse
  simp only [htext, hlevel]
  unfold readPattern
  split
  · next heq => cases heq
  · next heq => exact absurd (Option.some.inj heq) hp
  · next q _ heq =>
    cases heq
    cases Expr.ofText? (anchored p) with
    | none => rfl
    | some e => rfl

/-- The tokens that are accepted, and the values that pass. A token whose pattern closes no group
early is accepted exactly if the pattern is well formed, does not hide its closing and fits
between the anchors; then the values that pass are those that the pattern matches from end to
end. A pattern that closes a group early is malformed, but accepted if the anchors complete it by
chance. -/
theorem parse?_fullMatch {raw : String} {level p : List Char} {minimum : Severity}
    (htext : divide (Text.trimBoth raw.toList) = (level, some p)) (hp : p ≠ [])
    (hlevel : Severity.ofName? (String.ofList level) = some minimum) :
    ((parse? raw).isSome = true ↔
      (∃ part, Part.ofText? p = some part ∧ hidesClosing p = false ∧ fitsBetween part = true) ∨
      (closesEarly p = true ∧ isPattern (anchored p) = true)) ∧
    (closesEarly p = true → Part.ofText? p = none) ∧
    ∀ t, parse? raw = some t → ∀ part, Part.ofText? p = some part → ∀ severity value,
      t.admits severity (some value) = true ↔
        severity.atLeast minimum = true ∧ part.expr.matchesWhole value.toList := by
  rw [parse?_of_divide htext hp hlevel]
  refine ⟨?_, ofText?_of_closesEarly, ?_⟩
  · rw [Option.isSome_map]
    constructor
    · intro haccepted
      cases hclose : closesEarly p with
      | true => exact .inr ⟨rfl, haccepted⟩
      | false =>
        obtain ⟨e, he⟩ := Option.isSome_iff_exists.1 haccepted
        obtain ⟨part, hpart, hhidden, hfits, _⟩ := (exprOfText?_anchored hclose e).1 he
        exact .inl ⟨part, hpart, hhidden, hfits⟩
    · rintro (⟨part, hpart, hhidden, hfits⟩ | ⟨_, haccepted⟩)
      · have hclose := not_closesEarly_of_ofText? hpart
        rw [(exprOfText?_anchored hclose _).2 ⟨part, hpart, hhidden, hfits, rfl⟩]
        rfl
      · exact haccepted
  · intro t ht part hpart severity value
    -- what was accepted is the anchored expression of the part, for there is only that one
    have hclose := not_closesEarly_of_ofText? hpart
    obtain ⟨e, he, rfl⟩ := Option.map_eq_some_iff.1 ht
    obtain ⟨part', hpart', _, _, rfl⟩ := (exprOfText?_anchored hclose e).1 he
    rw [hpart] at hpart'
    cases hpart'
    show (severity.atLeast minimum && Expr.search _ value.toList) = true ↔ _
    rw [Bool.and_eq_true, Expr.search_anchored_iff]

/-- A text that is no pattern is accepted as one, and a value passes of which only the end
matches. -/
theorem parse?_fullMatch_closedEarly :
    (parse? "INFO:a)|(b").isSome = true ∧ Part.ofText? ['a', ')', '|', '(', 'b'] = none ∧
      (parse? "INFO:a)|(b").any (·.admits .info (some "xb")) = true := by
  have hearly : closesEarly ['a', ')', '|', '(', 'b'] = true := by decide +kernel
  have hcompleted : isPattern (anchored ['a', ')', '|', '(', 'b']) = true := by decide +kernel
  obtain ⟨haccepted, hmalformed, _⟩ := @parse?_fullMatch "INFO:a)|(b" ['I', 'N', 'F', 'O']
    ['a', ')', '|', '(', 'b'] .info (by decide +kernel) (by decide) (by decide +kernel)
  refine ⟨haccepted.2 (.inr ⟨hearly, hcompleted⟩), hmalformed hearly, ?_⟩
  decide +kernel

end Admission.Token

import Admission.Proofs.Text.Variation

/-!
# The grammar of tokens — which texts spell which token

  A token is written as the name of a severity, in any letter case and with blanks around
  it, or as such a name, a colon and a value pattern. `Spells` is this grammar, without
  regard to the order in which a reader trims and divides.

  `parse_grammar` says that reading accepts exactly the texts of the grammar, each as the
  token that it spells. So the text that a token keeps spells it again, and two tokens with
  the same text decide alike.
-/

namespace Admission

namespace Severity

theorem sameLetters_iff (a b : List Char) : sameLetters a b = true ↔ Text.CaseVariant a b := by
  unfold sameLetters
  rw [beq_iff_eq]
  exact Text.map_toUpper_eq_iff a b

theorem isAlpha_name (severity : Severity) : ∀ c ∈ severity.name.toList, c.isAlpha = true := by
  cases severity <;> exact List.all_eq_true.1 rfl

/-- A text names a severity exactly if, without the blanks around it, it has the letters of its
name. -/
theorem ofName?_eq_some_iff {s : String} {severity : Severity} :
    ofName? s = some severity ↔
      Text.CaseVariant (Text.trimBoth s.toList) severity.name.toList := by
  rw [← Text.map_toUpper_eq_iff]
  constructor
  · intro h
    have hsame := List.find?_some h
    exact (Text.map_toUpper_eq_iff _ _).2 ((sameLetters_iff _ _).1 hsame) |>.symm
  · intro h
    unfold ofName? sameLetters
    rw [h]
    -- no two names have the same letters
    cases severity <;> decide

end Severity

namespace Token

open Text (Blanks Trimmed CaseVariant)

/-! ### The first colon -/

theorem divide_of_not_mem {cs : List Char} (h : ':' ∉ cs) : divide cs = (cs, none) := by
  induction cs with
  | nil => rfl
  | cons c cs ih =>
    rw [List.mem_cons, not_or] at h
    rw [divide, ih h.2]
    exact fun he => h.1 he.symm

theorem divide_of_colon {level : List Char} (h : ':' ∉ level) (p : List Char) :
    divide (level ++ ':' :: p) = (level, some p) := by
  induction level with
  | nil => rfl
  | cons c level ih =>
    rw [List.mem_cons, not_or] at h
    rw [List.cons_append, divide, ih h.2]
    exact fun he => h.1 he.symm

/-- What stands before the first colon holds none, and with what stands after it, it makes up the
whole. -/
theorem divide_parts (cs : List Char) : ':' ∉ (divide cs).1 ∧
    cs = (divide cs).1 ++ (divide cs).2.elim [] (':' :: ·) := by
  by_cases h : ':' ∈ cs
  · obtain ⟨level, p, hcs, hlevel⟩ := List.eq_append_cons_of_mem h
    rw [hcs, divide_of_colon hlevel]
    exact ⟨hlevel, rfl⟩
  · rw [divide_of_not_mem h]
    exact ⟨h, (List.append_nil cs).symm⟩

/-! ### The grammar -/

/-- Which texts spell which token. -/
inductive Spells : List Char → Token → Prop where
  /-- The name of a severity. -/
  | alone {severity : Severity} {before name after : List Char} (hbefore : Blanks before)
      (hname : CaseVariant name severity.name.toList) (hafter : Blanks after) :
      Spells (before ++ name ++ after) ⟨severity, none, String.ofList name⟩
  /-- The name of a severity, and a colon with nothing after it. -/
  | unrestricted {severity : Severity} {before name between after : List Char} (hbefore : Blanks before)
      (hname : CaseVariant name severity.name.toList) (hbetween : Blanks between)
      (hafter : Blanks after) :
      Spells (before ++ (name ++ between ++ [':']) ++ after)
        ⟨severity, none, String.ofList (name ++ between ++ [':'])⟩
  /-- The name of a severity, a colon, and a value pattern that does not end with a blank and can be
  read between the anchors. -/
  | restricted {severity : Severity} {before name between p after : List Char} {e : Pattern.Expr}
      (hbefore : Blanks before) (hname : CaseVariant name severity.name.toList)
      (hbetween : Blanks between) (hp : p ≠ []) (hends : p.getLast?.any Text.isBlank = false)
      (hreads : Pattern.Expr.ofText? (anchored p) = some e) (hafter : Blanks after) :
      Spells (before ++ (name ++ between ++ ':' :: p) ++ after)
        ⟨severity, some e, String.ofList (name ++ between ++ ':' :: p)⟩

/-! ### Reading what the grammar has -/

variable {severity : Severity} {name between p : List Char}

theorem ne_nil_of_name (h : CaseVariant name severity.name.toList) : name ≠ [] := by
  rintro rfl
  have hlength := List.Forall₂.length_eq h
  cases severity <;> exact absurd hlength (by decide)

theorem isAlpha_of_name (h : CaseVariant name severity.name.toList) :
    ∀ c ∈ name, c.isAlpha = true :=
  h.isAlpha (Severity.isAlpha_name severity)

/-- The level of a token holds no colon. -/
theorem colon_not_mem_level (hname : CaseVariant name severity.name.toList)
    (hbetween : Blanks between) : ':' ∉ name ++ between := by
  intro hmem
  rcases List.mem_append.1 hmem with h | h
  · exact absurd (isAlpha_of_name hname ':' h) (by decide)
  · exact absurd (hbetween ':' h) (by decide)

/-- The blanks between a name and a colon are trimmed. -/
theorem trimBoth_level (hname : CaseVariant name severity.name.toList) (hbetween : Blanks between) :
    Text.trimBoth (name ++ between) = name := by
  have hnone : Blanks [] := nofun
  exact (Text.trimmed_of_isAlpha (isAlpha_of_name hname)).trimBoth_pad hnone hbetween

theorem ofName?_level (hname : CaseVariant name severity.name.toList) (hbetween : Blanks between) :
    Severity.ofName? (String.ofList (name ++ between)) = some severity := by
  rw [Severity.ofName?_eq_some_iff, String.toList_ofList, trimBoth_level hname hbetween]
  exact hname

/-- A level with a colon begins with a letter, so only its end can be trimmed. -/
theorem trimmed_of_colon (hname : CaseVariant name severity.name.toList)
    (hends : p.getLast?.any Text.isBlank = false) : Trimmed (name ++ between ++ ':' :: p) := by
  have hbegins : (name ++ between).head?.any Text.isBlank = false := by
    obtain ⟨c, rest, rfl⟩ := List.exists_cons_of_ne_nil (ne_nil_of_name hname)
    exact Text.isBlank_of_isAlpha (isAlpha_of_name hname c List.mem_cons_self)
  exact Text.trimmed_append_cons hbegins rfl hends

theorem readPattern_eq_ok_of_ne_nil (hp : p ≠ []) {pattern : Option Pattern.Expr} :
    readPattern (some p) = .ok pattern ↔
      ∃ e, Pattern.Expr.ofText? (anchored p) = some e ∧ pattern = some e := by
  unfold readPattern
  split
  · next heq => cases heq
  · next heq => exact absurd (Option.some.inj heq) hp
  · next q _ heq =>
    cases heq
    cases Pattern.Expr.ofText? (anchored p) with
    | none => simp
    | some e => simp [eq_comm]

/-- A level with a colon is read with its severity, and what stands after the colon as a
pattern. -/
theorem parse_of_colon {s : String} {before after : List Char} {pattern : Option Pattern.Expr}
    (htext : s.toList = before ++ (name ++ between ++ ':' :: p) ++ after)
    (hbefore : Blanks before) (hname : CaseVariant name severity.name.toList)
    (hbetween : Blanks between) (hends : p.getLast?.any Text.isBlank = false)
    (hafter : Blanks after) (hpattern : readPattern (some p) = .ok pattern) :
    parse s = .ok ⟨severity, pattern, String.ofList (name ++ between ++ ':' :: p)⟩ := by
  have htrim : Text.trimBoth s.toList = name ++ between ++ ':' :: p := by
    rw [htext]
    exact (trimmed_of_colon hname hends).trimBoth_pad hbefore hafter
  have hdivide := divide_of_colon (colon_not_mem_level hname hbetween) p
  rw [parse_eq_ok, htrim, hdivide]
  refine ⟨ofName?_level hname hbetween, hpattern, ?_⟩
  unfold Text.trim
  rw [htrim]

theorem Spells.parse {s : String} {t : Token} (h : Spells s.toList t) : parse s = .ok t := by
  generalize htext : s.toList = cs at h
  -- one case for each rule of the grammar; the last two differ in the pattern only
  cases h with
  | @alone severity before name after hbefore hname hafter =>
    have htrim : Text.trimBoth s.toList = name := by
      rw [htext]
      exact (Text.trimmed_of_isAlpha (isAlpha_of_name hname)).trimBoth_pad hbefore hafter
    have hcolon : ':' ∉ name := fun hmem => absurd (isAlpha_of_name hname ':' hmem) (by decide)
    have hnone : Blanks [] := nofun
    have hlevel := ofName?_level hname hnone
    rw [List.append_nil] at hlevel
    rw [parse_eq_ok, htrim, divide_of_not_mem hcolon]
    refine ⟨hlevel, rfl, ?_⟩
    unfold Text.trim
    rw [htrim]
  | unrestricted hbefore hname hbetween hafter =>
    exact parse_of_colon htext hbefore hname hbetween rfl hafter rfl
  | restricted hbefore hname hbetween hp hends hreads hafter =>
    exact parse_of_colon htext hbefore hname hbetween hends hafter
      ((readPattern_eq_ok_of_ne_nil hp).2 ⟨_, hreads, rfl⟩)

/-! ### What is read is in the grammar -/

/-- A text that names a severity and begins with no blank is its name, with blanks after it. -/
theorem level_of_ofName? {level : List Char}
    (hlevel : Severity.ofName? (String.ofList level) = some severity)
    (hbegins : level.head?.any Text.isBlank = false) :
    ∃ name between, CaseVariant name severity.name.toList ∧ Blanks between ∧
      level = name ++ between := by
  rw [Severity.ofName?_eq_some_iff, String.toList_ofList] at hlevel
  obtain ⟨between, hbetween, htext⟩ := Text.exists_trimRight_append level
  have htrim : Text.trimBoth level = Text.trimRight level := by
    unfold Text.trimBoth
    rw [Text.trimLeft_of_head hbegins]
  exact ⟨Text.trimRight level, between, htrim ▸ hlevel, hbetween, htext⟩

theorem spells_of_parse {s : String} {t : Token} (h : parse s = .ok t) : Spells s.toList t := by
  obtain ⟨hlevel, hpattern, hraw⟩ := parse_eq_ok.1 h
  obtain ⟨htrimmed, before, after, hbefore, hafter, htext⟩ := Text.trimBoth_eq_iff.1
    (rfl : Text.trimBoth s.toList = Text.trimBoth s.toList)
  obtain ⟨minimum, pattern, raw⟩ := t
  have hraw : raw = String.ofList (Text.trimBoth s.toList) := hraw
  obtain ⟨-, hparts⟩ := divide_parts (Text.trimBoth s.toList)
  -- the level begins where the trimmed text does, so with no blank
  have hbegins : (divide (Text.trimBoth s.toList)).1.head?.any Text.isBlank = false :=
    Text.head?_any_of_isPrefix ⟨_, hparts.symm⟩ htrimmed.begins
  obtain ⟨name, between, hname, hbetween, hsplit⟩ := level_of_ofName? hlevel hbegins
  rw [hsplit] at hparts
  rw [htext, hraw]
  cases hdivided : (divide (Text.trimBoth s.toList)).2 with
  | none =>
    rw [hdivided] at hparts hpattern
    cases hpattern
    -- the trimmed text does not end with a blank, so there are none after the name
    have hwhole : Text.trimBoth s.toList = name := by
      rw [← Text.trimBoth_trimBoth, hparts]
      simpa using trimBoth_level hname hbetween
    rw [hwhole]
    exact .alone hbefore hname hafter
  | some p =>
    rw [hdivided] at hparts hpattern
    have hwhole : Text.trimBoth s.toList = name ++ between ++ ':' :: p := hparts
    rw [hwhole]
    by_cases hp : p = []
    · rw [hp] at hpattern ⊢
      cases hpattern
      exact .unrestricted hbefore hname hbetween hafter
    · obtain ⟨e, hreads, rfl⟩ := (readPattern_eq_ok_of_ne_nil hp).1 hpattern
      have hends : p.getLast?.any Text.isBlank = false := by
        have hlast := htrimmed.ends
        rw [hwhole, List.getLast?_append, List.getLast?_cons] at hlast
        rw [List.getLast?_eq_some_getLast hp] at hlast ⊢
        exact hlast
      exact .restricted hbefore hname hbetween hp hends hreads hafter

/-! ### Reading and the grammar -/

/-- Reading a token accepts exactly the texts of the grammar, each as the token that it spells, which
keeps the text without the blanks around it. The text of a token spells that token again, and two
tokens that are the same, because they have the same text, decide alike about every event. -/
theorem parse_grammar :
    (∀ (s : String) (t : Token), parse s = .ok t ↔ Spells s.toList t) ∧
    (∀ (s : String) (t : Token), Spells s.toList t → t.raw = Text.trim s ∧ parse t.raw = .ok t) ∧
    ∀ (s s' : String) (t t' : Token), Spells s.toList t → Spells s'.toList t' → (t == t') = true →
      ∀ severity value, t.admits severity value = t'.admits severity value := by
  have hagain : ∀ (s : String) (t : Token), Spells s.toList t →
      t.raw = Text.trim s ∧ parse t.raw = .ok t := by
    intro s t h
    have hread := parse?_eq_some.2 h.parse
    exact ⟨raw_of_parse? hread, parse?_eq_some.1 (parse?_raw hread)⟩
  refine ⟨fun s t => ⟨spells_of_parse, Spells.parse⟩, hagain, ?_⟩
  intro s s' t t' h h' hsame severity value
  have hraw : t.raw = t'.raw := beq_iff_eq.1 hsame
  -- the text of a token says what the token is
  have hread := (hagain s t h).2
  rw [hraw, (hagain s' t' h').2] at hread
  rw [Except.ok.inj hread]

/-- `parse_grammar` at a name in mixed case with blanks before the colon and at both ends, and a
pattern that begins with blanks and has a colon of its own. -/
theorem parse_grammar_padded : ∃ t t',
    Spells "\u00a0 wArNiNg\t:  a:b \n".toList t ∧ Spells "wArNiNg\t:  a:b".toList t' ∧
    parse "\u00a0 wArNiNg\t:  a:b \n" = .ok t ∧
    t.minimum = .warning ∧ t.hasPattern = true ∧ t.raw = "wArNiNg\t:  a:b" ∧ parse t.raw = .ok t ∧
    (t == t') = true ∧ ∀ severity value, t.admits severity value = t'.admits severity value := by
  obtain ⟨hreading, hagain, hsame⟩ := parse_grammar
  obtain ⟨e, he⟩ : ∃ e, Pattern.Expr.ofText? (anchored [' ', ' ', 'a', ':', 'b']) = some e :=
    Option.isSome_iff_exists.1 (by decide +kernel)
  have hname : CaseVariant ['w', 'A', 'r', 'N', 'i', 'N', 'g'] Severity.warning.name.toList :=
    (Text.map_toUpper_eq_iff _ _).1 (by decide)
  have hbefore : Blanks ['\u00a0', ' '] := List.all_eq_true.1 rfl
  have hbetween : Blanks ['\t'] := List.all_eq_true.1 rfl
  have hafter : Blanks [' ', '\n'] := List.all_eq_true.1 rfl
  have hspells : Spells "\u00a0 wArNiNg\t:  a:b \n".toList
      ⟨.warning, some e, "wArNiNg\t:  a:b"⟩ :=
    .restricted hbefore hname hbetween (List.cons_ne_nil ' ' [' ', 'a', ':', 'b']) (by decide) he
      hafter
  have hread := (hagain _ _ hspells).2
  have hspells' : Spells "wArNiNg\t:  a:b".toList ⟨.warning, some e, "wArNiNg\t:  a:b"⟩ :=
    (hreading _ _).1 hread
  exact ⟨_, _, hspells, hspells', (hreading _ _).2 hspells, rfl, rfl, rfl, hread, rfl,
    hsame _ _ _ _ hspells hspells' rfl⟩

end Token

end Admission

import Admission.Proofs.Document.Reread
import Admission.Token

/-!
# Spelling — a token and the text that it is written with

  A token keeps its text without the blanks around it, and that text spells the same
  token again (`parse?_raw`). So whoever reads the text of a token knows all that the
  token decides.

  What is rendered from a severity and a value pattern is read back with the severity,
  and with the pattern up to the blanks at its end (`parse_render`): the rendered text
  begins with a name, so only its end is trimmed.
-/

namespace Admission

/-! ### Trimming twice -/

namespace Text

theorem trimRight_append_solid {c : Char} (hc : isBlank c = false) (xs ys : List Char) :
    trimRight (xs ++ c :: ys) = xs ++ c :: trimRight ys := by
  induction xs with
  | nil =>
    show trimRight (c :: ys) = c :: trimRight ys
    cases hy : trimRight ys with
    | nil => simp [trimRight, hy, hc]
    | cons d ds => exact trimRight_cons_cons hy
  | cons x xs ih =>
    -- what follows does not vanish, so the first character stays
    rw [List.cons_append, List.cons_append]
    cases xs with
    | nil => exact trimRight_cons_cons ih
    | cons z zs => exact trimRight_cons_cons ih

theorem trimRight_eq_self_iff (cs : List Char) :
    trimRight cs = cs ↔ cs.getLast?.any isBlank = false := by
  constructor
  · intro h
    rw [← h]
    exact getLast?_trimRight cs
  · exact trimRight_of_last

/-- What was trimmed at both ends needs no more trimming. -/
theorem trimBoth_trimBoth (cs : List Char) : trimBoth (trimBoth cs) = trimBoth cs := by
  have hhead : (trimBoth cs).head?.any isBlank = false :=
    head?_any_of_isPrefix (prefix_trimRight (trimLeft cs)) (head?_trimLeft cs)
  have hlast : (trimBoth cs).getLast?.any isBlank = false := getLast?_trimRight (trimLeft cs)
  show trimRight (trimLeft (trimBoth cs)) = trimBoth cs
  rw [trimLeft_of_head hhead, trimRight_of_last hlast]

theorem toList_trim (s : String) : (trim s).toList = trimBoth s.toList := String.toList_ofList

end Text

namespace Token

/-! ### The text of a token -/

/-- A text spells the same token with and without blanks around it. -/
theorem parse_trim (s : String) : parse (Text.trim s) = parse s := by
  unfold parse
  rw [Text.toList_trim, Text.trimBoth_trimBoth]

theorem parse?_trim (s : String) : parse? (Text.trim s) = parse? s := by
  unfold parse?
  rw [parse_trim]

variable {s : String} {t : Token}

theorem parse?_eq_some : parse? s = some t ↔ parse s = .ok t := by
  unfold parse?
  cases parse s with
  | error cause => simp [Except.toOption]
  | ok u => simp [Except.toOption]

/-- What a text has to say to spell a token. -/
theorem parse_eq_ok {t : Token} : parse s = .ok t ↔
    Severity.ofName? (String.ofList (divide (Text.trimBoth s.toList)).1) = some t.minimum ∧
      readPattern (divide (Text.trimBoth s.toList)).2 = .ok t.pattern ∧ t.raw = Text.trim s := by
  obtain ⟨minimum, pattern, raw⟩ := t
  unfold parse Text.trim
  simp only
  cases Severity.ofName? (String.ofList (divide (Text.trimBoth s.toList)).1) with
  | none => simp
  | some level =>
    cases readPattern (divide (Text.trimBoth s.toList)).2 with
    | error cause => simp [Except.map]
    | ok read => simp [Except.map, eq_comm]

/-- A token keeps the text that spells it, without the blanks around it. -/
theorem raw_of_parse? (h : parse? s = some t) : t.raw = Text.trim s :=
  (parse_eq_ok.1 (parse?_eq_some.1 h)).2.2

/-- The text of a token spells it. -/
theorem parse?_raw (h : parse? s = some t) : parse? t.raw = some t := by
  rw [raw_of_parse? h, parse?_trim]
  exact h

/-! ### The pattern of a token -/

/-- The pattern of a token as it is written. -/
def patternText? (t : Token) : Option (List Char) :=
  (divide t.raw.toList).2.filter fun p => !p.isEmpty

/-- The pattern of a token is the one that its text spells. -/
theorem pattern_of_parse? (h : parse? s = some t) :
    t.pattern = t.patternText?.bind fun p => Pattern.Expr.ofText? (anchored p) := by
  obtain ⟨-, hread, hraw⟩ := parse_eq_ok.1 (parse?_eq_some.1 h)
  unfold patternText?
  rw [hraw, Text.toList_trim]
  unfold readPattern at hread
  split at hread
  · next hnone => rw [← Except.ok.inj hread, hnone]; rfl
  · next hempty => rw [← Except.ok.inj hread, hempty]; rfl
  · next p hne hp =>
    rw [hp, Option.filter_some, if_pos (by simpa using hne)]
    split at hread
    · next e he => rw [← Except.ok.inj hread, Option.bind_some, he]
    · cases hread

/-! ### What is rendered -/

theorem trimBoth_name (severity : Severity) :
    Text.trimBoth severity.name.toList = severity.name.toList := by
  cases severity <;> decide

theorem divide_name (severity : Severity) (p : List Char) :
    divide (severity.name.toList ++ ':' :: p) = (severity.name.toList, some p) := by
  cases severity <;> rfl

theorem divide_name_alone (severity : Severity) :
    divide severity.name.toList = (severity.name.toList, none) := by
  cases severity <;> decide

theorem ofName?_name (severity : Severity) :
    Severity.ofName? (String.ofList severity.name.toList) = some severity := by
  cases severity <;> decide

theorem toList_render (severity : Severity) (value : String) :
    (render severity (some value)).toList = severity.name.toList ++ ':' :: value.toList := by
  simp [render]

/-- Of what was rendered only the blanks at the end of the pattern are trimmed. -/
theorem trimBoth_render (severity : Severity) (value : String) :
    Text.trimBoth (render severity (some value)).toList =
      severity.name.toList ++ ':' :: Text.trimRight value.toList := by
  have hhead : (severity.name.toList ++ ':' :: value.toList).head?.any Text.isBlank = false := by
    cases severity <;> rfl
  show Text.trimRight (Text.trimLeft _) = _
  rw [toList_render, Text.trimLeft_of_head hhead, Text.trimRight_append_solid (by decide)]

/-- What was rendered is read back with its severity, and with its pattern up to the blanks at
the end. -/
theorem parse_render (severity : Severity) (value : Option String) :
    parse (render severity value) =
      (readPattern (value.map fun v => Text.trimRight v.toList)).map fun pattern =>
        ⟨severity, pattern, Text.trim (render severity value)⟩ := by
  cases value with
  | none =>
    unfold parse Text.trim
    show _ = (readPattern none).map _
    simp only [render, trimBoth_name, divide_name_alone, ofName?_name]
  | some v =>
    unfold parse Text.trim
    simp only [trimBoth_render, divide_name, ofName?_name, Option.map_some]

/-! ### Rules that are rendered -/

variable {severity : Severity} {pattern : Option String}

/-- What is rendered stays as it is when it is trimmed, unless its pattern ends with a blank. -/
theorem trim_render_eq_iff :
    Text.trim (render severity pattern) = render severity pattern ↔
      pattern.any Text.endsBlank = false := by
  rw [← String.toList_inj, Text.toList_trim]
  cases pattern with
  | none =>
    show Text.trimBoth severity.name.toList = severity.name.toList ↔ _
    simp [trimBoth_name]
  | some v =>
    rw [trimBoth_render, toList_render, List.append_cancel_left_eq, List.cons.injEq,
      Text.trimRight_eq_self_iff]
    simp [Text.endsBlank]

/-- The pattern of a rule that is read again is the one that was rendered, up to the blanks at
its end, if that leaves anything. -/
theorem patternText?_render (h : parse? (render severity pattern) = some t) :
    t.patternText? = (pattern.map fun v => Text.trimRight v.toList).filter fun p => !p.isEmpty := by
  unfold patternText?
  rw [raw_of_parse? h, Text.toList_trim]
  cases pattern with
  | none =>
    show (Option.filter _ (divide (Text.trimBoth severity.name.toList)).2) = _
    rw [trimBoth_name, divide_name_alone]
    rfl
  | some v =>
    rw [trimBoth_render, divide_name]
    rfl

theorem minimum_render (h : parse? (render severity pattern) = some t) : t.minimum = severity := by
  have hp := parse?_eq_some.1 h
  rw [parse_render] at hp
  cases hr : readPattern (pattern.map fun v => Text.trimRight v.toList) with
  | error cause =>
    rw [hr] at hp
    cases hp
  | ok p =>
    rw [hr] at hp
    rw [← Except.ok.inj hp]

/-- The pattern in force is the one that was rendered exactly if that does not end with a
blank. -/
theorem patternText?_eq_iff {v : String} (h : parse? (render severity (some v)) = some t)
    (hv : v ≠ "") : t.patternText? = some v.toList ↔ Text.endsBlank v = false := by
  rw [patternText?_render h, Option.map_some, Option.filter_eq_some_iff]
  simp only [Option.some.injEq]
  unfold Text.endsBlank
  rw [Text.trimRight_eq_self_iff]
  simp [hv]

end Token

end Admission

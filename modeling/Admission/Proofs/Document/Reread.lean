import Admission.Proofs.Document.Entries

/-!
# Rereading — what a document that was written is read back as

  A document is written line by line, each line ended by a line feed. Reading it back
  undoes this, with one exception: a carriage return right before a line feed is part
  of the line's end. So a line that ends with a carriage return of its own loses it
  when it is written, and nothing else is lost.

  This holds of lines that mean what they say (`Line.Sound`): those that were read from
  a text, whatever the text, and those that were set after `checkEntry` let them pass.

    * `Sound.lines_reread`: every line is read back in its place, without its return,
    * `Sound.entries_reread`: so are the values in force.
-/

namespace Admission

/-! ### The carriage return at the end -/

namespace Text

theorem dropReturn_cons_cons (c d : Char) (cs : List Char) :
    dropReturn (c :: d :: cs) = c :: dropReturn (d :: cs) := by
  conv => lhs; unfold dropReturn
  split
  · next h => cases h
  · next h => cases h
  · next h => cases h; rfl

theorem dropReturn_cons {c : Char} (hc : c ≠ '\r') (cs : List Char) :
    dropReturn (c :: cs) = c :: dropReturn cs := by
  cases cs with
  | nil =>
    conv => lhs; unfold dropReturn
    split
    · next h => cases h
    · next h => cases h; exact absurd rfl hc
    · next h => cases h; rfl
  | cons d cs => exact dropReturn_cons_cons c d cs

/-- Only the last part of a text can lose its return. -/
theorem dropReturn_append (xs : List Char) {ys : List Char} (hy : ys ≠ []) :
    dropReturn (xs ++ ys) = xs ++ dropReturn ys := by
  induction xs with
  | nil => rfl
  | cons x xs ih =>
    obtain ⟨d, ds, hds⟩ := List.exists_cons_of_ne_nil (List.append_ne_nil_of_right_ne_nil xs hy)
    rw [List.cons_append, hds, dropReturn_cons_cons, ← hds, ih, List.cons_append]

theorem dropReturn_concat_return (cs : List Char) : dropReturn (cs ++ ['\r']) = cs := by
  rw [dropReturn_append cs (List.cons_ne_nil _ _)]
  exact List.append_nil cs

/-- A text keeps all its characters exactly if it does not end with a return. -/
theorem dropReturn_eq_self_iff (cs : List Char) :
    dropReturn cs = cs ↔ cs.getLast? ≠ some '\r' := by
  rcases List.eq_nil_or_concat cs with hnil | ⟨init, last, hcat⟩
  · rw [hnil]
    simp [dropReturn]
  · rw [hcat, List.concat_eq_append, List.getLast?_concat]
    by_cases hr : last = '\r'
    · rw [hr, dropReturn_concat_return]
      simp
    · have hkeep : dropReturn (init ++ [last]) = init ++ [last] := by
        rw [dropReturn_append init (List.cons_ne_nil _ _), dropReturn_cons hr]
        rfl
      simp [hkeep, hr]

theorem prefix_dropReturn (cs : List Char) : dropReturn cs <+: cs := by
  rcases List.eq_nil_or_concat cs with hnil | ⟨init, last, hcat⟩
  · rw [hnil]
    exact List.prefix_rfl
  · rw [hcat, List.concat_eq_append]
    by_cases hr : last = '\r'
    · rw [hr, dropReturn_concat_return]
      exact List.prefix_append init _
    · have hlast : (init ++ [last]).getLast? ≠ some '\r' := by simp [hr]
      exact ⟨[], by rw [List.append_nil, (dropReturn_eq_self_iff _).2 hlast]⟩

/-- A text without the carriage return at its end, if there is one. -/
def withoutReturn (s : String) : String := String.ofList (dropReturn s.toList)

@[simp] theorem toList_withoutReturn (s : String) :
    (withoutReturn s).toList = dropReturn s.toList := String.toList_ofList

theorem withoutReturn_eq_self_iff (s : String) :
    withoutReturn s = s ↔ s.toList.getLast? ≠ some '\r' := by
  rw [← dropReturn_eq_self_iff, ← String.toList_inj, toList_withoutReturn]

end Text

/-- Entries each of whose values has lost the carriage return at its end. -/
def KeyMap.withoutReturns (m : Entries) : Entries :=
  m.filterMap fun value => some (Text.withoutReturn value)

namespace KeyMap

theorem get?_withoutReturns (m : Entries) (key : String) :
    m.withoutReturns.get? key = (m.get? key).map Text.withoutReturn := by
  unfold withoutReturns
  rw [get?_filterMap]
  cases m.get? key with
  | none => rfl
  | some value => rfl

/-- Nothing is lost exactly if no value ends with a carriage return. -/
theorem withoutReturns_eq_self_iff (m : Entries) :
    m.withoutReturns = m ↔
      ∀ key value, m.get? key = some value → value.toList.getLast? ≠ some '\r' := by
  constructor
  · intro h key value hv
    have hget := congrArg (fun n => n.get? key) h
    simp only [get?_withoutReturns, hv, Option.map_some, Option.some.injEq] at hget
    exact (Text.withoutReturn_eq_self_iff value).1 hget
  · intro h
    apply ext_get?
    intro key
    rw [get?_withoutReturns]
    cases hv : m.get? key with
    | none => rfl
    | some value => rw [Option.map_some, (Text.withoutReturn_eq_self_iff value).2 (h key value hv)]

end KeyMap

/-! ### Trimming what needs no trimming -/

namespace Text

theorem trimLeft_of_head {cs : List Char} (h : cs.head?.any isBlank = false) :
    trimLeft cs = cs := by
  cases cs with
  | nil => rfl
  | cons c cs => exact trimLeft_cons_solid h cs

/-- What is trimmed on the left does not begin with a blank. -/
theorem head?_trimLeft (cs : List Char) : (trimLeft cs).head?.any isBlank = false := by
  induction cs with
  | nil => rfl
  | cons c cs ih =>
    cases hc : isBlank c with
    | true => rw [trimLeft_cons_blank hc]; exact ih
    | false => rw [trimLeft_cons_solid hc]; exact hc

/-- A return at the end is taken off before or after trimming on the left. -/
theorem trimLeft_dropReturn (cs : List Char) :
    trimLeft (dropReturn cs) = dropReturn (trimLeft cs) := by
  induction cs with
  | nil => rfl
  | cons c cs ih =>
    cases hc : isBlank c with
    | true =>
      rw [trimLeft_cons_blank hc, ← ih]
      by_cases hreturn : c = '\r'
      · cases cs with
        | nil =>
          rw [hreturn]
          rfl
        | cons d cs => rw [dropReturn_cons_cons, trimLeft_cons_blank hc]
      · rw [dropReturn_cons hreturn, trimLeft_cons_blank hc]
    | false =>
      have hreturn : c ≠ '\r' := by
        rintro rfl
        cases hc
      rw [dropReturn_cons hreturn, trimLeft_cons_solid hc, trimLeft_cons_solid hc,
        dropReturn_cons hreturn]

theorem trimRight_cons_cons {c d : Char} {cs ds : List Char} (h : trimRight cs = d :: ds) :
    trimRight (c :: cs) = c :: d :: ds := by
  conv => lhs; unfold trimRight
  rw [h]

theorem trimRight_of_last {cs : List Char} (h : cs.getLast?.any isBlank = false) :
    trimRight cs = cs := by
  induction cs with
  | nil => rfl
  | cons c cs ih =>
    cases cs with
    | nil =>
      have hc : isBlank c = false := h
      simp [trimRight, hc]
    | cons d ds =>
      rw [List.getLast?_cons_cons] at h
      exact trimRight_cons_cons (ih h)

/-- What is trimmed on the right does not end with a blank. -/
theorem getLast?_trimRight (cs : List Char) : (trimRight cs).getLast?.any isBlank = false := by
  induction cs with
  | nil => rfl
  | cons c cs ih =>
    cases ht : trimRight cs with
    | nil =>
      cases hc : isBlank c with
      | true => simp [trimRight, ht, hc]
      | false => simp [trimRight, ht, hc]
    | cons d ds =>
      rw [trimRight_cons_cons ht, List.getLast?_cons_cons, ← ht]
      exact ih

theorem mem_of_mem_trimLeft {c : Char} {cs : List Char} (h : c ∈ trimLeft cs) : c ∈ cs :=
  (List.dropWhile_sublist isBlank).subset h

theorem prefix_trimRight (cs : List Char) : trimRight cs <+: cs := by
  induction cs with
  | nil => exact List.prefix_rfl
  | cons c cs ih =>
    cases ht : trimRight cs with
    | nil =>
      cases hc : isBlank c with
      | true => simp [trimRight, ht, hc]
      | false => simp [trimRight, ht, hc]
    | cons d ds =>
      rw [trimRight_cons_cons ht]
      exact List.cons_prefix_cons.2 ⟨rfl, ht ▸ ih⟩

/-- What begins a text begins as the text does, if it begins at all. -/
theorem head?_any_of_isPrefix {p : Char → Bool} {xs ys : List Char} (h : xs <+: ys)
    (hy : ys.head?.any p = false) : xs.head?.any p = false := by
  cases xs with
  | nil => rfl
  | cons x xs =>
    obtain ⟨zs, rfl⟩ := h
    exact hy

end Text

/-! ### Lines that mean what they say -/

namespace Line

/-- What a key has to be like, so that a line of it is read back under the same key. -/
structure KeyReads (key : String) : Prop where
  /-- No blank is taken from its beginning. -/
  begins : Text.startsBlank key = false
  /-- No blank is taken from its end. -/
  ends : Text.endsBlank key = false
  /-- Its line is no comment. -/
  comment : key.toList.head?.any startsComment = false
  /-- It goes on up to the first equal sign of its line. -/
  sign : '=' ∉ key.toList
  /-- It is in one line. -/
  line : '\n' ∉ key.toList

/-- What a value has to be like, so that it is read back, up to a return at its end. -/
structure ValueReads (value : String) : Prop where
  /-- No blank is taken from its beginning. -/
  begins : Text.startsBlank value = false
  /-- It is in one line. -/
  line : '\n' ∉ value.toList

/-- A line that is read back as the same kind of line. -/
inductive Sound : Line → Prop where
  /-- A blank line or a comment. -/
  | verbatim {text : String} (comment : isComment (Text.trimLeft text.toList) = true)
      (line : '\n' ∉ text.toList) : Sound (.verbatim text)
  /-- An entry whose key and value are read as they are. -/
  | entry {key value : String} (hkey : KeyReads key) (hvalue : ValueReads value) :
      Sound (.entry key value)

/-- A line without the carriage return at its end. -/
def withoutReturn : Line → Line
  | verbatim text => verbatim (Text.withoutReturn text)
  | entry key value => entry key (Text.withoutReturn value)

/-- A key that can be stored is read back. -/
theorem keyReads_of_isStorableKey {key : String} (h : isStorableKey key = true) :
    KeyReads key := by
  unfold isStorableKey at h
  simp only [Bool.and_eq_true, Bool.not_eq_true'] at h
  obtain ⟨⟨⟨⟨-, hbegins⟩, hends⟩, hcomment⟩, hchars⟩ := h
  have hno : ∀ c ∈ key.toList, (c == '=' || endsLine c) = false := by
    intro c hc
    rw [List.any_eq_false] at hchars
    simpa using hchars c hc
  refine ⟨hbegins, hends, hcomment, ?_, ?_⟩
  · intro hm
    have := hno _ hm
    simp at this
  · intro hm
    have := hno _ hm
    simp [endsLine] at this

/-- A value that can be stored is read back. -/
theorem valueReads_of_isStorableValue {value : String} (h : isStorableValue value = true) :
    ValueReads value := by
  unfold isStorableValue at h
  simp only [Bool.and_eq_true, Bool.not_eq_true'] at h
  obtain ⟨hbegins, hchars⟩ := h
  refine ⟨hbegins, ?_⟩
  intro hm
  rw [List.any_eq_false] at hchars
  have := hchars _ hm
  simp [endsLine] at this

/-- A value that can be stored does not end with a return. -/
theorem withoutReturn_of_isStorableValue {value : String} (h : isStorableValue value = true) :
    Text.withoutReturn value = value := by
  rw [Text.withoutReturn_eq_self_iff]
  intro hlast
  unfold isStorableValue at h
  simp only [Bool.and_eq_true, Bool.not_eq_true', List.any_eq_false] at h
  have := h.2 _ (List.mem_of_getLast? hlast)
  simp [endsLine] at this

/-! ### Reading a line -/

theorem divide_of_sign {key : List Char} (h : '=' ∉ key) (value : List Char) :
    divide (key ++ '=' :: value) = (key, value) := by
  induction key with
  | nil => rfl
  | cons c key ih =>
    rw [List.mem_cons, not_or] at h
    rw [List.cons_append, divide, ih h.2]
    intro he
    exact h.1 he.symm

/-- What stands before the first equal sign holds none, and both parts are parts of the
whole. -/
theorem divide_parts (cs : List Char) :
    '=' ∉ (divide cs).1 ∧ (divide cs).1 <+: cs ∧ (divide cs).2 <:+ cs := by
  fun_induction divide cs with
  | case1 => simp
  | case2 cs => simp
  | case3 c cs hc before after hd ih =>
    rw [hd] at ih
    obtain ⟨hsign, hbefore, hafter⟩ := ih
    refine ⟨?_, List.cons_prefix_cons.2 ⟨rfl, hbefore⟩, hafter.trans (List.suffix_cons c cs)⟩
    intro hm
    rcases List.mem_cons.1 hm with he | hm
    · exact hc he.symm
    · exact hsign hm

/-- Trimming finds the same blank line or comment with and without a return at its end. -/
theorem isComment_dropReturn (cs : List Char) :
    isComment (Text.trimLeft (Text.dropReturn cs)) = isComment (Text.trimLeft cs) := by
  have hhead := Text.head?_trimLeft cs
  rw [Text.trimLeft_dropReturn]
  cases hleft : Text.trimLeft cs with
  | nil => rfl
  | cons c rest =>
    have hreturn : c ≠ '\r' := by
      rintro rfl
      rw [hleft] at hhead
      cases hhead
    rw [Text.dropReturn_cons hreturn]
    rfl

/-- Every line of a text is read as a line that means what it says. -/
theorem sound_parse {cs : List Char} (h : '\n' ∉ cs) : (parse cs).Sound := by
  unfold parse
  simp only
  have hline : ∀ {c : Char}, c ∈ Text.trimLeft cs → c ≠ '\n' := by
    intro c hc he
    exact h (he ▸ Text.mem_of_mem_trimLeft hc)
  split
  · next hcomment =>
    refine .verbatim ?_ ?_
    · rw [String.toList_ofList]
      exact hcomment
    · rw [String.toList_ofList]
      exact h
  · next hcomment =>
    -- key and value are pieces of the trimmed line, and inherit from it what they lack
    obtain ⟨hsign, hbefore, hafter⟩ := divide_parts (Text.trimLeft cs)
    have hkey := (Text.prefix_trimRight (divide (Text.trimLeft cs)).1).trans hbefore
    refine .entry ⟨?_, ?_, ?_, ?_, ?_⟩ ⟨?_, ?_⟩
    · unfold Text.startsBlank
      rw [String.toList_ofList]
      exact Text.head?_any_of_isPrefix hkey (Text.head?_trimLeft cs)
    · unfold Text.endsBlank
      rw [String.toList_ofList]
      exact Text.getLast?_trimRight _
    · rw [String.toList_ofList]
      refine Text.head?_any_of_isPrefix hkey ?_
      cases hcontent : Text.trimLeft cs with
      | nil => rfl
      | cons c rest =>
        rw [hcontent] at hcomment
        exact Bool.eq_false_iff.2 hcomment
    · rw [String.toList_ofList]
      exact fun hm => hsign ((Text.prefix_trimRight _).subset hm)
    · rw [String.toList_ofList]
      exact fun hm => hline (hkey.subset hm) rfl
    · unfold Text.startsBlank
      rw [String.toList_ofList]
      exact Text.head?_trimLeft _
    · rw [String.toList_ofList]
      exact fun hm => hline (hafter.subset (Text.mem_of_mem_trimLeft hm)) rfl

/-- A line is read back without the return at its end. -/
theorem Sound.parse_render {line : Line} (h : line.Sound) :
    parse (Text.dropReturn line.render) = line.withoutReturn := by
  cases h with
  | verbatim hcomment hline =>
    unfold parse render withoutReturn
    simp only
    rw [if_pos ((isComment_dropReturn _).trans hcomment)]
    rfl
  | @entry key value hkey hvalue =>
    -- a return can only be lost at the end of the value, for a sign stands before it
    have hrender : Text.dropReturn (Line.entry key value).render =
        key.toList ++ '=' :: Text.dropReturn value.toList := by
      show Text.dropReturn (key.toList ++ '=' :: value.toList) = _
      rw [Text.dropReturn_append _ (List.cons_ne_nil _ _), Text.dropReturn_cons (by decide)]
    have hhead : (key.toList ++ '=' :: Text.dropReturn value.toList).head?.any Text.isBlank =
        false := by
      have hb : key.toList.head?.any Text.isBlank = false := hkey.begins
      cases hk : key.toList with
      | nil => rfl
      | cons c cs => rw [hk] at hb; exact hb
    have hcomment : isComment (key.toList ++ '=' :: Text.dropReturn value.toList) = false := by
      have hc := hkey.comment
      cases hk : key.toList with
      | nil => rfl
      | cons c cs => rw [hk] at hc; exact hc
    have hvalue' : (Text.dropReturn value.toList).head?.any Text.isBlank = false :=
      Text.head?_any_of_isPrefix (Text.prefix_dropReturn _) hvalue.begins
    -- so the line is divided where it was joined, and there is nothing to trim
    unfold parse withoutReturn
    rw [hrender]
    simp only
    rw [Text.trimLeft_of_head hhead, hcomment, divide_of_sign hkey.sign]
    simp only [Bool.false_eq_true, if_false]
    rw [Text.trimRight_of_last hkey.ends, Text.trimLeft_of_head hvalue', String.ofList_toList]
    rfl

end Line

/-! ### Reading a document -/

namespace Text

/-- Without the mark a text is one piece. -/
theorem pieces_of_not_mem {mark : Char} {cs : List Char} (h : mark ∉ cs) :
    pieces mark cs = (cs, []) := by
  induction cs with
  | nil => rfl
  | cons c cs ih =>
    rw [List.mem_cons, not_or] at h
    have hc : c ≠ mark := fun he => h.1 he.symm
    rw [pieces_other hc, ih h.2]

theorem newline_not_mem_pieces (cs : List Char) :
    ∀ piece ∈ (pieces '\n' cs).1 :: (pieces '\n' cs).2, '\n' ∉ piece := by
  induction cs with
  | nil => simp
  | cons c cs ih =>
    by_cases hc : c = '\n'
    · rw [hc, pieces_mark]
      intro piece hp
      rcases List.mem_cons.1 hp with he | hp
      · rw [he]
        exact List.not_mem_nil
      · exact ih piece hp
    · rw [pieces_other hc]
      intro piece hp
      rcases List.mem_cons.1 hp with he | hp
      · rw [he, List.mem_cons, not_or]
        exact ⟨Ne.symm hc, ih _ List.mem_cons_self⟩
      · exact ih piece (List.mem_cons_of_mem _ hp)

theorem newline_not_mem_closeLines {first : List Char} {others : List (List Char)}
    (h : ∀ piece ∈ first :: others, '\n' ∉ piece) :
    ∀ line ∈ closeLines first others, '\n' ∉ line := by
  induction others generalizing first with
  | nil =>
    intro line hl
    unfold closeLines at hl
    split at hl
    · cases hl
    · rw [List.mem_singleton.1 hl]
      exact h _ List.mem_cons_self
  | cons next others ih =>
    intro line hl
    rcases List.mem_cons.1 hl with he | hl
    · rw [he]
      exact fun hm => h _ List.mem_cons_self ((prefix_dropReturn first).subset hm)
    · exact ih (fun piece hp => h piece (List.mem_cons_of_mem _ hp)) line hl

/-- A line of a text holds no line feed. -/
theorem newline_not_mem_lines {cs line : List Char} (h : line ∈ lines cs) : '\n' ∉ line :=
  newline_not_mem_closeLines (newline_not_mem_pieces cs) line h

/-- Lines that are ended are read without their ends. -/
theorem lines_flatMap_newline {ls : List (List Char)} (h : ∀ line ∈ ls, '\n' ∉ line) :
    lines (ls.flatMap fun line => line ++ ['\n']) = ls.map dropReturn := by
  induction ls with
  | nil => rfl
  | cons line ls ih =>
    rw [List.flatMap_cons, List.append_assoc, List.singleton_append,
      lines_append_newline (h line List.mem_cons_self),
      ih fun l hl => h l (List.mem_cons_of_mem _ hl)]
    rfl

end Text

theorem Line.Sound.newline_not_mem_render {line : Line} (h : line.Sound) :
    '\n' ∉ line.render := by
  cases h with
  | verbatim hcomment hline => exact hline
  | entry hkey hvalue =>
    unfold render
    rw [List.mem_append, List.mem_cons]
    rintro (hm | hm | hm)
    · exact hkey.line hm
    · cases hm
    · exact hvalue.line hm

namespace Document

/-- A document all of whose lines mean what they say. -/
def Sound (d : Document) : Prop := ∀ line ∈ d.lines, line.Sound

/-- Every text is read as a document that means what it says. -/
theorem sound_parse (text : String) : (parse text).Sound := by
  intro line hl
  obtain ⟨cs, hcs, rfl⟩ := List.mem_map.1 hl
  exact Line.sound_parse (Text.newline_not_mem_lines hcs)

theorem mem_replaceLast {key value : String} {lines : List Line} {line : Line}
    (h : line ∈ replaceLast key value lines) : line = .entry key value ∨ line ∈ lines := by
  induction lines with
  | nil => cases h
  | cons first rest ih =>
    unfold replaceLast at h
    split at h
    · rcases List.mem_cons.1 h with he | hm
      · exact .inl he
      · exact .inr (List.mem_cons_of_mem _ hm)
    · rcases List.mem_cons.1 h with he | hm
      · exact .inr (he ▸ List.mem_cons_self)
      · exact (ih hm).imp id (List.mem_cons_of_mem _)

theorem Sound.set {d : Document} (h : d.Sound) {key value : String}
    (hkey : Line.KeyReads key) (hvalue : Line.ValueReads value) : (d.set key value).Sound := by
  intro line hl
  unfold Document.set at hl
  split at hl
  · rcases mem_replaceLast hl with he | hm
    · exact he ▸ .entry hkey hvalue
    · exact h line hm
  · rcases List.mem_append.1 hl with hm | hm
    · exact h line hm
    · exact List.mem_singleton.1 hm ▸ .entry hkey hvalue

theorem Sound.remove {d : Document} (h : d.Sound) (key : String) : (d.remove key).Sound :=
  fun line hl => h line (List.mem_filter.1 hl).1

theorem Sound.clear {d : Document} (h : d.Sound) : d.clear.Sound :=
  fun line hl => h line (List.mem_filter.1 hl).1

/-- What is written is read back line by line, without the returns at the ends of lines. -/
theorem Sound.lines_reread {d : Document} (h : d.Sound) :
    d.reread.lines = d.lines.map Line.withoutReturn := by
  have hlines : Text.lines d.render.toList =
      (d.lines.map Line.render).map Text.dropReturn := by
    unfold render
    rw [String.toList_ofList, ← Text.lines_flatMap_newline, List.flatMap_map]
    intro cs hcs
    obtain ⟨line, hl, rfl⟩ := List.mem_map.1 hcs
    exact (h line hl).newline_not_mem_render
  show (Text.lines d.render.toList).map Line.parse = _
  rw [hlines, List.map_map, List.map_map]
  exact List.map_congr_left fun line hl => (h line hl).parse_render

theorem lastValue_map_withoutReturn (key : String) (lines : List Line) :
    lastValue key (lines.map Line.withoutReturn) =
      (lastValue key lines).map Text.withoutReturn := by
  induction lines with
  | nil => rfl
  | cons line rest ih =>
    rw [List.map_cons, lastValue, lastValue, ih]
    have hline : line.withoutReturn.valueOf key =
        (line.valueOf key).map Text.withoutReturn := by
      cases line with
      | verbatim text => rfl
      | entry k value =>
        unfold Line.withoutReturn Line.valueOf
        by_cases hk : k = key <;> simp [hk]
    rw [hline]
    cases lastValue key rest with
    | none => rfl
    | some value => rfl

/-- The values in force are read back without the returns at their ends. -/
theorem Sound.entries_reread {d : Document} (h : d.Sound) :
    d.reread.entries = d.entries.withoutReturns := by
  apply KeyMap.ext_get?
  intro key
  rw [KeyMap.get?_withoutReturns, get?_entries, get?_entries]
  unfold get?
  rw [h.lines_reread, lastValue_map_withoutReturn]

end Document

end Admission

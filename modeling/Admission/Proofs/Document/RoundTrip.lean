import Admission.Proofs.Document.Reread
import Mathlib.Data.List.TakeWhile

/-!
# Round trips — the documents that are read back as they are

  A document is a list of lines, and not every list of lines can be written: a comment
  that says nothing of a comment would be read as an entry, a key with an equal sign
  would be cut short, a line feed would make two lines of one, and a carriage return at
  the end of a line is lost with the line's end.

  `Line.Stays` lists what a line must not have, sign by sign, and `parse_render_iff`
  says that this is the whole truth: a document is read back as it is if and only if
  every line of it stays. That nothing else is needed comes from `Sound.lines_reread`;
  that nothing less will do, from the fact that whatever is read from a text is sound.
-/

namespace Admission

namespace Line

/-! ### Lines that stay -/

/-- Whether a text that is no entry is recognised as such: it is blank, or its first character
that is not blank begins a comment. -/
def SaysNothing (text : String) : Prop :=
  Text.isBlankText text = true ∨
    (Text.trimLeft text.toList).head?.any startsComment = true

/-- What a line has to be like, so that it is read back as it is. -/
def Stays : Line → Prop
  | verbatim text =>
    '\n' ∉ text.toList ∧ text.toList.getLast? ≠ some '\r' ∧ SaysNothing text
  | entry key value =>
    ('=' ∉ key.toList ∧ '\n' ∉ key.toList ∧ Text.startsBlank key = false ∧
      Text.endsBlank key = false ∧ key.toList.head?.any startsComment = false) ∧
    '\n' ∉ value.toList ∧ Text.startsBlank value = false ∧ value.toList.getLast? ≠ some '\r'

/-- A text says nothing exactly if trimming leaves a blank line or a comment. -/
theorem saysNothing_iff (text : String) :
    SaysNothing text ↔ isComment (Text.trimLeft text.toList) = true := by
  unfold SaysNothing Text.isBlankText
  cases hcontent : Text.trimLeft text.toList with
  | nil =>
    have hblank : text.toList.all Text.isBlank = true := by
      unfold Text.trimLeft at hcontent
      rw [List.dropWhile_eq_nil_iff] at hcontent
      exact List.all_eq_true.2 hcontent
    simp [hblank, isComment]
  | cons c rest =>
    -- the first character that is left is not blank, so the text is not blank either
    have hsolid : Text.isBlank c = false := by
      have h := Text.head?_trimLeft text.toList
      rw [hcontent] at h
      exact h
    have hmem : c ∈ text.toList :=
      Text.mem_of_mem_trimLeft (hcontent ▸ List.mem_cons_self)
    have hblank : text.toList.all Text.isBlank = false :=
      List.all_eq_false.2 ⟨c, hmem, by simp [hsolid]⟩
    simp [hblank, isComment]

/-- A line stays exactly if it means what it says and does not end with a return. -/
theorem stays_iff (line : Line) : line.Stays ↔ line.Sound ∧ line.withoutReturn = line := by
  cases line with
  | verbatim text =>
    have hkeep : (verbatim text).withoutReturn = verbatim text ↔
        text.toList.getLast? ≠ some '\r' := by
      unfold withoutReturn
      rw [Line.verbatim.injEq, Text.withoutReturn_eq_self_iff]
    rw [hkeep]
    constructor
    · rintro ⟨hline, hlast, hnothing⟩
      exact ⟨.verbatim ((saysNothing_iff text).1 hnothing) hline, hlast⟩
    · rintro ⟨hsound, hlast⟩
      cases hsound with
      | verbatim hcomment hline =>
        exact ⟨hline, hlast, (saysNothing_iff text).2 hcomment⟩
  | entry key value =>
    have hkeep : (entry key value).withoutReturn = entry key value ↔
        value.toList.getLast? ≠ some '\r' := by
      unfold withoutReturn
      rw [Line.entry.injEq, Text.withoutReturn_eq_self_iff]
      simp
    rw [hkeep]
    constructor
    · rintro ⟨⟨hsign, hline, hbegins, hends, hcomment⟩, hvalue, hvbegins, hlast⟩
      exact ⟨.entry ⟨hbegins, hends, hcomment, hsign, hline⟩ ⟨hvbegins, hvalue⟩, hlast⟩
    · rintro ⟨hsound, hlast⟩
      cases hsound with
      | entry hkey hvalue =>
        exact ⟨⟨hkey.sign, hkey.line, hkey.begins, hkey.ends, hkey.comment⟩, hvalue.line,
          hvalue.begins, hlast⟩

end Line

namespace Document

/-! ### Documents that are read back -/

/-- A document is read back as it is exactly if it means what it says and no line ends with a
return. -/
theorem reread_eq_self_iff (d : Document) :
    d.reread = d ↔ d.Sound ∧ ∀ line ∈ d.lines, line.withoutReturn = line := by
  constructor
  · intro h
    -- a document that is read from a text is sound, whatever the text
    have hsound : d.Sound := h ▸ sound_parse d.render
    have hlines : d.lines.map Line.withoutReturn = d.lines.map id := by
      rw [← hsound.lines_reread, h, List.map_id]
    exact ⟨hsound, List.map_inj_left.1 hlines⟩
  · rintro ⟨hsound, hkeep⟩
    have hlines : d.reread.lines = d.lines := by
      rw [hsound.lines_reread, List.map_inj_left.2 hkeep]
      exact List.map_id d.lines
    obtain ⟨lines⟩ := d
    exact congrArg Document.mk hlines

/-- What is written is read back as the same document if and only if every line of it stays: no
line holds a line feed or ends with a return, what is no entry is blank or a comment, and every
key and value is one that trimming and dividing the line leave as they are. -/
theorem parse_render_iff (d : Document) : parse d.render = d ↔ ∀ line ∈ d.lines, line.Stays := by
  have hreread : parse d.render = d.reread := rfl
  rw [hreread, reread_eq_self_iff]
  constructor
  · rintro ⟨hsound, hkeep⟩ line hl
    exact (Line.stays_iff line).2 ⟨hsound line hl, hkeep line hl⟩
  · intro h
    exact ⟨fun line hl => ((Line.stays_iff line).1 (h line hl)).1,
      fun line hl => ((Line.stays_iff line).1 (h line hl)).2⟩

/-- An empty key and a return inside of a line stay. -/
example : parse (render ⟨[.entry "" "x", .entry "a\rb" "c\rd "]⟩) =
    ⟨[.entry "" "x", .entry "a\rb" "c\rd "]⟩ := by decide +kernel

end Document

end Admission

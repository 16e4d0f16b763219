import Admission.Proofs.Store.Writing

/-!
# Edits — what a change can bring into the text of a store

  An operator's file may hold anything: keys twice, lines without an equal sign, odd
  blanks, returns in odd places. A change that passes its check is made on the document
  of such a file, and the document is written. Whoever reads the text finds what the
  document says and nothing more: no value becomes a second entry or a comment, and no
  comment becomes an entry.

  `ReadsBack` lists what that means for the lines, the keys and the values. The one
  thing that may be lost is a return at the end of a line, and a value that a change has
  written has none.
-/

namespace Admission

/-! ### Blank lines and comments -/

namespace Text

/-- The first character that is not blank is the same with and without a return at the end. -/
theorem find?_dropReturn (cs : List Char) :
    (dropReturn cs).find? (fun c => !isBlank c) = cs.find? fun c => !isBlank c := by
  rcases List.eq_nil_or_concat cs with hnil | ⟨init, last, hcat⟩
  · rw [hnil]
    rfl
  · rw [hcat, List.concat_eq_append]
    by_cases hr : last = '\r'
    · rw [hr, dropReturn_concat_return, List.find?_append]
      simp [isBlank_return]
    · have hlast : (init ++ [last]).getLast? ≠ some '\r' := by simp [hr]
      rw [(dropReturn_eq_self_iff _).2 hlast]

/-- A text is blank if no character of it is not. -/
theorem isBlankText_eq (s : String) :
    isBlankText s = (s.toList.find? fun c => !isBlank c).isNone := by
  unfold isBlankText
  rw [Bool.eq_iff_iff, List.all_eq_true, Option.isNone_iff_eq_none, List.find?_eq_none]
  simp

/-- What is left of a text on the right of its blanks begins with its first character that is
not blank. -/
theorem head?_trimLeft_eq (cs : List Char) :
    (trimLeft cs).head? = cs.find? fun c => !isBlank c := by
  induction cs with
  | nil => rfl
  | cons c cs ih =>
    cases hc : isBlank c with
    | true =>
      rw [trimLeft_cons_blank hc, ih, List.find?_cons_of_neg (by simp [hc])]
    | false =>
      rw [trimLeft_cons_solid hc, List.find?_cons_of_pos (by simp [hc])]
      rfl

/-- A text has lost its return, or it had none. -/
theorem withoutReturn_cases (s : String) :
    withoutReturn s = s ∨ ∃ kept, s = kept ++ "\r" ∧ withoutReturn s = kept := by
  by_cases hlast : s.toList.getLast? = some '\r'
  · right
    obtain ⟨init, hinit⟩ := List.getLast?_eq_some_iff.1 hlast
    have hs : s = String.ofList init ++ "\r" := by
      apply String.toList_inj.1
      rw [String.toList_append, String.toList_ofList, hinit]
      rfl
    refine ⟨String.ofList init, hs, ?_⟩
    apply String.toList_inj.1
    rw [toList_withoutReturn, hinit, dropReturn_concat_return, String.toList_ofList]
  · left
    exact (withoutReturn_eq_self_iff s).2 hlast

end Text

namespace Line

/-- Whether a line is blank. -/
def isBlankLine : Line → Bool
  | verbatim text => Text.isBlankText text
  | entry _ _ => false

/-- Whether a line is a comment: its first character that is not blank says so. -/
def isRemark : Line → Bool
  | verbatim text => (Text.trimLeft text.toList).head?.any startsComment
  | entry _ _ => false

/-- A line without its return is blank or not as it was before. -/
theorem isBlankLine_withoutReturn (line : Line) :
    line.withoutReturn.isBlankLine = line.isBlankLine := by
  cases line with
  | verbatim text =>
    show Text.isBlankText (Text.withoutReturn text) = Text.isBlankText text
    rw [Text.isBlankText_eq, Text.isBlankText_eq, Text.toList_withoutReturn,
      Text.find?_dropReturn]
  | entry key value => rfl

/-- A line without its return is a comment or not as it was before. -/
theorem isRemark_withoutReturn (line : Line) : line.withoutReturn.isRemark = line.isRemark := by
  cases line with
  | verbatim text =>
    show (Text.trimLeft (Text.withoutReturn text).toList).head?.any startsComment =
      (Text.trimLeft text.toList).head?.any startsComment
    rw [Text.head?_trimLeft_eq, Text.head?_trimLeft_eq, Text.toList_withoutReturn,
      Text.find?_dropReturn]
  | entry key value => rfl

end Line

/-! ### Keys -/

namespace KeyMap

/-- Values that lose their returns keep their keys. -/
theorem keys_withoutReturns (m : Entries) : m.withoutReturns.keys = m.keys := by
  show (keepEntries (fun value => some (Text.withoutReturn value)) m.entries).map (·.1) =
    m.entries.map (·.1)
  induction m.entries with
  | nil => rfl
  | cons e rest ih =>
    obtain ⟨key, value⟩ := e
    simp only [keepEntries, List.map_cons, ih]

end KeyMap

namespace Document

/-! ### Edits -/

/-- The document after changes, one after the other. -/
def edited (d : Document) (edits : List Change) : Document := edits.foldl edit d

/-- Whether the last of some changes that concerns a key gives it a value. -/
def Writes (edits : List Change) (key value : String) : Prop :=
  ∃ before after, edits = before ++ .set key value :: after ∧
    ∀ c ∈ after, c.concerns key = false

/-- A document was written after changes and read back as another one. -/
structure ReadsBack (edits : List Change) (written read : Document) : Prop where
  /-- No line is gained or lost. -/
  lines : read.lines.length = written.lines.length
  /-- Blank lines are blank lines. -/
  blanks : read.lines.map Line.isBlankLine = written.lines.map Line.isBlankLine
  /-- Comments are comments. -/
  remarks : read.lines.map Line.isRemark = written.lines.map Line.isRemark
  /-- The same keys have values. -/
  keys : read.entries.keys = written.entries.keys
  /-- A value that a change has written is in force, and is read as it was written. -/
  exact : ∀ key value, Writes edits key value →
    written.entries.get? key = some value ∧ read.entries.get? key = some value
  /-- Any other value is read as it is, or a return at its end is lost. -/
  others : ∀ key, read.entries.get? key = written.entries.get? key ∨
    ∃ kept, written.entries.get? key = some (kept ++ "\r") ∧ read.entries.get? key = some kept

/-! ### What edits keep -/

theorem Sound.edited {d : Document} (h : d.Sound) {edits : List Change}
    (hc : ∀ c ∈ edits, c.check = .ok ()) : (d.edited edits).Sound := by
  induction edits generalizing d with
  | nil => exact h
  | cons c rest ih =>
    have hfirst : (d.edit c).Sound := h.edit (hc c List.mem_cons_self)
    have hrest : ∀ c ∈ rest, c.check = .ok () := fun c hm => hc c (List.mem_cons_of_mem _ hm)
    exact ih hfirst hrest

/-- Changes that do not concern a key leave its value alone. -/
theorem get?_edited_of_unconcerned (d : Document) {edits : List Change} {key : String}
    (h : ∀ c ∈ edits, c.concerns key = false) :
    (d.edited edits).entries.get? key = d.entries.get? key := by
  induction edits generalizing d with
  | nil => rfl
  | cons c rest ih =>
    have hfirst : c.concerns key = false := h c List.mem_cons_self
    have hrest : ∀ c ∈ rest, c.concerns key = false := fun c hm => h c (List.mem_cons_of_mem _ hm)
    show ((d.edit c).edited rest).entries.get? key = d.entries.get? key
    rw [ih (d.edit c) hrest, entries_edit, Change.get?_applied, hfirst]
    simp

/-- The value that the last change to concern a key gives it is in force. -/
theorem get?_edited_of_writes (d : Document) {edits : List Change} {key value : String}
    (h : Writes edits key value) : (d.edited edits).entries.get? key = some value := by
  obtain ⟨before, after, hedits, hafter⟩ := h
  -- up to the change, over it, and on to the end
  have hsplit : d.edited edits = ((d.edited before).edit (.set key value)).edited after := by
    rw [hedits]
    simp [edited, List.foldl_append]
  rw [hsplit, get?_edited_of_unconcerned _ hafter, entries_edit, Change.get?_applied]
  simp [Change.concerns, Change.value?]

/-- A value that was written by a change that passed its check has no return to lose. -/
theorem withoutReturn_of_writes {edits : List Change} {key value : String}
    (hc : ∀ c ∈ edits, c.check = .ok ()) (h : Writes edits key value) :
    Text.withoutReturn value = value := by
  obtain ⟨before, after, hedits, -⟩ := h
  have hmem : Change.set key value ∈ edits := by
    rw [hedits]
    simp
  exact Change.withoutReturn_value? (hc _ hmem) rfl

/-! ### No entry is brought in -/

/-- Whatever text a document was read from, and however it was changed by changes that pass their
check: what is written is read back line by line, with the same keys, the same comments and the
same blank lines, every value that a change has written as it was written, and every other value
as it is or without the return at its end. -/
theorem edits_read_back (text : String) {edits : List Change}
    (hc : ∀ c ∈ edits, c.check = .ok ()) :
    ReadsBack edits ((parse text).edited edits) (parse ((parse text).edited edits).render) := by
  have hsound : ((parse text).edited edits).Sound := (sound_parse text).edited hc
  -- every line comes back in its place, and so do the values in force
  have hlines := hsound.lines_reread
  have hentries := hsound.entries_reread
  unfold reread at hlines hentries
  have hget : ∀ key, (parse ((parse text).edited edits).render).entries.get? key =
      (((parse text).edited edits).entries.get? key).map Text.withoutReturn := by
    intro key
    rw [hentries, KeyMap.get?_withoutReturns]
  refine ⟨?_, ?_, ?_, ?_, ?_, ?_⟩
  · rw [hlines, List.length_map]
  · rw [hlines, List.map_map]
    exact List.map_congr_left fun line _ => Line.isBlankLine_withoutReturn line
  · rw [hlines, List.map_map]
    exact List.map_congr_left fun line _ => Line.isRemark_withoutReturn line
  · rw [hentries, KeyMap.keys_withoutReturns]
  · intro key value hw
    have hinforce := get?_edited_of_writes (parse text) hw
    rw [hget, hinforce, Option.map_some, withoutReturn_of_writes hc hw]
    exact ⟨rfl, rfl⟩
  · intro key
    rw [hget]
    cases hv : ((parse text).edited edits).entries.get? key with
    | none => exact .inl rfl
    | some value =>
      rcases Text.withoutReturn_cases value with hkeep | ⟨kept, hvalue, hlost⟩
      · left
        rw [Option.map_some, hkeep]
      · right
        refine ⟨kept, ?_, ?_⟩
        · rw [hvalue]
        · rw [Option.map_some, hlost]

/-- A value that looks like a comment with an entry in it is read back as it was written, beside a
value of the operator's that loses its return. -/
theorem edits_read_back_looksLikeComment :
    (∀ c ∈ [Change.set "b" "#c=d", .remove "x"], c.check = .ok ()) ∧
    ∃ written, written = (parse " a = 1\r\r\n#x\nx=2").edited [.set "b" "#c=d", .remove "x"] ∧
      written.entries.get? "a" = some "1\r" ∧
      (parse written.render).entries.get? "a" = some "1" ∧
      (parse written.render).entries.get? "b" = some "#c=d" ∧
      (parse written.render).lines.length = 3 := by
  have hc : ∀ c ∈ [Change.set "b" "#c=d", .remove "x"], c.check = .ok () := by
    intro c hm
    rcases List.mem_cons.1 hm with rfl | hm
    · rfl
    · rw [List.mem_singleton.1 hm]
      rfl
  have hread := edits_read_back " a = 1\r\r\n#x\nx=2" hc
  refine ⟨hc, _, rfl, ?_, ?_, ?_, ?_⟩
  · decide +kernel
  · decide +kernel
  · exact (hread.exact "b" "#c=d" ⟨[], [.remove "x"], rfl, by simp [Change.concerns]⟩).2
  · rw [hread.lines]
    decide +kernel

end Document

end Admission

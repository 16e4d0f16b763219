import Admission.Proofs.Store.Edits

/-!
# Untouched lines — what edits leave as it is

  An edit is about one key, or about all of them, and an operator's document has more in
  it: comments, blank lines, other keys, the same key in earlier lines. None of that
  changes, and nothing changes its place among what is left.

  Comments and blank lines are in every edited document what they were in the text that
  was read (`remarks_edited`), and each of them is a line of its own in the text that is
  written (`sublist_endedLines`). Setting a key touches the last line that has it, and
  that line keeps its place; a key that is not there comes at the end (`LeavesRest`).
-/

namespace Admission

/-! ### Lines that are ended -/

namespace Text

/-- The lines of a text that are ended by a line feed, with all characters that they have;
what stands after the last line feed is none of them. -/
def endedLines (cs : List Char) : List (List Char) :=
  ((pieces '\n' cs).1 :: (pieces '\n' cs).2).dropLast

/-- A mark stands between the pieces before it and the pieces after it. -/
theorem pieces_append (mark : Char) (before after : List Char) :
    pieces mark (before ++ mark :: after) =
      ((pieces mark before).1,
        (pieces mark before).2 ++ (pieces mark after).1 :: (pieces mark after).2) := by
  induction before with
  | nil => exact pieces_mark mark after
  | cons c before ih =>
    by_cases hc : c = mark
    · rw [hc, List.cons_append, pieces_mark, pieces_mark, ih]
      rfl
    · rw [List.cons_append, pieces_other hc, pieces_other hc, ih]

/-- A line feed ends all lines before it. -/
theorem endedLines_append (before after : List Char) :
    endedLines (before ++ '\n' :: after) =
      ((pieces '\n' before).1 :: (pieces '\n' before).2) ++ endedLines after := by
  unfold endedLines
  rw [pieces_append, ← List.cons_append, List.dropLast_append_of_ne_nil (List.cons_ne_nil _ _)]

end Text

/-! ### Comments and blank lines -/

namespace Line

/-- The text of a blank line or a comment. -/
def text? : Line → Option String
  | verbatim text => some text
  | entry _ _ => none

theorem text?_of_hasKey {key : String} {line : Line} (h : line.hasKey key = true) :
    line.text? = none := by
  cases line with
  | verbatim text => cases h
  | entry k value => rfl

/-- A line is read as a blank line or a comment exactly if trimming says so, and then as it
stands. -/
theorem text?_parse (cs : List Char) :
    (parse cs).text? =
      if isComment (Text.trimLeft cs) then some (String.ofList cs) else none := by
  unfold parse
  by_cases hc : isComment (Text.trimLeft cs) = true
  · rw [if_pos hc, if_pos hc]
    rfl
  · rw [if_neg hc, if_neg hc]
    rfl

end Line

namespace Document

/-- The blank lines and comments of a document, in their order. -/
def remarks (d : Document) : List String := d.lines.filterMap Line.text?

/-- The lines of a document that are no entries of a key, in their order. -/
def others (d : Document) (key : String) : List Line :=
  d.lines.filter fun line => !line.hasKey key

/-- Where a document comes from. -/
inductive Origin where
  /-- It was read from a text. -/
  | text (t : String)
  /-- It was made for a map. -/
  | entries (m : Entries)

namespace Origin

/-- The document as it was in the beginning. -/
def document : Origin → Document
  | text t => parse t
  | entries m => ofEntries m

/-- The lines of the text that are blank or comments, in their order and as they stand there. -/
def remarks : Origin → List (List Char)
  | text t => (Text.lines t.toList).filter fun cs => Line.isComment (Text.trimLeft cs)
  | entries _ => []

end Origin

/-! ### What an edit leaves alone -/

/-- What an edit of a document leaves alone, and where it takes place. -/
structure LeavesRest (d : Document) : Prop where
  /-- A key that is there gets its value in the last line that has it; the lines before and
  after it are the same. -/
  set_last : ∀ key value old, d.get? key = some old →
    ∃ before after, d.lines = before ++ .entry key old :: after ∧
      (∀ line ∈ after, line.hasKey key = false) ∧
      (d.exchange key value).2.lines = before ++ .entry key value :: after
  /-- A key that is not there comes at the end; all lines before it are the same. -/
  set_new : ∀ key value, d.get? key = none →
    (d.exchange key value).2.lines = d.lines ++ [.entry key value]
  /-- Setting a key leaves all other lines. -/
  set_others : ∀ key value, (d.exchange key value).2.others key = d.others key
  /-- Removing a key leaves all other lines. -/
  remove_others : ∀ key, (d.take key).2.others key = d.others key

/-- The last line that has a key stands between lines that stay. -/
theorem replaceLast_split (key value : String) {lines : List Line} {old : String}
    (h : lastValue key lines = some old) :
    ∃ before after, lines = before ++ .entry key old :: after ∧
      (∀ line ∈ after, line.hasKey key = false) ∧
      replaceLast key value lines = before ++ .entry key value :: after := by
  induction lines with
  | nil => cases h
  | cons line rest ih =>
    have hlater := isSome_lastValue key rest
    unfold replaceLast
    cases hl : lastValue key rest with
    | some later =>
      -- it is further on
      rw [lastValue, hl, Option.some_or] at h
      rw [hl, Option.isSome_some] at hlater
      obtain ⟨before, after, hlines, hafter, hreplaced⟩ := ih (hl.trans h)
      refine ⟨line :: before, after, ?_, hafter, ?_⟩
      · rw [hlines, List.cons_append]
      · simp [← hlater, hreplaced]
    | none =>
      -- it is this one
      rw [lastValue, hl, Option.none_or] at h
      rw [hl, Option.isSome_none, eq_comm, List.any_eq_false] at hlater
      have hafter : ∀ l ∈ rest, l.hasKey key = false := fun l hm => by simpa using hlater l hm
      have hnot : rest.any (Line.hasKey key) = false := List.any_eq_false.2 hlater
      cases line with
      | verbatim text => cases h
      | entry k v =>
        have hkv : k = key ∧ v = old := by simpa [Line.valueOf] using h
        obtain ⟨rfl, rfl⟩ := hkv
        refine ⟨[], rest, rfl, hafter, ?_⟩
        simp [hnot, Line.hasKey]

/-- A value that is in force is exchanged in the last line that has its key. -/
theorem exchange_last (d : Document) (key value : String) {old : String}
    (h : d.get? key = some old) :
    ∃ before after, d.lines = before ++ .entry key old :: after ∧
      (∀ line ∈ after, line.hasKey key = false) ∧
      (d.exchange key value).2.lines = before ++ .entry key value :: after := by
  obtain ⟨before, after, hlines, hafter, hreplaced⟩ := replaceLast_split key value h
  have hhas : d.lines.any (Line.hasKey key) = true := by
    rw [← isSome_lastValue]
    exact Option.isSome_iff_exists.2 ⟨old, h⟩
  refine ⟨before, after, hlines, hafter, ?_⟩
  rw [exchange_eq, ← hreplaced]
  unfold set
  rw [if_pos hhas]

/-- A key without a value comes at the end. -/
theorem exchange_new (d : Document) (key value : String) (h : d.get? key = none) :
    (d.exchange key value).2.lines = d.lines ++ [.entry key value] := by
  have hhas : d.lines.any (Line.hasKey key) = false := by
    rw [← isSome_lastValue]
    exact Option.isSome_eq_false_iff.2 (Option.isNone_iff_eq_none.2 h)
  rw [exchange_eq]
  unfold set
  rw [if_neg (by simp [hhas])]

/-- What is read off the lines, but for the entries of a key, is the same after the key was
set. -/
theorem filterMap_exchange {α : Type} (f : Line → Option α) (d : Document) (key value : String)
    (hf : ∀ v, f (.entry key v) = none) :
    (d.exchange key value).2.lines.filterMap f = d.lines.filterMap f := by
  cases h : d.get? key with
  | some old =>
    obtain ⟨before, after, hlines, -, hset⟩ := exchange_last d key value h
    rw [hset, hlines]
    simp [hf]
  | none =>
    rw [exchange_new d key value h]
    simp [hf]

theorem leavesRest (d : Document) : d.LeavesRest where
  set_last key value _ h := exchange_last d key value h
  set_new key value h := exchange_new d key value h
  set_others key value := by
    unfold others
    rw [← List.filterMap_eq_filter]
    exact filterMap_exchange _ d key value fun v => by simp [Option.guard, Line.hasKey]
  remove_others key := by
    unfold others take remove
    rw [List.filter_filter]
    simp

/-! ### Whole runs of edits -/

/-- Taking lines away that are no comments and not blank leaves those that are. -/
theorem remarks_filter (lines : List Line) {p : Line → Bool}
    (h : ∀ line, p line = false → line.text? = none) :
    (lines.filter p).filterMap Line.text? = lines.filterMap Line.text? := by
  rw [List.filterMap_filter]
  refine congrArg (fun f => lines.filterMap f) (funext fun line => ?_)
  cases hp : p line with
  | true => rfl
  | false => simp [h line hp]

/-- No edit touches a comment or a blank line. -/
theorem remarks_edit (d : Document) (c : Change) : (d.edit c).remarks = d.remarks := by
  cases c with
  | set key value =>
    have hset : d.set key value = (d.exchange key value).2 := by rw [exchange_eq]
    show (d.set key value).remarks = d.remarks
    rw [hset]
    exact filterMap_exchange Line.text? d key value fun _ => rfl
  | remove key =>
    refine remarks_filter d.lines fun line hline => ?_
    exact Line.text?_of_hasKey (by simpa using hline)
  | clear =>
    refine remarks_filter d.lines fun line hline => ?_
    cases line with
    | verbatim text => cases hline
    | entry key value => rfl

theorem remarks_edited (d : Document) (edits : List Change) :
    (d.edited edits).remarks = d.remarks := by
  induction edits generalizing d with
  | nil => rfl
  | cons c rest ih =>
    have hrest : ((d.edit c).edited rest).remarks = (d.edit c).remarks := ih (d.edit c)
    exact hrest.trans (remarks_edit d c)

/-- A document has the comments and blank lines of the text that it was read from. -/
theorem Origin.remarks_document (origin : Origin) :
    origin.document.remarks.map String.toList = origin.remarks := by
  cases origin with
  | text t =>
    show (((Text.lines t.toList).map Line.parse).filterMap Line.text?).map String.toList =
      (Text.lines t.toList).filter fun cs => Line.isComment (Text.trimLeft cs)
    generalize Text.lines t.toList = lines
    induction lines with
    | nil => rfl
    | cons cs rest ih =>
      rw [List.map_cons, List.filterMap_cons, Line.text?_parse, List.filter_cons]
      cases hc : Line.isComment (Text.trimLeft cs) with
      | true => simpa using ih
      | false => simpa using ih
  | entries m =>
    have hnone : (ofEntries m).remarks = [] := by
      unfold ofEntries Document.remarks
      rw [List.filterMap_map, List.filterMap_eq_nil_iff]
      intro e _
      rfl
    show (ofEntries m).remarks.map String.toList = []
    rw [hnone, List.map_nil]

/-- A line of the text that a document was read from holds no line feed. -/
theorem Origin.newline_not_mem {origin : Origin} {cs : List Char} (h : cs ∈ origin.remarks) :
    '\n' ∉ cs := by
  cases origin with
  | text t => exact Text.newline_not_mem_lines (List.mem_filter.1 h).1
  | entries m => cases h

/-- A comment or a blank line without a line feed is a line of its own in the text that is
written, whatever the lines before and after it are. -/
theorem sublist_endedLines (d : Document) (h : ∀ cs ∈ d.remarks.map String.toList, '\n' ∉ cs) :
    (d.remarks.map String.toList).Sublist (Text.endedLines d.render.toList) := by
  obtain ⟨lines⟩ := d
  unfold render
  rw [String.toList_ofList]
  induction lines with
  | nil => exact List.nil_sublist _
  | cons line rest ih =>
    rw [List.flatMap_cons, List.append_assoc, List.singleton_append, Text.endedLines_append]
    cases line with
    | verbatim text =>
      have htext : '\n' ∉ text.toList := h _ List.mem_cons_self
      have hrest := ih fun cs hm => h cs (List.mem_cons_of_mem _ hm)
      have hline : Text.pieces '\n' (Line.verbatim text).render = (text.toList, []) :=
        Text.pieces_of_not_mem htext
      rw [hline]
      exact hrest.cons_cons _
    | entry key value =>
      -- whatever an entry looks like, it stands before the lines that follow
      have hrest := ih h
      exact hrest.trans (List.sublist_append_right _ _)

/-- Whatever a document was made from and however it was edited: its comments and blank lines are
those that it had in the beginning; an edit of a key changes the last line that has it, or adds
one at the end, and leaves all lines that are not of the key, each in its place among them; and
in the text that is written each comment and each blank line stands as it was read, as a line of
its own, in the order in which they were read. -/
theorem edits_leave_rest (origin : Origin) (edits : List Change) :
    (origin.document.edited edits).remarks.map String.toList = origin.remarks ∧
    (origin.document.edited edits).LeavesRest ∧
    origin.remarks.Sublist (Text.endedLines (origin.document.edited edits).render.toList) := by
  have hremarks : (origin.document.edited edits).remarks.map String.toList = origin.remarks := by
    rw [remarks_edited, origin.remarks_document]
  refine ⟨hremarks, leavesRest _, ?_⟩
  rw [← hremarks]
  refine sublist_endedLines _ fun cs hm => ?_
  rw [hremarks] at hm
  exact Origin.newline_not_mem hm

/-- Comments and blank lines stand where they were among the lines that are left. -/
example :
    Text.endedLines ((Origin.text "#a\r\n k = 1\n\n k=2\n!b").document.edited
      [.set "k" "3", .set "j" "#x", .remove "z"]).render.toList =
    ["#a", "k=1", "", "k=3", "!b", "j=#x"].map String.toList := by
  decide +kernel

end Document

end Admission

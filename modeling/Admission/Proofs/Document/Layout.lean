import Admission.Proofs.Document.Reread
import Admission.Proofs.Text.Variation
import Mathlib.Data.List.Forall2

/-!
# Layout — how a document may be written without saying something else

  Two texts can be read as the same document. It does not matter whether the lines of a text
  end with a line feed alone or with a return before it (`lines_withReturns`), or whether the
  last line is ended at all (`lines_append_newline_last`). On a line that has a key, blanks
  may stand before the key and on both sides of the first equal sign, or they may not
  (`Line.Relaid`).

  What makes the difference between the ends of lines harmless is that a return at the end
  of a line is read after everything else: whether it is taken off before the line is read
  or after that, the same is left (`Line.parse_dropReturn`).
-/

namespace Admission

namespace Text

/-! ### Lines of a text -/

/-- What holds of a text without line feeds, and of a line that is ended if it holds of what
follows, holds of every text. -/
@[elab_as_elim]
theorem lines_induction {motive : List Char → Prop}
    (last : ∀ cs, '\n' ∉ cs → motive cs)
    (line : ∀ cs rest, '\n' ∉ cs → motive rest → motive (cs ++ '\n' :: rest))
    (cs : List Char) : motive cs := by
  induction hlength : cs.length using Nat.strong_induction_on generalizing cs with
  | _ length ih =>
    -- the first line feed, if there is one, has no other before it
    by_cases hmem : '\n' ∈ cs
    · obtain ⟨first, rest, hcs, hfirst⟩ := List.eq_append_cons_of_mem hmem
      have hshorter : rest.length < length := by
        rw [← hlength, hcs, List.length_append, List.length_cons]
        omega
      rw [hcs]
      exact line first rest hfirst (ih rest.length hshorter rest rfl)
    · exact last cs hmem

/-- A text without line feeds is one line, if there is anything. -/
theorem lines_of_not_mem {cs : List Char} (h : '\n' ∉ cs) (hne : cs ≠ []) : lines cs = [cs] := by
  have hpieces := pieces_of_not_mem h
  have hfull : ¬ cs.isEmpty = true := by simpa using hne
  unfold lines
  rw [hpieces]
  exact if_neg hfull

/-- A text with a return before each line feed. -/
def withReturns (cs : List Char) : List Char :=
  cs.flatMap fun c => if c = '\n' then ['\r', '\n'] else [c]

theorem withReturns_of_not_mem {cs : List Char} (h : '\n' ∉ cs) : withReturns cs = cs := by
  have hsame : ∀ c ∈ cs, (if c = '\n' then ['\r', '\n'] else [c]) = [c] := by
    intro c hc
    have hother : c ≠ '\n' := fun he => h (he ▸ hc)
    exact if_neg hother
  unfold withReturns
  rw [List.flatMap_congr hsame]
  exact List.flatMap_singleton' cs

theorem withReturns_append_newline {cs : List Char} (h : '\n' ∉ cs) (rest : List Char) :
    withReturns (cs ++ '\n' :: rest) = (cs ++ ['\r']) ++ '\n' :: withReturns rest := by
  have hline : withReturns cs = cs := withReturns_of_not_mem h
  unfold withReturns at hline ⊢
  rw [List.flatMap_append, hline, List.flatMap_cons, List.append_assoc]
  rfl

/-- In a text without returns, a return before each line feed changes no line. -/
theorem lines_withReturns {cs : List Char} (h : '\r' ∉ cs) : lines (withReturns cs) = lines cs := by
  induction cs using lines_induction with
  | last cs hcs => rw [withReturns_of_not_mem hcs]
  | line cs rest hcs ih =>
    rw [List.mem_append, List.mem_cons, not_or, not_or] at h
    obtain ⟨hreturn, -, hrest⟩ := h
    have hline : '\n' ∉ cs ++ ['\r'] := by simpa using hcs
    have hkeep : dropReturn cs = cs :=
      (dropReturn_eq_self_iff cs).2 fun hlast => hreturn (List.mem_of_getLast? hlast)
    rw [withReturns_append_newline hcs, lines_append_newline hline, dropReturn_concat_return,
      ih hrest, lines_append_newline hcs, hkeep]

/-- It does not matter whether the last line is ended, unless it ends with a return. -/
theorem lines_append_newline_last {cs : List Char} (hne : cs ≠ [])
    (hended : cs.getLast? ≠ some '\n') (hreturn : cs.getLast? ≠ some '\r') :
    lines (cs ++ ['\n']) = lines cs := by
  induction cs using lines_induction with
  | last cs hcs =>
    rw [lines_append_newline hcs, lines_of_not_mem hcs hne, (dropReturn_eq_self_iff cs).2 hreturn]
    rfl
  | line cs rest hcs ih =>
    -- the text does not end with this line feed
    have hrest : rest ≠ [] := by
      rintro rfl
      exact hended List.getLast?_concat
    have hlast : (cs ++ '\n' :: rest).getLast? = rest.getLast? := by
      rw [List.getLast?_append_of_ne_nil cs (List.cons_ne_nil _ _),
        List.getLast?_cons_of_ne_nil hrest]
    rw [hlast] at hended hreturn
    rw [List.append_assoc, List.cons_append, lines_append_newline hcs, lines_append_newline hcs,
      ih hrest hended hreturn]

/-- Pieces between line feeds, as the library has them. -/
theorem splitOn_eq (mark : Char) (cs : List Char) :
    cs.splitOn mark = (pieces mark cs).1 :: (pieces mark cs).2 := by
  unfold List.splitOn
  induction cs with
  | nil => exact List.splitOnP_nil
  | cons c cs ih =>
    rw [List.splitOnP_cons_eq_if_modifyHead, ih]
    by_cases hc : c = mark
    · rw [if_pos (beq_iff_eq.2 hc), hc, pieces_mark]
    · rw [if_neg (fun he => hc (beq_iff_eq.1 he)), pieces_other hc]
      rfl

/-! ### The return at the end -/

theorem withoutReturn_ofList (cs : List Char) :
    withoutReturn (String.ofList cs) = String.ofList (dropReturn cs) := by
  unfold withoutReturn
  rw [String.toList_ofList]

/-- A return is a blank, so taking it off is trimming on the right. -/
theorem trimBoth_dropReturn (cs : List Char) : trimBoth (dropReturn cs) = trimBoth cs := by
  rcases List.eq_nil_or_concat cs with hnil | ⟨init, last, hcat⟩
  · rw [hnil]
    rfl
  · rw [hcat, List.concat_eq_append]
    by_cases hreturn : last = '\r'
    · have hblanks : Blanks ['\r'] := List.all_eq_true.1 rfl
      rw [hreturn, dropReturn_concat_return, trimBoth_append_blanks init hblanks]
    · have hlast : (init ++ [last]).getLast? ≠ some '\r' := by simpa using hreturn
      rw [(dropReturn_eq_self_iff _).2 hlast]

end Text

namespace Line

open Text (Blanks)

/-! ### Lines with a key -/

/-- Whether characters spell a line that has a key. -/
def IsEntry (cs : List Char) : Prop := ∃ key value, parse cs = .entry key value

theorem parse_of_isComment {cs : List Char} (h : isComment (Text.trimLeft cs) = true) :
    parse cs = .verbatim (String.ofList cs) := by
  unfold parse
  exact if_pos h

/-- A line that is no comment is divided at the first equal sign, without the blanks before it. -/
theorem parse_of_not_isComment {cs : List Char} (h : isComment (Text.trimLeft cs) = false) :
    parse cs = .entry (String.ofList (Text.trimRight (divide (Text.trimLeft cs)).1))
      (String.ofList (Text.trimLeft (divide (Text.trimLeft cs)).2)) := by
  unfold parse
  exact if_neg (by simp [h])

theorem isEntry_iff (cs : List Char) : IsEntry cs ↔ isComment (Text.trimLeft cs) = false := by
  constructor
  · rintro ⟨key, value, hparse⟩
    rw [Bool.eq_false_iff]
    intro hcomment
    rw [parse_of_isComment hcomment] at hparse
    cases hparse
  · intro h
    exact ⟨_, _, parse_of_not_isComment h⟩

/-- Only what is left when a line is trimmed on the left matters, if it has a key. -/
theorem parse_congr {cs cs' : List Char} (h : Text.trimLeft cs = Text.trimLeft cs')
    (hentry : IsEntry cs) : parse cs = parse cs' := by
  rw [isEntry_iff] at hentry
  rw [parse_of_not_isComment hentry, h]
  rw [h] at hentry
  rw [parse_of_not_isComment hentry]

theorem divide_of_not_sign {cs : List Char} (h : '=' ∉ cs) : divide cs = (cs, []) := by
  induction cs with
  | nil => rfl
  | cons c cs ih =>
    rw [List.mem_cons, not_or] at h
    rw [divide, ih h.2]
    exact fun he => h.1 he.symm

section
variable {key : List Char} (hkey : '=' ∉ key) (value : List Char)

/-- Whether a line with an equal sign has a key depends on what stands before the sign. -/
theorem isComment_of_sign :
    isComment (Text.trimLeft (key ++ '=' :: value)) =
      (Text.trimLeft key).head?.any startsComment := by
  have hsolid : Text.isBlank '=' = false := rfl
  rw [Text.trimLeft_append_solid key hsolid]
  cases Text.trimLeft key with
  | nil => rfl
  | cons c rest => rfl

include hkey

/-- A line with an equal sign has what stands before the first one as its key, without the blanks
around it, and what stands after it as its value, without the blanks before it. -/
theorem parse_of_sign (h : (Text.trimLeft key).head?.any startsComment = false) :
    parse (key ++ '=' :: value) =
      .entry (String.ofList (Text.trimBoth key)) (String.ofList (Text.trimLeft value)) := by
  have hsolid : Text.isBlank '=' = false := rfl
  have hsign : '=' ∉ Text.trimLeft key := fun hmem => hkey (Text.mem_of_mem_trimLeft hmem)
  rw [parse_of_not_isComment ((isComment_of_sign value).trans h),
    Text.trimLeft_append_solid key hsolid, divide_of_sign hsign]
  rfl

end

/-- A line without an equal sign has all of it as its key, without the blanks around it. -/
theorem parse_of_not_sign {cs : List Char} (hsign : '=' ∉ cs)
    (h : isComment (Text.trimLeft cs) = false) :
    parse cs = .entry (String.ofList (Text.trimBoth cs)) "" := by
  have hleft : '=' ∉ Text.trimLeft cs := fun hmem => hsign (Text.mem_of_mem_trimLeft hmem)
  rw [parse_of_not_isComment h, divide_of_not_sign hleft]
  rfl

/-! ### Returns -/

/-- A return at the end of a line is taken off before or after the line is read. -/
theorem parse_dropReturn (cs : List Char) :
    parse (Text.dropReturn cs) = (parse cs).withoutReturn := by
  have hkind := isComment_dropReturn cs
  cases hcomment : isComment (Text.trimLeft cs) with
  | true =>
    rw [hcomment] at hkind
    rw [parse_of_isComment hkind, parse_of_isComment hcomment, ← Text.withoutReturn_ofList]
    rfl
  | false =>
    rw [hcomment] at hkind
    by_cases hsign : '=' ∈ cs
    · -- the return is one of the value
      obtain ⟨key, value, rfl, hkey⟩ := List.eq_append_cons_of_mem hsign
      have hdrop : Text.dropReturn (key ++ '=' :: value) = key ++ '=' :: Text.dropReturn value := by
        rw [Text.dropReturn_append key (List.cons_ne_nil _ _), Text.dropReturn_cons (by decide)]
      rw [isComment_of_sign] at hcomment
      rw [hdrop, parse_of_sign hkey _ hcomment, parse_of_sign hkey _ hcomment,
        Text.trimLeft_dropReturn, ← Text.withoutReturn_ofList]
      rfl
    · -- the return is one of the blanks after the key
      have hsign' : '=' ∉ Text.dropReturn cs :=
        fun hmem => hsign ((Text.prefix_dropReturn cs).subset hmem)
      rw [parse_of_not_sign hsign' hkind, parse_of_not_sign hsign hcomment,
        Text.trimBoth_dropReturn]
      rfl

/-! ### Blanks around a key -/

/-- A line, and the same line with blanks put in where they do not count. -/
inductive Padded (pad : List Char) : List Char → List Char → Prop where
  /-- Before the key. -/
  | beforeKey {before rest : List Char} (hbefore : Blanks before) :
      Padded pad (before ++ rest) (before ++ pad ++ rest)
  /-- Between the key and the first equal sign. -/
  | beforeSign {key before value : List Char} (hkey : '=' ∉ key) (hbefore : Blanks before) :
      Padded pad (key ++ before ++ '=' :: value) (key ++ pad ++ before ++ '=' :: value)
  /-- After the first equal sign. -/
  | afterSign {key after value : List Char} (hkey : '=' ∉ key) (hafter : Blanks after) :
      Padded pad (key ++ '=' :: (after ++ value)) (key ++ '=' :: (after ++ pad ++ value))

/-- A line with a key after blanks were put in and taken out where they do not count, as often as
one likes. -/
inductive Relaid : List Char → List Char → Prop where
  /-- Nothing was done. -/
  | same (cs : List Char) : Relaid cs cs
  /-- Blanks were put in. -/
  | insert {cs line line' pad : List Char} (hrelaid : Relaid cs line) (hentry : IsEntry line)
      (hblanks : Blanks pad) (hline : '\n' ∉ pad) (hpad : Padded pad line line') : Relaid cs line'
  /-- Blanks were taken out. -/
  | remove {cs line line' pad : List Char} (hrelaid : Relaid cs line) (hentry : IsEntry line)
      (hblanks : Blanks pad) (hpad : Padded pad line' line) : Relaid cs line'

/-- No blank is an equal sign. -/
theorem sign_not_mem_append {key blanks : List Char} (hkey : '=' ∉ key) (h : Blanks blanks) :
    '=' ∉ key ++ blanks := by
  rw [List.mem_append, not_or]
  refine ⟨hkey, fun hmem => ?_⟩
  have hblank := h '=' hmem
  cases hblank

/-- Blanks that do not count change neither whether a line has a key nor what it says. -/
theorem Padded.parse_eq {pad line line' : List Char} (h : Padded pad line line')
    (hpad : Blanks pad) :
    (IsEntry line' ↔ IsEntry line) ∧ (IsEntry line → parse line' = parse line) := by
  cases h with
  | @beforeKey before rest hbefore =>
    -- all of these blanks are trimmed before anything else is done
    have hleft : Text.trimLeft (before ++ pad ++ rest) = Text.trimLeft (before ++ rest) := by
      rw [List.append_assoc, Text.trimLeft_append hbefore, Text.trimLeft_append hpad,
        Text.trimLeft_append hbefore]
    rw [isEntry_iff, isEntry_iff, hleft]
    exact ⟨Iff.rfl, fun hentry => (parse_congr hleft.symm ((isEntry_iff _).2 hentry)).symm⟩
  | @beforeSign key before value hkey hbefore =>
    -- these blanks are at the end of what stands before the sign, the first one still
    have hboth : Text.trimBoth (key ++ pad ++ before) = Text.trimBoth (key ++ before) := by
      rw [Text.trimBoth_append_blanks _ hbefore, Text.trimBoth_append_blanks _ hpad,
        Text.trimBoth_append_blanks _ hbefore]
    have hhead : (Text.trimLeft (key ++ pad ++ before)).head? =
        (Text.trimLeft (key ++ before)).head? := by
      rw [Text.head?_trimLeft_append_blanks _ hbefore, Text.head?_trimLeft_append_blanks _ hpad,
        Text.head?_trimLeft_append_blanks _ hbefore]
    have hsign := sign_not_mem_append hkey hbefore
    have hsign' := sign_not_mem_append (sign_not_mem_append hkey hpad) hbefore
    rw [isEntry_iff, isEntry_iff, isComment_of_sign, isComment_of_sign, hhead]
    refine ⟨Iff.rfl, fun hentry => ?_⟩
    rw [parse_of_sign hsign _ hentry, parse_of_sign hsign' _ (hhead ▸ hentry), hboth]
  | @afterSign key after value hkey hafter =>
    have hleft : Text.trimLeft (after ++ pad ++ value) = Text.trimLeft (after ++ value) := by
      rw [List.append_assoc, Text.trimLeft_append hafter, Text.trimLeft_append hpad,
        Text.trimLeft_append hafter]
    rw [isEntry_iff, isEntry_iff, isComment_of_sign, isComment_of_sign]
    refine ⟨Iff.rfl, fun hentry => ?_⟩
    rw [parse_of_sign hkey _ hentry, parse_of_sign hkey _ hentry, hleft]

theorem Relaid.parse_eq {cs line : List Char} (h : Relaid cs line) : parse line = parse cs := by
  induction h with
  | same => rfl
  | insert _ hentry hblanks _ hpad ih =>
    obtain ⟨-, hparse⟩ := hpad.parse_eq hblanks
    exact (hparse hentry).trans ih
  | remove _ hentry hblanks hpad ih =>
    obtain ⟨hentries, hparse⟩ := hpad.parse_eq hblanks
    exact (hparse (hentries.1 hentry)).symm.trans ih

/-- Nothing but the empty line is read as an empty line. -/
theorem eq_nil_of_parse_eq {cs : List Char} (h : parse cs = parse []) : cs = [] := by
  cases hcomment : isComment (Text.trimLeft cs) with
  | true =>
    rw [parse_of_isComment hcomment] at h
    exact String.ofList_eq_empty_iff.1 (Line.verbatim.inj h)
  | false =>
    rw [parse_of_not_isComment hcomment] at h
    cases h

end Line

namespace Document

/-! ### Documents -/

/-- Pieces that are read as the same lines one by one are so when they are ended. -/
theorem map_parse_closeLines {first first' : List Char} {others others' : List (List Char)}
    (h : List.Forall₂ (fun cs cs' => Line.parse cs' = Line.parse cs) (first :: others)
      (first' :: others')) :
    (Text.closeLines first' others').map Line.parse =
      (Text.closeLines first others).map Line.parse := by
  induction others generalizing first first' others' with
  | nil =>
    obtain ⟨hfirst, hnone⟩ := List.forall₂_cons.1 h
    cases hnone
    -- the last piece is no line if it is empty
    by_cases hnil : first = []
    · subst hnil
      rw [Line.eq_nil_of_parse_eq hfirst]
    · have hnil' : first' ≠ [] := by
        rintro rfl
        exact hnil (Line.eq_nil_of_parse_eq hfirst.symm)
      have hfull : ¬ first.isEmpty = true := by simpa using hnil
      have hfull' : ¬ first'.isEmpty = true := by simpa using hnil'
      rw [Text.closeLines, Text.closeLines, if_neg hfull, if_neg hfull', List.map_singleton,
        List.map_singleton, hfirst]
  | cons next others ih =>
    -- the first piece is ended, and a return at its end is taken off
    obtain ⟨hfirst, hrest⟩ := List.forall₂_cons.1 h
    cases hrest with
    | cons hnext hothers =>
      rw [Text.closeLines, Text.closeLines, List.map_cons, List.map_cons, Line.parse_dropReturn,
        Line.parse_dropReturn, hfirst, ih (.cons hnext hothers)]

/-- Texts are read as the same document if their lines are read as the same lines. -/
theorem parse_eq_of_lines {t t' : String} (h : (Text.lines t'.toList).map Line.parse =
    (Text.lines t.toList).map Line.parse) : parse t' = parse t :=
  congrArg Document.mk h

/-- A text is read as the same document with a return before each line feed, if it has no returns;
with its last line ended, if it has a last line that is not ended and does not end with a return;
and with blanks put in and taken out on any of its lines that have a key, before the key and on
both sides of the first equal sign. -/
theorem parse_relaid (t : String) :
    ('\r' ∉ t.toList → parse (String.ofList (Text.withReturns t.toList)) = parse t) ∧
    (t ≠ "" → t.toList.getLast? ≠ some '\n' → t.toList.getLast? ≠ some '\r' →
      parse (t ++ "\n") = parse t) ∧
    ∀ t' : String, List.Forall₂ Line.Relaid (t.toList.splitOn '\n') (t'.toList.splitOn '\n') →
      parse t' = parse t := by
  refine ⟨fun hreturn => ?_, fun hne hended hreturn => ?_, fun t' hrelaid => ?_⟩
  · apply parse_eq_of_lines
    rw [String.toList_ofList, Text.lines_withReturns hreturn]
  · have hchars : t.toList ≠ [] := fun hnil => hne (String.toList_eq_nil_iff.1 hnil)
    apply parse_eq_of_lines
    rw [String.toList_append]
    exact congrArg (List.map Line.parse) (Text.lines_append_newline_last hchars hended hreturn)
  · have hlines := hrelaid.imp fun _ _ h => h.parse_eq
    rw [Text.splitOn_eq, Text.splitOn_eq] at hlines
    exact parse_eq_of_lines (map_parse_closeLines hlines)

/-- `parse_relaid` at a text that has a comment, a line with an equal sign and one without, and at
three changes of it: other ends of lines, an end of the last line, and other blanks. -/
theorem parse_relaid_indented :
    parse "a = b\r\n#c\r\nd" = parse "a = b\n#c\nd" ∧
    parse "a = b\n#c\nd\n" = parse "a = b\n#c\nd" ∧
    parse "\u00a0a=\t b\n#c\n  d" = parse "a = b\n#c\nd" := by
  obtain ⟨hreturns, hended, hrelaid⟩ := parse_relaid "a = b\n#c\nd"
  refine ⟨hreturns (by decide), hended (by decide) (by decide) (by decide), hrelaid _ ?_⟩
  have hblank : ∀ c, Text.isBlank c = true → Text.Blanks [c] := by
    intro c hc d hd
    rwa [List.mem_singleton.1 hd]
  have hfirst : Line.Relaid "a = b".toList "\u00a0a=\t b".toList := by
    -- a blank before the key, none before the sign, and one more after it
    have hbefore : Line.Relaid "a = b".toList "\u00a0a = b".toList :=
      .insert (.same _) ((Line.isEntry_iff _).2 (by decide)) (hblank '\u00a0' rfl) (by decide)
        (.beforeKey (nofun : Text.Blanks []))
    have hsign : Line.Relaid "a = b".toList "\u00a0a= b".toList :=
      .remove hbefore ((Line.isEntry_iff _).2 (by decide)) (hblank ' ' rfl)
        (@Line.Padded.beforeSign _ "\u00a0a".toList [] " b".toList (by decide) nofun)
    exact .insert hsign ((Line.isEntry_iff _).2 (by decide)) (hblank '\t' rfl) (by decide)
      (@Line.Padded.afterSign _ "\u00a0a".toList [] " b".toList (by decide) nofun)
  have hlast : Line.Relaid "d".toList "  d".toList :=
    .insert (.same _) ((Line.isEntry_iff _).2 (by decide)) (List.all_eq_true.1 rfl) (by decide)
      (@Line.Padded.beforeKey "  ".toList [] "d".toList nofun)
  exact .cons hfirst (.cons (.same _) (.cons hlast .nil))

end Document

end Admission

import Admission.Location
import Admission.Proofs.Text.Variation
import Mathlib.Data.List.Induction

/-!
# Precedence — what a location names

  A location is a URL, or else it names a text of the resource bundle, or else it is a path.
  `Resolves` says so about the text itself: a URL by what stands before the first `://` in it,
  a name of the bundle up to slashes before it, and of several texts with one name the last that
  was put in.

  `resolve_precedence` says that every text resolves to what this precedence gives, whatever texts
  were put in the bundle. A URL resolves without regard to the bundle, and slashes before the name
  of a resource do not count.
-/

namespace Admission

open Text (CaseVariant)

/-! ### Names up to slashes -/

/-- Two names that differ at most in the number of slashes before them. -/
def SlashVariant (a b : String) : Prop :=
  ∃ (m n : Nat) (rest : List Char),
    a.toList = List.replicate m '/' ++ rest ∧ b.toList = List.replicate n '/' ++ rest

namespace Bundle

theorem dropWhile_slashes (n : Nat) (rest : List Char) :
    (List.replicate n '/' ++ rest).dropWhile (· == '/') = rest.dropWhile (· == '/') := by
  apply List.dropWhile_append_of_pos
  intro c hc
  rw [List.eq_of_mem_replicate hc]
  rfl

theorem slashes_append_dropWhile (cs : List Char) :
    cs = List.replicate (cs.takeWhile (· == '/')).length '/' ++ cs.dropWhile (· == '/') := by
  have hslashes : cs.takeWhile (· == '/') = List.replicate (cs.takeWhile (· == '/')).length '/' := by
    rw [List.eq_replicate_iff]
    refine ⟨rfl, fun c hc => ?_⟩
    exact beq_iff_eq.1 (List.mem_takeWhile_imp (p := (· == '/')) hc)
  rw [← hslashes]
  exact List.takeWhile_append_dropWhile.symm

theorem bareName_eq_iff (a b : String) : bareName a = bareName b ↔ SlashVariant a b := by
  unfold bareName
  rw [String.ofList_inj]
  constructor
  · intro h
    have hb := slashes_append_dropWhile b.toList
    rw [← h] at hb
    exact ⟨_, _, _, slashes_append_dropWhile a.toList, hb⟩
  · rintro ⟨m, n, rest, ha, hb⟩
    rw [ha, hb, dropWhile_slashes, dropWhile_slashes]

/-! ### The texts of a bundle -/

theorem ofList_append (texts : List (String × String)) (t : String × String) :
    ofList (texts ++ [t]) = (ofList texts).insert t.1 t.2 := by
  unfold ofList
  rw [List.foldl_append]
  rfl

theorem get?_insert_of_slashVariant {given name : String} (h : SlashVariant given name)
    (b : Bundle) (content : String) : (b.insert given content).get? name = some content := by
  have hbare := (bareName_eq_iff given name).2 h
  exact (KeyMap.get?_insert _ _ _ _).trans (if_pos hbare.symm)

theorem get?_insert_of_not_slashVariant {given name : String} (h : ¬ SlashVariant given name)
    (b : Bundle) (content : String) : (b.insert given content).get? name = b.get? name := by
  have hbare : bareName name ≠ bareName given := fun he => h ((bareName_eq_iff given name).1 he.symm)
  exact (KeyMap.get?_insert _ _ _ _).trans (if_neg hbare)

/-- The text of a name among those that were put in a bundle, one after the other. -/
inductive Finds (texts : List (String × String)) (name : String) : Option String → Prop where
  /-- The last of those with the name. -/
  | last {earlier later : List (String × String)} {given content : String}
      (htexts : texts = earlier ++ (given, content) :: later) (hgiven : SlashVariant given name)
      (hlater : ∀ t ∈ later, ¬ SlashVariant t.1 name) : Finds texts name (some content)
  /-- None has the name. -/
  | nothing (hnone : ∀ t ∈ texts, ¬ SlashVariant t.1 name) : Finds texts name none

/-- A text with another name changes nothing. -/
theorem Finds.append_other {texts : List (String × String)} {name : String}
    {found : Option String} (h : Finds texts name found) {t : String × String}
    (ht : ¬ SlashVariant t.1 name) : Finds (texts ++ [t]) name found := by
  have hothers : ∀ later : List (String × String), (∀ u ∈ later, ¬ SlashVariant u.1 name) →
      ∀ u ∈ later ++ [t], ¬ SlashVariant u.1 name := by
    intro later hlater u hu
    rcases List.mem_append.1 hu with hu | hu
    · exact hlater u hu
    · rw [List.mem_singleton.1 hu]
      exact ht
  cases h with
  | @last earlier later given content htexts hgiven hlater =>
    have hlonger : texts ++ [t] = earlier ++ (given, content) :: (later ++ [t]) := by
      rw [htexts, List.append_assoc, List.cons_append]
    exact .last hlonger hgiven (hothers later hlater)
  | nothing hnone => exact .nothing (hothers texts hnone)

/-- Looking a name up in a bundle finds its text. -/
theorem finds_get?_ofList (texts : List (String × String)) (name : String) :
    Finds texts name ((ofList texts).get? name) := by
  -- on the texts in the order in which they are put in, so that the last one is put in last
  induction texts using List.reverseRecOn with
  | nil => exact .nothing nofun
  | append_singleton texts t ih =>
    rw [ofList_append]
    by_cases ht : SlashVariant t.1 name
    · rw [get?_insert_of_slashVariant ht]
      exact .last rfl ht nofun
    · rw [get?_insert_of_not_slashVariant ht]
      exact ih.append_other ht

end Bundle

namespace Location

/-! ### URLs -/

/-- What stands between the scheme of a URL and the rest. -/
def separator : List Char := [':', '/', '/']

/-- A text that can be the scheme of a URL: a letter, then letters, digits, and `+`, `.` and `-`. -/
def Scheme (s : List Char) : Prop :=
  ∃ c cs, s = c :: cs ∧ c.isAlpha = true ∧ ∀ d ∈ cs, d.isAlphanum = true ∨ d ∈ ['+', '.', '-']

/-- A text that has the first `://` in it between two parts. -/
structure Divided (r before after : List Char) : Prop where
  /-- The parts make up the text. -/
  parts : r = before ++ separator ++ after
  /-- No `://` is further ahead. -/
  first : ∀ b a, r = b ++ separator ++ a → before.length ≤ b.length

/-- A text that has a scheme before the first `://`. -/
structure IsUrl (r : String) (scheme rest : List Char) : Prop where
  /-- It is divided at the first `://`. -/
  divided : Divided r.toList scheme rest
  /-- What stands before it is a scheme. -/
  scheme : Scheme scheme

theorem divideUrl_parts {cs before after : List Char} (h : divideUrl cs = some (before, after)) :
    cs = before ++ separator ++ after := by
  fun_induction divideUrl cs generalizing before with
  | case1 => cases h
  | case2 rest =>
    cases h
    rfl
  | case3 c rest _ ih =>
    obtain ⟨⟨before', after'⟩, hrest, heq⟩ := Option.map_eq_some_iff.1 h
    cases heq
    rw [ih hrest]
    rfl

/-- A text that holds `://` is divided, and not further behind. -/
theorem divideUrl_append (b a : List Char) :
    ∃ before after, divideUrl (b ++ separator ++ a) = some (before, after) ∧
      before.length ≤ b.length := by
  induction b with
  | nil => exact ⟨[], a, rfl, Nat.le_refl 0⟩
  | cons c b ih =>
    obtain ⟨before, after, hdivided, hle⟩ := ih
    rw [List.cons_append, List.cons_append]
    unfold divideUrl
    split
    · next heq => cases heq
    · -- there is a `://` at the very beginning already
      exact ⟨[], _, rfl, Nat.zero_le _⟩
    · next heq =>
      cases heq
      rw [hdivided]
      exact ⟨c :: before, after, rfl, Nat.succ_le_succ hle⟩

theorem divideUrl_eq_some_iff {cs before after : List Char} :
    divideUrl cs = some (before, after) ↔ Divided cs before after := by
  constructor
  · intro h
    refine ⟨divideUrl_parts h, fun b a hcs => ?_⟩
    obtain ⟨before', after', hdivided, hle⟩ := divideUrl_append b a
    rw [← hcs, h] at hdivided
    cases hdivided
    exact hle
  · intro h
    obtain ⟨before', after', hdivided, hle⟩ := divideUrl_append before after
    rw [← h.parts] at hdivided
    have hparts := divideUrl_parts hdivided
    have hlength : before.length = before'.length := Nat.le_antisymm (h.first _ _ hparts) hle
    -- two divisions at the same place are the same
    have hsame : before ++ (separator ++ after) = before' ++ (separator ++ after') := by
      rw [← List.append_assoc, ← List.append_assoc, ← h.parts]
      exact hparts
    obtain ⟨rfl, htail⟩ := List.append_inj hsame hlength
    rw [List.append_cancel_left htail]
    exact hdivided

theorem isScheme_iff (s : List Char) : isScheme s = true ↔ Scheme s := by
  unfold Scheme
  cases s with
  | nil => simp [isScheme]
  | cons c cs => simp [isScheme, or_assoc]

theorem splitScheme_eq_some_iff {r : String} {scheme rest : List Char} :
    splitScheme r.toList = some (scheme, rest) ↔ IsUrl r scheme rest := by
  unfold splitScheme
  rw [Option.filter_eq_some_iff, divideUrl_eq_some_iff, isScheme_iff]
  exact ⟨fun h => ⟨h.1, h.2⟩, fun h => ⟨h.divided, h.scheme⟩⟩

theorem splitScheme_eq_none_iff {r : String} :
    splitScheme r.toList = none ↔ ∀ scheme rest, ¬ IsUrl r scheme rest := by
  rw [Option.eq_none_iff_forall_ne_some]
  constructor
  · intro h scheme rest hurl
    exact h _ (splitScheme_eq_some_iff.2 hurl)
  · intro h parts hparts
    exact h _ _ (splitScheme_eq_some_iff.1 hparts)

/-! ### What a text resolves to -/

/-- A text that says something and is no URL. -/
structure Plain (r : String) : Prop where
  /-- It is not empty. -/
  ne_empty : r ≠ ""
  /-- It is no URL. -/
  not_url : ∀ scheme rest, ¬ IsUrl r scheme rest

/-- What a text without blanks around it names, given the texts that were put in the bundle. -/
inductive Resolves (texts : List (String × String)) (r : String) : Except Fault Location → Prop where
  /-- An empty text names nothing. -/
  | empty {f : Fault} (hr : r = "") (hf : f.kind = .config) : Resolves texts r (.error f)
  /-- A URL of the web is a remote store. -/
  | remote {scheme rest : List Char} (hurl : IsUrl r scheme rest)
      (hscheme : CaseVariant scheme "http".toList ∨ CaseVariant scheme "https".toList) :
      Resolves texts r (.ok (.remote r))
  /-- A URL of a file is a path, which is the end of what follows the scheme. -/
  | file {scheme rest : List Char} {p : String} (hurl : IsUrl r scheme rest)
      (hscheme : CaseVariant scheme "file".toList) (hpath : p.toList <:+ rest) :
      Resolves texts r (.ok (.path p))
  /-- Any other URL names nothing. -/
  | unsupported {scheme rest : List Char} {f : Fault} (hurl : IsUrl r scheme rest)
      (hhttp : ¬ CaseVariant scheme "http".toList) (hhttps : ¬ CaseVariant scheme "https".toList)
      (hfile : ¬ CaseVariant scheme "file".toList) (hf : f.kind = .config) :
      Resolves texts r (.error f)
  /-- A name of the bundle is the last text with that name. -/
  | resource {content : String} (hr : Plain r) (hfinds : Bundle.Finds texts r (some content)) :
      Resolves texts r (.ok (.resource (Bundle.bareName r) content))
  /-- Any other text is a path. -/
  | path (hr : Plain r) (hfinds : Bundle.Finds texts r none) : Resolves texts r (.ok (.path r))

/-- A scheme in small letters is a name in small letters exactly if it has the letters of that
name. -/
theorem lowered_eq_iff (scheme : List Char) {name : String}
    (hname : name.toList.map Char.toLower = name.toList) :
    String.ofList (scheme.map Char.toLower) = name ↔ CaseVariant scheme name.toList := by
  rw [← Text.map_toLower_eq_iff, hname, ← String.toList_inj, String.toList_ofList]

theorem suffix_dropAuthority (cs : List Char) : dropAuthority cs <:+ cs := by
  unfold dropAuthority
  dsimp only
  split
  · exact List.drop_suffix _ _
  · exact List.suffix_rfl

theorem resolves_ofUrl (texts : List (String × String)) {r : String} {scheme rest : List Char}
    (hurl : IsUrl r scheme rest) :
    Resolves texts r (ofUrl (String.ofList (scheme.map Char.toLower)) rest r) := by
  have hhttp := @lowered_eq_iff scheme "http" rfl
  have hhttps := @lowered_eq_iff scheme "https" rfl
  have hfile := @lowered_eq_iff scheme "file" rfl
  unfold ofUrl
  split
  · next heq => exact .remote hurl (.inl (hhttp.1 heq))
  · next heq => exact .remote hurl (.inr (hhttps.1 heq))
  · next heq =>
    refine .file hurl (hfile.1 heq) ?_
    rw [String.toList_ofList]
    exact suffix_dropAuthority rest
  · next hnot_http hnot_https hnot_file =>
    exact .unsupported hurl (fun h => hnot_http (hhttp.2 h)) (fun h => hnot_https (hhttps.2 h))
      (fun h => hnot_file (hfile.2 h)) rfl

section
variable {text : String}

theorem resolve_of_empty (h : Text.trim text = "") (b : Bundle) :
    resolve text b = .error .emptyLocation := by
  have hnil : Text.trimBoth text.toList = [] := String.ofList_eq_empty_iff.1 h
  unfold resolve
  rw [hnil]
  rfl

theorem resolve_of_ne_empty (h : Text.trim text ≠ "") (b : Bundle) :
    resolve text b =
      match splitScheme (Text.trim text).toList with
      | some (scheme, rest) =>
        ofUrl (String.ofList (scheme.map Char.toLower)) rest (Text.trim text)
      | none =>
        match b.get? (Text.trim text) with
        | some content => .ok (.resource (Bundle.bareName (Text.trim text)) content)
        | none => .ok (.path (Text.trim text)) := by
  have hnil : (Text.trimBoth text.toList).isEmpty = false := by
    rw [List.isEmpty_eq_false_iff]
    exact fun he => h (String.ofList_eq_empty_iff.2 he)
  unfold resolve Text.trim
  rw [String.toList_ofList]
  exact if_neg (Bool.eq_false_iff.1 hnil)

theorem IsUrl.ne_empty {r : String} {scheme rest : List Char} (h : IsUrl r scheme rest) :
    r ≠ "" := by
  rintro rfl
  obtain ⟨c, cs, rfl, -⟩ := h.scheme
  have hparts := h.divided.parts
  cases hparts

theorem resolve_of_isUrl {scheme rest : List Char} (h : IsUrl (Text.trim text) scheme rest)
    (b : Bundle) : resolve text b =
      ofUrl (String.ofList (scheme.map Char.toLower)) rest (Text.trim text) := by
  rw [resolve_of_ne_empty h.ne_empty, splitScheme_eq_some_iff.2 h]

theorem resolve_of_plain (h : Plain (Text.trim text)) (b : Bundle) : resolve text b =
    match b.get? (Text.trim text) with
    | some content => .ok (.resource (Bundle.bareName (Text.trim text)) content)
    | none => .ok (.path (Text.trim text)) := by
  rw [resolve_of_ne_empty h.ne_empty, splitScheme_eq_none_iff.2 h.not_url]

theorem resolves_resolve (texts : List (String × String)) (text : String) :
    Resolves texts (Text.trim text) (resolve text (Bundle.ofList texts)) := by
  by_cases hempty : Text.trim text = ""
  · rw [resolve_of_empty hempty]
    exact .empty hempty rfl
  by_cases hurl : ∃ scheme rest, IsUrl (Text.trim text) scheme rest
  · -- a URL is not looked up
    obtain ⟨scheme, rest, hurl⟩ := hurl
    rw [resolve_of_isUrl hurl]
    exact resolves_ofUrl texts hurl
  · have hplain : Plain (Text.trim text) :=
      ⟨hempty, fun scheme rest h => hurl ⟨scheme, rest, h⟩⟩
    have hfinds := Bundle.finds_get?_ofList texts (Text.trim text)
    rw [resolve_of_plain hplain]
    cases hget : (Bundle.ofList texts).get? (Text.trim text) with
    | some content => exact .resource hplain (hget ▸ hfinds)
    | none => exact .path hplain (hget ▸ hfinds)

/-- A plain text resolves to a resource exactly if the bundle has a text under its bare name. -/
theorem resolve_eq_resource_iff (h : Plain (Text.trim text)) {b : Bundle} {name content : String} :
    resolve text b = .ok (.resource name content) ↔
      Bundle.bareName (Text.trim text) = name ∧ b.get? (Text.trim text) = some content := by
  rw [resolve_of_plain h]
  cases b.get? (Text.trim text) <;> simp

end

/-- Every text resolves to what the precedence gives. A URL resolves without regard to the bundle,
and of two plain texts that differ only in the slashes before them, one resolves to a resource
exactly if the other resolves to it. -/
theorem resolve_precedence (texts : List (String × String)) :
    (∀ text : String, Resolves texts (Text.trim text) (resolve text (Bundle.ofList texts))) ∧
    (∀ (text : String) (scheme rest : List Char), IsUrl (Text.trim text) scheme rest →
      ∀ b : Bundle, resolve text b = resolve text (Bundle.ofList texts)) ∧
    ∀ text text' : String, Plain (Text.trim text) → Plain (Text.trim text') →
      SlashVariant (Text.trim text) (Text.trim text') → ∀ name content : String,
        resolve text (Bundle.ofList texts) = .ok (.resource name content) ↔
          resolve text' (Bundle.ofList texts) = .ok (.resource name content) := by
  refine ⟨resolves_resolve texts, ?_, ?_⟩
  · intro text scheme rest hurl b
    rw [resolve_of_isUrl hurl, resolve_of_isUrl hurl]
  · intro text text' hplain hplain' hvariant name content
    -- both are looked up under the same bare name, and that is the name they resolve to
    have hbare := (Bundle.bareName_eq_iff _ _).2 hvariant
    rw [resolve_eq_resource_iff hplain, resolve_eq_resource_iff hplain', Bundle.get?, Bundle.get?,
      hbare]

/-- Two texts whose names are the same up to slashes, and no URLs, since no scheme begins with a
digit. -/
def namesakes : List (String × String) := [("1x://r", "old"), ("///1x://r", "new")]

/-- `resolve_precedence` at a URL with a second `://` and a scheme in mixed case, and at two texts
between slashes and blanks that name the later of two namesakes. -/
theorem resolve_precedence_namesakes :
    (IsUrl (Text.trim "HtTp://h://i ") "HtTp".toList "h://i".toList ∧
      resolve "HtTp://h://i " {} = resolve "HtTp://h://i " (Bundle.ofList namesakes)) ∧
    Plain (Text.trim " //1x://r\n") ∧ Plain (Text.trim "/1x://r") ∧
    SlashVariant (Text.trim " //1x://r\n") (Text.trim "/1x://r") ∧
    Resolves namesakes (Text.trim " //1x://r\n") (.ok (.resource "1x://r" "new")) ∧
    resolve "/1x://r" (Bundle.ofList namesakes) = .ok (.resource "1x://r" "new") := by
  obtain ⟨hresolves, hurls, hslashes⟩ := resolve_precedence namesakes
  have hurl : IsUrl (Text.trim "HtTp://h://i ") "HtTp".toList "h://i".toList :=
    splitScheme_eq_some_iff.1 (by decide)
  have hplain : Plain (Text.trim " //1x://r\n") :=
    ⟨by decide, splitScheme_eq_none_iff.1 (by decide)⟩
  have hplain' : Plain (Text.trim "/1x://r") :=
    ⟨by decide, splitScheme_eq_none_iff.1 (by decide)⟩
  have hvariant : SlashVariant (Text.trim " //1x://r\n") (Text.trim "/1x://r") :=
    ⟨2, 1, "1x://r".toList, by decide, by decide⟩
  have hresource : resolve " //1x://r\n" (Bundle.ofList namesakes) =
      .ok (.resource "1x://r" "new") := by decide +kernel
  refine ⟨⟨hurl, hurls _ _ _ hurl {}⟩, hplain, hplain', hvariant, ?_, ?_⟩
  · rw [← hresource]
    exact hresolves " //1x://r\n"
  · exact (hslashes _ _ hplain hplain' hvariant _ _).1 hresource

end Location

end Admission

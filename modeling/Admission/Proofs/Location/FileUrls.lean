import Admission.Proofs.Location.Precedence

/-!
# File URLs — the path that a URL of a file spells

  What follows the scheme of a file URL is a path, perhaps with a host before it. A host
  goes up to the first slash, and one host does not count: the machine at hand, by the
  name `localhost`. `SpellsPath` says so for the text as a whole.

  Resolving a URL looks at the letters of that name alone, not at where the host ends. So
  a longer host that begins with them (`LongerHost`) loses its beginning, and these are
  all the URLs that name another path than the one they spell (`resolve_fileUrl`).
-/

namespace Admission

namespace Location

open Text (CaseVariant)

/-! ### The host before a path -/

/-- The name of the machine at hand. -/
def atHand : List Char := "localhost".toList

/-- What can follow a host: nothing, or a slash and more. -/
def EndsHost (cs : List Char) : Prop := cs = [] ∨ ∃ rest, cs = '/' :: rest

/-- The path that is spelled by what follows the scheme. -/
inductive SpellsPath : List Char → List Char → Prop where
  /-- The machine at hand does not count as a host. -/
  | atHand {path : List Char} (hends : EndsHost path) : SpellsPath (atHand ++ path) path
  /-- Any other text is a path as it stands. -/
  | whole {cs : List Char} (hother : ∀ path, EndsHost path → cs ≠ Location.atHand ++ path) :
      SpellsPath cs cs

/-- A host that begins with the name of the machine at hand and goes on after it. -/
def LongerHost (cs : List Char) : Prop := ∃ c rest, cs = atHand ++ c :: rest ∧ c ≠ '/'

/-- Two texts that are the same, or are so when the machine at hand is left out as a host. -/
inductive SameButHost : List Char → List Char → Prop where
  /-- They are the same. -/
  | same (cs : List Char) : SameButHost cs cs
  /-- The first one has the machine at hand as its host, the second one has none. -/
  | left {path : List Char} (hends : EndsHost path) : SameButHost (atHand ++ path) path
  /-- The second one has the machine at hand as its host, the first one has none. -/
  | right {path : List Char} (hends : EndsHost path) : SameButHost path (atHand ++ path)

theorem longerHost_append_iff (path : List Char) :
    LongerHost (atHand ++ path) ↔ ¬ EndsHost path := by
  constructor
  · rintro ⟨c, rest, hcs, hc⟩ hends
    have hpath : path = c :: rest := List.append_cancel_left hcs
    rcases hends with hnil | ⟨rest', hslash⟩
    · rw [hnil] at hpath
      cases hpath
    · rw [hslash] at hpath
      cases hpath
      exact hc rfl
  · intro hends
    cases path with
    | nil => exact absurd (.inl rfl) hends
    | cons c rest =>
      refine ⟨c, rest, rfl, fun hc => hends (.inr ⟨rest, ?_⟩)⟩
      rw [hc]

theorem not_longerHost_of_other {cs : List Char} (h : ¬ atHand <+: cs) : ¬ LongerHost cs := by
  rintro ⟨c, rest, rfl, -⟩
  exact h (List.prefix_append _ _)

/-- What follows a host does not begin with the machine at hand. -/
theorem EndsHost.not_begun {path : List Char} (h : EndsHost path) : ¬ atHand <+: path := by
  intro hprefix
  rcases h with rfl | ⟨rest, rfl⟩
  · have hnil := List.prefix_nil.1 hprefix
    cases hnil
  · have hslash := (List.cons_prefix_cons.1 hprefix).1
    revert hslash
    decide

/-! ### What is left out -/

theorem dropAuthority_eq (cs : List Char) :
    dropAuthority cs = if atHand.isPrefixOf cs then cs.drop atHand.length else cs := rfl

theorem dropAuthority_append (path : List Char) : dropAuthority (atHand ++ path) = path := by
  have hprefix : atHand.isPrefixOf (atHand ++ path) = true :=
    List.isPrefixOf_iff_prefix.2 (List.prefix_append _ _)
  rw [dropAuthority_eq, if_pos hprefix, List.drop_left]

theorem dropAuthority_of_other {cs : List Char} (h : ¬ atHand <+: cs) :
    dropAuthority cs = cs := by
  have hprefix : ¬ atHand.isPrefixOf cs = true := fun he => h (List.isPrefixOf_iff_prefix.1 he)
  rw [dropAuthority_eq, if_neg hprefix]

/-- What is left is the path that was spelled, unless there was a longer host. -/
theorem spellsPath_dropAuthority_iff (cs : List Char) :
    SpellsPath cs (dropAuthority cs) ↔ ¬ LongerHost cs := by
  by_cases hprefix : atHand <+: cs
  · obtain ⟨path, rfl⟩ := hprefix
    rw [dropAuthority_append, longerHost_append_iff, not_not]
    constructor
    · intro h
      generalize hcs : atHand ++ path = cs at h
      cases h with
      | atHand hends =>
        exact hends
      | whole hother =>
        -- a text is not its own beginning with more before it
        have hlength := congrArg List.length hcs
        rw [List.length_append, show atHand.length = 9 from rfl] at hlength
        omega
    · exact .atHand
  · rw [dropAuthority_of_other hprefix]
    have hother : ∀ path, EndsHost path → cs ≠ atHand ++ path := by
      rintro path - rfl
      exact hprefix (List.prefix_append _ _)
    exact ⟨fun _ => not_longerHost_of_other hprefix, fun _ => .whole hother⟩

theorem EndsHost.dropAuthority_eq {path : List Char} (h : EndsHost path) :
    dropAuthority (atHand ++ path) = dropAuthority path := by
  rw [dropAuthority_append, dropAuthority_of_other h.not_begun]

theorem EndsHost.not_longerHost {path : List Char} (h : EndsHost path) :
    ¬ LongerHost (atHand ++ path) ∧ ¬ LongerHost path :=
  ⟨fun hlonger => (longerHost_append_iff path).1 hlonger h,
    not_longerHost_of_other h.not_begun⟩

/-- Two texts leave the same exactly if they differ at most in the host, longer hosts apart. -/
theorem sameButHost_iff (cs cs' : List Char) :
    SameButHost cs cs' ↔ dropAuthority cs = dropAuthority cs' ∧
      (cs = cs' ∨ ¬ LongerHost cs ∧ ¬ LongerHost cs') := by
  constructor
  · intro h
    cases h with
    | same => exact ⟨rfl, .inl rfl⟩
    | left hends => exact ⟨hends.dropAuthority_eq, .inr hends.not_longerHost⟩
    | right hends => exact ⟨hends.dropAuthority_eq.symm, .inr hends.not_longerHost.symm⟩
  · rintro ⟨hdrop, rfl | ⟨hlonger, hlonger'⟩⟩
    · exact .same cs
    -- without longer hosts, a name at the beginning is the host and what follows it is a path
    by_cases hprefix : atHand <+: cs
    · obtain ⟨path, rfl⟩ := hprefix
      have hends : EndsHost path := not_not.1 fun h => hlonger ((longerHost_append_iff path).2 h)
      rw [dropAuthority_append] at hdrop
      by_cases hprefix' : atHand <+: cs'
      · obtain ⟨path', rfl⟩ := hprefix'
        rw [dropAuthority_append] at hdrop
        rw [hdrop]
        exact .same _
      · rw [dropAuthority_of_other hprefix'] at hdrop
        rw [← hdrop]
        exact .left hends
    · rw [dropAuthority_of_other hprefix] at hdrop
      by_cases hprefix' : atHand <+: cs'
      · obtain ⟨path, rfl⟩ := hprefix'
        have hends : EndsHost path := not_not.1 fun h => hlonger' ((longerHost_append_iff path).2 h)
        rw [dropAuthority_append] at hdrop
        rw [hdrop]
        exact .right hends
      · rw [dropAuthority_of_other hprefix'] at hdrop
        rw [hdrop]
        exact .same cs'

/-! ### Resolving file URLs -/

theorem divideUrl_append_separator {scheme : List Char} (h : ':' ∉ scheme) (rest : List Char) :
    divideUrl (scheme ++ separator ++ rest) = some (scheme, rest) := by
  induction scheme with
  | nil => rfl
  | cons c scheme ih =>
    rw [List.mem_cons, not_or] at h
    rw [List.cons_append, List.cons_append, divideUrl, ih h.2]
    · rfl
    · -- a separator begins with a colon, so there is none here
      intro _ hc
      exact absurd hc.symm h.1

/-- A URL of a file. -/
structure FileUrl where
  /-- The scheme. -/
  scheme : List Char
  /-- What follows the scheme. -/
  rest : List Char
  /-- The scheme is `file`, in any letter case. -/
  isFile : CaseVariant scheme "file".toList
  /-- It does not end with a blank. -/
  ends : rest.getLast?.any Text.isBlank = false

namespace FileUrl

/-- The URL as it is written. -/
def text (u : FileUrl) : String := String.ofList (u.scheme ++ separator ++ u.rest)

theorem isAlpha_scheme (u : FileUrl) : ∀ c ∈ u.scheme, c.isAlpha = true :=
  u.isFile.isAlpha (List.all_eq_true.1 rfl)

theorem scheme_ne_nil (u : FileUrl) : u.scheme ≠ [] := by
  intro hnil
  have hvariant := u.isFile
  rw [hnil] at hvariant
  cases hvariant

/-- There are no blanks around the URL. -/
theorem trim_text (u : FileUrl) : Text.trim u.text = u.text := by
  have hbegins : (u.scheme ++ [':', '/']).head?.any Text.isBlank = false := by
    obtain ⟨c, cs, hscheme⟩ := List.exists_cons_of_ne_nil u.scheme_ne_nil
    rw [hscheme]
    exact Text.isBlank_of_isAlpha (u.isAlpha_scheme c (hscheme ▸ List.mem_cons_self))
  -- the separator ends with a slash, so the URL is trimmed even if nothing follows
  have htrimmed : Text.Trimmed (u.scheme ++ [':', '/'] ++ '/' :: u.rest) :=
    Text.trimmed_append_cons hbegins rfl u.ends
  have hchars : u.scheme ++ separator ++ u.rest = u.scheme ++ [':', '/'] ++ '/' :: u.rest := by
    unfold separator
    simp
  unfold Text.trim Text.trimBoth text
  rw [String.toList_ofList, hchars, Text.trimLeft_of_head htrimmed.begins,
    Text.trimRight_of_last htrimmed.ends]

theorem isUrl (u : FileUrl) : IsUrl u.text u.scheme u.rest := by
  refine ⟨divideUrl_eq_some_iff.1 ?_, ?_⟩
  · unfold text
    rw [String.toList_ofList]
    refine divideUrl_append_separator (fun hmem => ?_) u.rest
    exact absurd (u.isAlpha_scheme ':' hmem) (by decide)
  · obtain ⟨c, cs, hscheme⟩ := List.exists_cons_of_ne_nil u.scheme_ne_nil
    have halpha := u.isAlpha_scheme
    rw [hscheme] at halpha
    refine ⟨c, cs, hscheme, halpha c List.mem_cons_self, fun d hd => .inl ?_⟩
    unfold Char.isAlphanum
    rw [halpha d (List.mem_cons_of_mem c hd), Bool.true_or]

theorem resolve_text (u : FileUrl) (b : Bundle) :
    resolve u.text b = .ok (.path (String.ofList (dropAuthority u.rest))) := by
  have hurl := u.isUrl
  rw [← u.trim_text] at hurl
  have hlowered : String.ofList (u.scheme.map Char.toLower) = "file" :=
    (lowered_eq_iff u.scheme rfl).2 u.isFile
  rw [resolve_of_isUrl hurl, hlowered]
  rfl

end FileUrl

/-- Every file URL resolves to a path, which is the one that it spells exactly if it has no longer
host; a longer host loses the letters of the machine at hand. Two file URLs differ at most in the
letter case of the scheme and in whether the machine at hand is named as a host exactly if they
resolve to the same path, and are the same after the scheme or have no longer host. -/
theorem resolve_fileUrl (u u' : FileUrl) (b b' : Bundle) :
    (∃ path, resolve u.text b = .ok (.path (String.ofList path)) ∧
      (SpellsPath u.rest path ↔ ¬ LongerHost u.rest) ∧
      (LongerHost u.rest → u.rest = atHand ++ path)) ∧
    (SameButHost u.rest u'.rest ↔ resolve u.text b = resolve u'.text b' ∧
      (u.rest = u'.rest ∨ ¬ LongerHost u.rest ∧ ¬ LongerHost u'.rest)) := by
  constructor
  · refine ⟨dropAuthority u.rest, u.resolve_text b, spellsPath_dropAuthority_iff u.rest, ?_⟩
    rintro ⟨c, rest, hrest, -⟩
    rw [hrest, dropAuthority_append]
  · have hresolve : resolve u.text b = resolve u'.text b' ↔
        dropAuthority u.rest = dropAuthority u'.rest := by
      rw [u.resolve_text, u'.resolve_text, Except.ok.injEq, Location.path.injEq, String.ofList_inj]
    rw [hresolve]
    exact sameButHost_iff u.rest u'.rest

/-- A URL whose host begins like the machine at hand. -/
def longerHostUrl : FileUrl :=
  ⟨"FiLe".toList, "localhosts/t.p".toList, (Text.map_toLower_eq_iff _ _).1 (by decide), by decide⟩

/-- The URL that is left of it. -/
def shorterHostUrl : FileUrl :=
  ⟨"file".toList, "s/t.p".toList, (Text.map_toLower_eq_iff _ _).1 (by decide), by decide⟩

/-- `resolve_fileUrl` at two URLs with other hosts than the machine at hand: both name the same
file, and the first one spells another. -/
theorem resolve_fileUrl_longerHost :
    longerHostUrl.text = "FiLe://localhosts/t.p" ∧ shorterHostUrl.text = "file://s/t.p" ∧
    resolve longerHostUrl.text {} = .ok (.path "s/t.p") ∧
    resolve longerHostUrl.text {} = resolve shorterHostUrl.text {} ∧
    ¬ SpellsPath longerHostUrl.rest "s/t.p".toList ∧
    ¬ SameButHost longerHostUrl.rest shorterHostUrl.rest := by
  obtain ⟨⟨path, hresolve, hspells, hcut⟩, hsame⟩ :=
    resolve_fileUrl longerHostUrl shorterHostUrl {} {}
  have hlonger : LongerHost longerHostUrl.rest := ⟨'s', "/t.p".toList, rfl, by decide⟩
  have hrest : atHand ++ "s/t.p".toList = atHand ++ path := hcut hlonger
  have hpath : "s/t.p".toList = path := List.append_cancel_left hrest
  subst hpath
  have hshorter : resolve shorterHostUrl.text {} = .ok (.path "s/t.p") :=
    shorterHostUrl.resolve_text {}
  rw [String.ofList_toList] at hresolve
  refine ⟨rfl, rfl, hresolve, hresolve.trans hshorter.symm, fun h => hspells.1 h hlonger,
    fun h => ?_⟩
  rcases (hsame.1 h).2 with heq | ⟨hnot, -⟩
  · exact absurd heq (by decide)
  · exact hnot hlonger

end Location

end Admission

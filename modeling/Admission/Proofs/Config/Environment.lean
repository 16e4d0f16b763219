import Admission.Config
import Admission.Proofs.Files.Replace
import Admission.Proofs.Text.Numerals

/-!
# The environment — what it makes of a configuration

  The environment can override two settings, the location of the store and the poll
  interval. The interval has to be a number of 64 bits, and the configuration with both
  settings is checked again: a repository in memory that was accepted without a location
  may be given one now (`Overrides.Contradicts`).

  `override_outcome` says when overriding succeeds, what the configuration is then, and
  that every fault is one of the configuration.
-/

namespace Admission

namespace Config

variable {c : Config}

/-! ### Configurations that are not refused -/

theorem validate_ofToml {s : String} (h : ofToml s = .ok c) : c.validate = .ok () := by
  unfold ofToml at h
  split at h
  · cases h
  · split at h
    · cases h
    · obtain ⟨u, hv, rfl⟩ := map_eq_ok.1 h
      exact hv

theorem closeTimeout_ne_zero (h : c.validate = .ok ()) : c.repository.closeTimeout ≠ 0 := by
  intro hzero
  unfold validate at h
  rw [if_pos hzero] at h
  cases h

/-- With a close timeout, a configuration is refused exactly if its repository is in memory and has
a location. -/
theorem validate_eq (h : c.repository.closeTimeout ≠ 0) :
    c.validate = if c.repository.kind = .memory && c.hasLocation then .error .memoryWithLocation
      else .ok () := by
  unfold validate
  exact if_neg h

/-- With another location, a configuration is refused exactly if its repository is in memory and
the location is not blank. -/
theorem validate_withUrl (h : c.validate = .ok ()) (url : String) :
    (c.withUrl (some url)).validate =
      if c.repository.kind = .memory && !Text.isBlankText url then .error .memoryWithLocation
      else .ok () := by
  have htimeout : c.repository.closeTimeout ≠ 0 := closeTimeout_ne_zero h
  exact validate_eq (show (c.withUrl (some url)).repository.closeTimeout ≠ 0 from htimeout)

/-! ### What is overridden -/

/-- The poll interval in the environment, or else in the configuration. -/
def Overrides.interval (o : Overrides) (c : Config) : Except Fault Nat :=
  match o.refresh with
  | none => .ok c.repository.refreshTime
  | some digits => (Text.readNumber (Text.trimBoth digits.toList)).mapError .invalidRefresh

/-- The location in the environment, or else in the configuration. -/
def Overrides.location (o : Overrides) (c : Config) : Option String := o.url.or c.repository.url

/-- The configuration with the location in force and a poll interval; all other settings are the
same. -/
def Overrides.onto (o : Overrides) (c : Config) (interval : Nat) : Config :=
  { c with repository :=
    { c.repository with url := o.location c, refreshTime := interval } }

/-- The poll interval that is in force. -/
inductive Overrides.Interval (o : Overrides) (c : Config) : Nat → Prop where
  /-- Nothing is said about it in the environment. -/
  | kept (hrefresh : o.refresh = none) : o.Interval c c.repository.refreshTime
  /-- The environment spells a number of 64 bits. -/
  | given {text : String} {n : Nat} (hrefresh : o.refresh = some text)
      (htext : Text.SpellsNumber text.toList n) (hn : n ≤ 0xffffffffffffffff) : o.Interval c n

/-- The repository is in memory, and the location in force is not blank. -/
def Overrides.Contradicts (o : Overrides) (c : Config) : Prop :=
  c.repository.kind = .memory ∧ ∃ url, o.location c = some url ∧ ¬ Text.Blanks url.toList

variable {o : Overrides}

theorem Overrides.interval_eq_ok_iff {n : Nat} : o.interval c = .ok n ↔ o.Interval c n := by
  unfold Overrides.interval
  cases hrefresh : o.refresh with
  | none =>
    rw [Except.ok.injEq]
    constructor
    · rintro rfl
      exact .kept hrefresh
    · intro h
      cases h with
      | kept => rfl
      | given hgiven => rw [hrefresh] at hgiven; cases hgiven
  | some text =>
    have hlimit : n < Text.numberLimit ↔ n ≤ 0xffffffffffffffff := by
      unfold Text.numberLimit
      omega
    show (Text.readNumber (Text.trimBoth text.toList)).mapError _ = .ok n ↔ _
    rw [mapError_eq_ok, Text.readNumber_trimBoth_eq_ok_iff, hlimit]
    constructor
    · rintro ⟨htext, hn⟩
      exact .given hrefresh htext hn
    · intro h
      cases h with
      | kept hkept => rw [hrefresh] at hkept; cases hkept
      | given hgiven htext hn =>
        rw [hrefresh] at hgiven
        cases hgiven
        exact ⟨htext, hn⟩

theorem Overrides.kind_of_interval {f : Fault} (h : o.interval c = .error f) : f.kind = .config := by
  unfold Overrides.interval at h
  cases hrefresh : o.refresh with
  | none =>
    rw [hrefresh] at h
    cases h
  | some text =>
    rw [hrefresh] at h
    obtain ⟨cause, -, rfl⟩ := mapError_eq_error.1 h
    rfl

theorem withUrl_withRefresh (c : Config) (o : Overrides) (n : Nat) :
    (c.withUrl o.url).withRefresh n = o.onto c n := by
  unfold Overrides.onto Overrides.location
  cases o.url with
  | none => rfl
  | some url => rfl

/-- Both settings are overridden and then checked, unless no interval can be read. -/
theorem override_eq (c : Config) (o : Overrides) :
    c.override o = match o.interval c with
      | .error f => (.error f, c.withUrl o.url)
      | .ok n => ((o.onto c n).validate, o.onto c n) := by
  unfold override Overrides.interval
  cases o.refresh with
  | none =>
    -- the interval of the configuration is put in its own place
    show _ = ((o.onto c c.repository.refreshTime).validate, o.onto c c.repository.refreshTime)
    rw [← withUrl_withRefresh]
    cases o.url with
    | none => rfl
    | some url => rfl
  | some text =>
    cases hread : Text.readNumber (Text.trimBoth text.toList) with
    | error cause =>
      simp only [hread]
      rfl
    | ok n =>
      simp only [hread]
      rw [withUrl_withRefresh]
      rfl

theorem Overrides.hasLocation_onto (o : Overrides) (c : Config) (n : Nat) :
    (o.onto c n).hasLocation = true ↔ ∃ url, o.location c = some url ∧ ¬ Text.Blanks url.toList := by
  have hblank (url : String) : (!Text.isBlankText url) = true ↔ ¬ Text.Blanks url.toList := by
    unfold Text.isBlankText Text.Blanks
    rw [Bool.not_eq_true', ← Bool.not_eq_true, List.all_eq_true]
  show (o.location c).any _ = true ↔ _
  rw [Option.any_eq_true]
  simp only [hblank]

/-- What was accepted is refused with an overriding location exactly if that contradicts it. -/
theorem Overrides.validate_onto (h : c.validate = .ok ()) (o : Overrides) (n : Nat) :
    ((o.onto c n).validate = .ok () ↔ ¬ o.Contradicts c) ∧
      ∀ f, (o.onto c n).validate = .error f → f.kind = .config := by
  have htimeout : c.repository.closeTimeout ≠ 0 := closeTimeout_ne_zero h
  have hcontradicts : (decide ((o.onto c n).repository.kind = .memory) &&
      (o.onto c n).hasLocation) = true ↔ o.Contradicts c := by
    rw [Bool.and_eq_true, decide_eq_true_eq, o.hasLocation_onto]
    rfl
  rw [validate_eq (show (o.onto c n).repository.closeTimeout ≠ 0 from htimeout)]
  by_cases hboth : o.Contradicts c
  · -- the close timeout was accepted before and is not overridden, so this is the only fault left
    rw [if_pos (hcontradicts.2 hboth)]
    refine ⟨⟨nofun, fun hnot => absurd hboth hnot⟩, fun f hf => ?_⟩
    cases hf
    rfl
  · rw [if_neg (fun he => hboth (hcontradicts.1 he))]
    exact ⟨⟨fun _ => hboth, fun _ => rfl⟩, nofun⟩

/-- Of a configuration that was read, overriding succeeds exactly if there is a poll interval in
force and the location in force does not contradict the kind of the repository. The configuration
then has both, and otherwise what it had, and is not refused. Every fault is one of the
configuration. -/
theorem override_outcome {s : String} (hc : ofToml s = .ok c) (o : Overrides) :
    ((c.override o).1 = .ok () ↔ (∃ n, o.Interval c n) ∧ ¬ o.Contradicts c) ∧
    (∀ n, (c.override o).1 = .ok () → o.Interval c n →
      (c.override o).2 = o.onto c n ∧ (c.override o).2.validate = .ok ()) ∧
    ∀ f, (c.override o).1 = .error f → f.kind = .config := by
  have hvalid := validate_ofToml hc
  rw [override_eq]
  cases hinterval : o.interval c with
  | error f =>
    have hnone : ∀ n, ¬ o.Interval c n := by
      intro n hn
      rw [← Overrides.interval_eq_ok_iff, hinterval] at hn
      cases hn
    refine ⟨⟨nofun, fun h => ?_⟩, nofun, fun g hg => ?_⟩
    · obtain ⟨⟨n, hn⟩, -⟩ := h
      exact absurd hn (hnone n)
    · cases hg
      exact Overrides.kind_of_interval hinterval
  | ok n =>
    have hn : o.Interval c n := Overrides.interval_eq_ok_iff.1 hinterval
    obtain ⟨hsucceeds, hkind⟩ := o.validate_onto hvalid n
    refine ⟨?_, fun m hok hm => ?_, hkind⟩
    · rw [and_iff_right ⟨n, hn⟩]
      exact hsucceeds
    · -- there is but one interval
      rw [← Overrides.interval_eq_ok_iff, hinterval] at hm
      cases hm
      exact ⟨rfl, hok⟩

/-- A location and the greatest number of 64 bits, with zeros before it and blanks around it. -/
def widest : Overrides := { url := some "t.p", refresh := some " +00018446744073709551615\n" }

/-- A number that is greater by one. -/
def tooWide : Overrides := { refresh := some "18446744073709551616" }

/-- `override_outcome` on both sides of the limit. -/
theorem override_outcome_widest : ∃ c, ofToml "[repository]\nurl = \"a\"" = .ok c ∧
    widest.Interval c 18446744073709551615 ∧ ¬ widest.Contradicts c ∧
    (c.override widest).1 = .ok () ∧ (c.override widest).2 = { c with repository :=
      { c.repository with url := some "t.p", refreshTime := 18446744073709551615 } } ∧
    ∃ f, (c.override tooWide).1 = .error f ∧ f.kind = .config := by
  have hread : (ofToml "[repository]\nurl = \"a\"").toOption =
      some { repository := { url := some "a" } } := by
    decide +kernel
  cases hc : ofToml "[repository]\nurl = \"a\"" with
  | error f =>
    rw [hc] at hread
    cases hread
  | ok c =>
    rw [hc] at hread
    cases hread
    obtain ⟨hsucceeds, hresult, -⟩ := override_outcome hc widest
    obtain ⟨-, -, hkind⟩ := override_outcome hc tooWide
    have hnumeral : Text.Numeral "+00018446744073709551615".toList 18446744073709551615 :=
      .plus (by decide) (List.all_eq_true.1 rfl)
    have hinterval : widest.Interval { repository := { url := some "a" } } 18446744073709551615 :=
      .given rfl ⟨[' '], _, ['\n'], List.all_eq_true.1 rfl, hnumeral, List.all_eq_true.1 rfl, rfl⟩
        (by decide)
    have hfree : ¬ widest.Contradicts { repository := { url := some "a" } } := nofun
    have hok := hsucceeds.2 ⟨⟨_, hinterval⟩, hfree⟩
    exact ⟨_, rfl, hinterval, hfree, hok, (hresult _ hok hinterval).1, _, rfl, hkind _ rfl⟩

end Config

end Admission

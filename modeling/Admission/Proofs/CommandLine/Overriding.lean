import Admission.Proofs.CommandLine.Commands
import Admission.Proofs.Config.Environment
import Admission.Proofs.Store.Equivalence

/-!
# Overriding the location — by an option and by the environment

  The location of the store in the configuration can be overridden in two ways. What the
  environment gives is put into the configuration before it is checked, what the option
  gives after that. So the two come to the same except where only the check stands in
  the way: a repository in memory that is given a location (`Invocation.Conflicts`). The
  environment makes such a run fail. With the option it goes on with a configuration
  that the check refuses, begins with nothing and leaves nothing behind, as if no
  location had been given (`run_located`).
-/

namespace Admission

/-! ### Faults that are shown -/

/-- A fault is shown with its kind. -/
theorem Fault.kind_of_shown {f g : Fault} (h : f.shown = g.shown) : f.kind = g.kind := by
  -- the name of the kind is what stands before the first bracket
  have hchars := congrArg (fun s : String => s.toList.takeWhile (· != '(')) h
  have hname (f : Fault) : f.shown.toList.takeWhile (· != '(') = f.kind.name.toList := by
    have hshown : f.shown.toList =
        f.kind.name.toList ++ '(' :: (Text.quoted f.text ++ ")").toList := by
      unfold shown
      simp [toString]
    rw [hshown]
    cases f.kind <;> rfl
  simp only [hname] at hchars
  revert hchars
  generalize f.kind = k
  generalize g.kind = l
  cases k <;> cases l <;> decide

/-! ### Configurations that are not refused -/

namespace Config

variable {c c' : Config}

theorem validate_loadConfig {fs : Files} {path : Option String}
    (h : CommandLine.loadConfig fs path = .ok c) : c.validate = .ok () := by
  cases path with
  | none =>
    cases h
    rfl
  | some path =>
    simp only [CommandLine.loadConfig, ofFile] at h
    split at h
    · cases h
    · exact validate_ofToml h

/-- The overrides with a location, or with none. -/
def Overrides.withUrl (o : Overrides) (url : Option String) : Overrides := { o with url }

/-- The configuration with what the environment overrides, if it is not refused. -/
def overridden (c : Config) (o : Overrides) : Except Fault Config :=
  (c.override o).1.map fun _ => (c.override o).2

theorem overridden_eq (c : Config) (o : Overrides) :
    c.overridden o = (o.interval c).bind fun n =>
      ((c.withUrl o.url).withRefresh n).validate.map fun _ => (c.withUrl o.url).withRefresh n := by
  unfold overridden
  rw [override_eq]
  cases o.interval c with
  | error f => rfl
  | ok n =>
    show _ = ((c.withUrl o.url).withRefresh n).validate.map fun _ => (c.withUrl o.url).withRefresh n
    rw [withUrl_withRefresh]

theorem validate_overridden {o : Overrides} (h : c.overridden o = .ok c') :
    c'.validate = .ok () := by
  rw [overridden_eq] at h
  obtain ⟨n, -, hn⟩ := bind_eq_ok.1 h
  obtain ⟨u, hv, rfl⟩ := map_eq_ok.1 hn
  exact hv

/-- Of a configuration that is not refused, the location may be overridden after the poll interval
if only the check comes last. -/
theorem overridden_withUrl (h : c.validate = .ok ()) (o : Overrides) (url : String) :
    c.overridden (o.withUrl (some url)) =
      (c.overridden (o.withUrl none)).bind fun c =>
        (c.withUrl (some url)).validate.map fun _ => c.withUrl (some url) := by
  rw [overridden_eq, overridden_eq]
  show (o.interval c).bind _ = ((o.interval c).bind _).bind _
  cases o.interval c with
  | error cause => rfl
  | ok n =>
    show _ = (((c.withRefresh n).validate.map fun _ => c.withRefresh n).bind _)
    -- the poll interval plays no part in the check
    rw [show (c.withRefresh n).validate = .ok () from h]
    rfl

end Config

namespace CommandLine

/-! ### The option among the arguments -/

/-- The invocation with a location for the store. -/
def Invocation.located (i : Invocation) (url : String) : Invocation :=
  { i with options := { i.options with url := some url } }

/-- The options with a location for the store. -/
def Options.located (o : Options) (url : String) : Options := { o with url := some url }

/-- The argument that gives a location for the store. -/
def urlArgument (url : String) : String := "--url=" ++ url

theorem Word.of_urlArgument (url : String) :
    Word.of (urlArgument url) = .option "url" (some url) := by
  have hchars : (urlArgument url).toList =
      '-' :: '-' :: 'u' :: 'r' :: 'l' :: '=' :: url.toList := by
    unfold urlArgument
    rw [String.toList_append]
    rfl
  unfold Word.of
  rw [hchars]
  show Word.option (String.ofList ['u', 'r', 'l']) (some (String.ofList url.toList)) = _
  rw [String.ofList_toList]

/-- Another option goes along with a location. -/
theorem Options.add?_located {o o' : Options} {name value : String}
    (h : o.add? name value = some o') (hu : o'.url = none) (url : String) :
    o.url = none ∧ (o.located url).add? name value = some (o'.located url) := by
  unfold Options.add? at h
  split at h
  · split at h
    · next hfree =>
      cases h
      exact ⟨hu, if_pos hfree⟩
    · cases h
  · split at h
    · cases h
      cases hu
    · cases h
  · split at h
    · next f hnone hf =>
      cases h
      refine ⟨hu, ?_⟩
      simp only [Options.add?, Options.located, hnone, hf]
    · cases h
  · cases h

/-- Arguments without a location say the same where one was given before them. -/
theorem read_located {i : Invocation} (hu : i.options.url = none) (url : String) (fuel : Nat)
    (args : List String) (o : Options) (h : Request.read fuel args o = .run i) :
    o.url = none ∧ Request.read fuel args (o.located url) = .run (i.located url) := by
  -- the induction is on the arguments that are left; a location among them would be in `i`
  induction fuel generalizing args o with
  | zero => cases h
  | succ fuel ih =>
    cases args with
    | nil => cases h
    | cons s rest =>
      unfold Request.read at h ⊢
      cases hs : Word.of s with
      | separator => simp [hs] at h
      | letters cs =>
        simp only [hs] at h
        split at h
        · cases h
        · cases h
      | plain name =>
        simp only [hs] at h ⊢
        cases ht : Tail.read name (rest.length + 1) rest {} with
        | none => simp [ht] at h
        | some t =>
          cases hc : t.command? name with
          | none => simp [ht, hc] at h
          | some command =>
            simp only [ht, hc, Option.bind_some, Option.map_some, Request.run.injEq] at h ⊢
            subst h
            obtain ⟨hafter, hbefore⟩ := Option.or_eq_none_iff.1 hu
            refine ⟨hbefore, ?_⟩
            simp [Invocation.located, Options.located, Options.over, hafter]
      | option name value =>
        simp only [hs] at h ⊢
        split at h
        · next heq => cases heq
        · next heq => cases heq
        · next heq => cases heq
        · cases h
        · next heq =>
          cases heq
          cases hval : optionValue value rest with
          | none => simp [hval] at h
          | some p =>
            obtain ⟨v, rest'⟩ := p
            cases ho : o.add? name v with
            | none => simp [hval, ho] at h
            | some o' =>
              simp only [hval, ho, Option.bind_some, Option.map_some] at h ⊢
              obtain ⟨hnone, hread⟩ := ih rest' o' h
              obtain ⟨hfree, hadd⟩ := Options.add?_located ho hnone url
              refine ⟨hfree, ?_⟩
              simp only [hadd, Option.map_some]
              exact hread

theorem ofArguments_urlArgument {args : List String} {i : Invocation}
    (hi : Request.ofArguments args = .run i) (hu : i.options.url = none) (url : String) :
    Request.ofArguments (urlArgument url :: args) = .run (i.located url) := by
  obtain ⟨-, hread⟩ := read_located hu url _ _ _ hi
  unfold Request.ofArguments Request.read
  rw [Word.of_urlArgument]
  exact hread

/-! ### The configuration of a run -/

variable {i : Invocation} {env : Config.Overrides} {web : Web} {fs : Files} {c : Config}

/-- A location is given to a run whose repository is in memory. -/
def Invocation.Conflicts (i : Invocation) (env : Config.Overrides) (fs : Files) (url : String) :
    Prop :=
  ∃ c, i.config (env.withUrl none) fs = .ok c ∧ c.repository.kind = .memory ∧
    Text.isBlankText url = false

theorem config_eq (hw : ∀ asked, i.command ≠ .watch asked) (env : Config.Overrides) (fs : Files) :
    i.config env fs = (loadConfig fs i.options.config).bind fun c =>
      (c.overridden env).map fun c => c.withUrl i.options.url := by
  unfold Invocation.config Config.overridden
  cases loadConfig fs i.options.config with
  | error cause => rfl
  | ok c =>
    simp only [bind, Except.bind]
    generalize c.override env = r
    obtain ⟨outcome, c'⟩ := r
    cases outcome with
    | error cause => rfl
    | ok u =>
      cases hcommand : i.command with
      | watch asked => exact absurd hcommand (hw asked)
      | _ => rfl

section

variable (hu : i.options.url = none) (hw : ∀ asked, i.command ≠ .watch asked)

include hu hw

/-- Without the option, a run has the configuration that the environment leaves. -/
theorem config_unlocated (env : Config.Overrides) (fs : Files) :
    i.config env fs = (loadConfig fs i.options.config).bind fun c => c.overridden env := by
  rw [config_eq hw, hu]
  cases loadConfig fs i.options.config with
  | error cause => rfl
  | ok c =>
    show (c.overridden env).map _ = c.overridden env
    cases c.overridden env with
    | error cause => rfl
    | ok c => rfl

theorem validate_config (h : i.config env fs = .ok c) : c.validate = .ok () := by
  rw [config_unlocated hu hw] at h
  obtain ⟨loaded, -, hloaded⟩ := bind_eq_ok.1 h
  exact Config.validate_overridden hloaded

/-- The option gives the location to a configuration that has been checked. -/
theorem config_located (env : Config.Overrides) (fs : Files) (url : String) :
    (i.located url).config env fs = (i.config env fs).map fun c => c.withUrl (some url) := by
  have hw' : ∀ asked, (i.located url).command ≠ .watch asked := hw
  rw [config_eq hw', config_unlocated hu hw]
  show (loadConfig fs i.options.config).bind _ = _
  cases loadConfig fs i.options.config with
  | error cause => rfl
  | ok loaded => rfl

/-- The environment gives the location to a configuration that is checked after that. -/
theorem config_withUrl (env : Config.Overrides) (fs : Files) (url : String) :
    i.config (env.withUrl (some url)) fs = (i.config (env.withUrl none) fs).bind fun c =>
      (c.withUrl (some url)).validate.map fun _ => c.withUrl (some url) := by
  rw [config_unlocated hu hw, config_unlocated hu hw]
  cases hload : loadConfig fs i.options.config with
  | error cause => rfl
  | ok loaded => exact Config.overridden_withUrl (Config.validate_loadConfig hload) env url

/-- In a conflict, the environment leaves no configuration, and the option one that is refused. -/
theorem Invocation.Conflicts.refused {url : String} (h : i.Conflicts env fs url) :
    i.config (env.withUrl (some url)) fs = .error .memoryWithLocation ∧
      ∃ c, i.config (env.withUrl none) fs = .ok c ∧ c.repository.kind = .memory ∧
        (i.located url).config (env.withUrl none) fs = .ok (c.withUrl (some url)) ∧
        (c.withUrl (some url)).validate = .error .memoryWithLocation := by
  obtain ⟨c, hc, hm, hb⟩ := h
  have hrefused : (c.withUrl (some url)).validate = .error .memoryWithLocation := by
    rw [Config.validate_withUrl (validate_config hu hw hc), hm, hb]
    rfl
  refine ⟨?_, c, hc, hm, ?_, hrefused⟩
  · rw [config_withUrl hu hw, hc]
    show (c.withUrl (some url)).validate.map _ = _
    rw [hrefused]
    rfl
  · rw [config_located hu hw, hc]
    rfl

/-- Without a conflict, both overrides lead to the same configuration. -/
theorem config_located_eq {url : String} (h : ¬ i.Conflicts env fs url) :
    (i.located url).config (env.withUrl none) fs = i.config (env.withUrl (some url)) fs := by
  rw [config_located hu hw, config_withUrl hu hw]
  cases hc : i.config (env.withUrl none) fs with
  | error cause => rfl
  | ok c =>
    have hfree : ¬ (decide (c.repository.kind = .memory) && !Text.isBlankText url) = true := by
      intro hboth
      rw [Bool.and_eq_true, decide_eq_true_iff, Bool.not_eq_true'] at hboth
      exact h ⟨c, hc, hboth.1, hboth.2⟩
    show _ = (c.withUrl (some url)).validate.map _
    rw [Config.validate_withUrl (validate_config hu hw hc), if_neg hfree]
    rfl

end

/-! ### Runs on a repository in memory -/

/-- What a command says of a store that holds nothing. -/
def Command.onNothing (whenUndefined : Bool) : Command → Except Fault String
  | check _ _ _ => .ok (line (toString whenUndefined))
  | get key => .error (.noToken key)
  | keys json => .ok (if json then line "\x7b\x7d" else "")
  | set severity key value => (checkEntry key (Token.render severity value)).map fun _ => ""
  | remove _ | watch _ => .ok ""

/-- The selector of a run on a repository in memory, open. -/
def wiredToNothing (c : Config) (id : ListenerId) : Selector String :=
  Selector.wired { whenUndefined := c.defaultWhenUndefined, repository := some repositoryName } id
    KeyMap.empty

/-- A change of an empty store in memory is refused or it is carried out, and no file changes. -/
theorem carryOut_memory {d : Deployment} {id : ListenerId}
    (hs : d.selectors.get? selectorName = some (wiredToNothing c id))
    (hb : d.stores.backing? repositoryName = some (.memory (.opened {}))) (change : Change) :
    (carryOut d (.changeThrough selectorName change)).1 = change.check.map (fun _ => "") ∧
      (carryOut d (.changeThrough selectorName change)).2.stores.files = d.stores.files := by
  obtain ⟨hsaid, hfiles⟩ := carryOut_eq hs rfl hb rfl change
  rw [hsaid, hfiles]
  refine ⟨?_, rfl⟩
  show ((MemoryStore.opened {}).change repositoryName change).1.map (fun _ => "") = _
  rw [MemoryStore.change_of_open rfl]
  cases change.check with
  | error cause => rfl
  | ok u =>
    cases change.onEntries repositoryName (MemoryStore.opened {}).entries with
    | none => rfl
    | some p => rfl

/-- A command on an empty store in memory changes no file. -/
theorem Command.execute_memory {d : Deployment} {id : ListenerId}
    (hs : d.selectors.get? selectorName = some (wiredToNothing c id))
    (hb : d.stores.backing? repositoryName = some (.memory (.opened {}))) (command : Command) :
    (command.execute d).1 = command.onNothing c.defaultWhenUndefined ∧
      (command.execute d).2.stores.files = d.stores.files := by
  have hself : selectorOf d = wiredToNothing c id := selectorOf_eq hs
  cases command with
  | check severity key value =>
    refine ⟨?_, rfl⟩
    show Except.ok (line (toString ((selectorOf d).evaluate severity key value))) = _
    rw [hself]
    rfl
  | get key =>
    have hget : (selectorOf d).get? key = none := by
      rw [hself]
      rfl
    simp only [Command.execute, hget]
    exact ⟨rfl, trivial⟩
  | keys json =>
    refine ⟨?_, rfl⟩
    show Except.ok (if json then line (tokensJson (selectorOf d)) else
      String.join ((selectorOf d).keys.map line)) = _
    rw [hself]
    cases json with
    | true => rfl
    | false => rfl
  | set severity key value => exact carryOut_memory hs hb (.set key (Token.render severity value))
  | remove key => exact carryOut_memory hs hb (.remove key)
  | watch refreshTime =>
    rw [Command.execute_watch hb rfl]
    exact ⟨rfl, rfl⟩

/-- A run on a repository in memory begins with nothing and leaves nothing behind. -/
theorem execute_memory (hc : i.config env fs = .ok c) (hm : c.repository.kind = .memory) :
    i.execute env web fs = (i.command.onNothing c.defaultWhenUndefined, fs) := by
  have hb : (deployment c web fs).stores.backing? repositoryName = some (.memory {}) := by
    rw [backing?_deployment, Config.backing, hm]
  obtain ⟨d, id, hopen, hs, hb', hfiles⟩ := Deployment.openSelector_wired
    (get?_deployment c web fs) rfl
    rfl hb rfl rfl rfl
  obtain ⟨hsaid, hleft⟩ := i.command.execute_memory (c := c) hs hb'
  rw [execute_eq hc hopen, hsaid, hleft, hfiles]
  rfl

/-! ### Outcomes -/

/-- A fault can be told from success, and from a fault of another kind. -/
theorem Outcome.of_eq_error {said : Except Fault String} {cause : Fault}
    (h : Outcome.of said = .of (.error cause)) :
    ∃ found, said = .error found ∧ found.kind = cause.kind := by
  cases said with
  | ok s => cases congrArg Outcome.exit h
  | error found =>
    have herr := congrArg Outcome.stderr h
    refine ⟨found, rfl, Fault.kind_of_shown ?_⟩
    change line s!"Error: {found.shown}" = line s!"Error: {cause.shown}" at herr
    simpa [line, ← String.toList_inj, toString] using herr

/-- Whatever a command says of nothing, it is not that a location is refused. -/
theorem Command.onNothing_ne (command : Command) (whenUndefined : Bool) :
    Outcome.of (command.onNothing whenUndefined) ≠ .of (.error .memoryWithLocation) := by
  intro h
  obtain ⟨cause, hsaid, hkind⟩ := Outcome.of_eq_error h
  cases command with
  | get key =>
    cases hsaid
    cases hkind
  | set severity key value =>
    -- an entry that is refused is a fault of the repository
    change (checkEntry key (Token.render severity value)).map _ = _ at hsaid
    unfold checkEntry at hsaid
    split at hsaid
    · cases hsaid
      cases hkind
    · split at hsaid
      · cases hsaid
        cases hkind
      · cases hsaid
  | _ => cases hsaid

/-! ### The two overrides -/

/-- A run says what its command says under its configuration. -/
theorem execute_congr {j : Invocation} {env' : Config.Overrides} (hcommand : i.command = j.command)
    (hconfig : i.config env fs = j.config env' fs) :
    i.execute env web fs = j.execute env' web fs := by
  unfold Invocation.execute
  rw [hcommand, hconfig]

/-- A run on a repository in memory does not tell whether a location was given by the option. -/
theorem execute_located_memory {url : String} (hu : i.options.url = none)
    (hw : ∀ asked, i.command ≠ .watch asked) (hc : i.config env fs = .ok c)
    (hm : c.repository.kind = .memory) :
    (i.located url).execute env web fs = i.execute env web fs := by
  have hlocated : (i.located url).config env fs = .ok (c.withUrl (some url)) := by
    rw [config_located hu hw, hc]
    rfl
  rw [execute_memory hc hm, execute_memory hlocated hm]
  rfl

/-- The option and the environment give a location to a run with the same outcome exactly if it
does not conflict with the configuration. If it does, the option is ignored and the
configuration is one that is refused. -/
theorem run_located {args : List String} (hi : Request.ofArguments args = .run i)
    (hu : i.options.url = none) (hw : ∀ asked, i.command ≠ .watch asked) (env : Config.Overrides)
    (web : Web) (fs : Files) (url : String) :
    Request.ofArguments (urlArgument url :: args) = .run (i.located url) ∧
    (∀ c, i.config (env.withUrl (some url)) fs = .ok c → c.validate = .ok ()) ∧
    (∀ c, (i.located url).config (env.withUrl none) fs = .ok c →
      (c.validate = .ok () ↔ ¬ i.Conflicts env fs url)) ∧
    ∀ flagged, Request.ofArguments flagged = .run (i.located url) →
      (run flagged (env.withUrl none) web fs = run args (env.withUrl (some url)) web fs ↔
        ¬ i.Conflicts env fs url) ∧
      (i.Conflicts env fs url →
        run flagged (env.withUrl none) web fs = run args (env.withUrl none) web fs ∧
        (run flagged (env.withUrl none) web fs).2 = fs ∧
        run args (env.withUrl (some url)) web fs = (.of (.error .memoryWithLocation), fs)) := by
  refine ⟨ofArguments_urlArgument hi hu url, fun c => validate_config hu hw, ?_, ?_⟩
  · intro c hc
    by_cases h : i.Conflicts env fs url
    · obtain ⟨-, c', -, -, hlocated, hrefused⟩ := h.refused hu hw
      rw [hlocated] at hc
      cases hc
      rw [hrefused]
      refine ⟨fun hv => ?_, fun hn => absurd h hn⟩
      cases hv
    · rw [config_located_eq hu hw h] at hc
      exact ⟨fun _ => h, fun _ => validate_config hu hw hc⟩
  · intro flagged hflagged
    rw [run_eq hflagged, run_eq hi, run_eq hi]
    by_cases h : i.Conflicts env fs url
    · -- with the option the run goes on, and what it says of nothing is no such fault
      obtain ⟨hfails, c, hc, hm, -, -⟩ := h.refused hu hw
      have hfault : i.execute (env.withUrl (some url)) web fs =
          (.error .memoryWithLocation, fs) := by
        unfold Invocation.execute
        rw [hfails]
      have hsaid : i.execute (env.withUrl none) web fs = _ := execute_memory hc hm
      rw [execute_located_memory hu hw hc hm, hfault, hsaid]
      refine ⟨⟨fun he => ?_, fun hn => absurd h hn⟩, fun _ => ⟨rfl, rfl, rfl⟩⟩
      exact absurd (congrArg Prod.fst he) (i.command.onNothing_ne c.defaultWhenUndefined)
    · have hsame : (i.located url).execute (env.withUrl none) web fs =
          i.execute (env.withUrl (some url)) web fs :=
        execute_congr rfl (config_located_eq hu hw h)
      rw [hsame]
      exact ⟨⟨fun _ => h, fun _ => rfl⟩, fun hn => absurd hn h⟩

/-- A working directory with a configuration of a repository in memory. -/
def memoryAtHand : Files := ({} : Files).put ["c.toml"] (.text "[repository]\nkind = \"memory\"\n")

/-- What sets a key under that configuration. -/
def settingInMemory : Invocation := ⟨⟨some "c.toml", none, none⟩, .set .error "k" none⟩

/-- A key that is set with a location is not set anywhere, and nobody is told. -/
theorem run_located_ignored :
    run [urlArgument "t.p", "--config", "c.toml", "set", "ERROR", "k"] {} .down memoryAtHand =
        ({ exit := 0 }, memoryAtHand) ∧
      run ["--config", "c.toml", "set", "ERROR", "k"] { url := some "t.p" } .down memoryAtHand =
        (.of (.error .memoryWithLocation), memoryAtHand) := by
  have hi : Request.ofArguments ["--config", "c.toml", "set", "ERROR", "k"] =
      .run settingInMemory := by
    decide +kernel
  obtain ⟨hflagged, -, -, hruns⟩ := run_located hi rfl nofun {} .down memoryAtHand "t.p"
  have hconflicts : settingInMemory.Conflicts {} memoryAtHand "t.p" := by
    have hconfig : (settingInMemory.config {} memoryAtHand).toOption =
        some { repository := { kind := .memory } } := by
      decide +kernel
    cases hc : settingInMemory.config {} memoryAtHand with
    | error cause =>
      rw [hc] at hconfig
      cases hconfig
    | ok c =>
      rw [hc] at hconfig
      cases hconfig
      exact ⟨_, hc, rfl, by decide +kernel⟩
  obtain ⟨-, hstays, hfails⟩ := (hruns _ hflagged).2 hconflicts
  have hdone : (run [urlArgument "t.p", "--config", "c.toml", "set", "ERROR", "k"] {} .down
      memoryAtHand).1 = { exit := 0 } := by
    decide +kernel
  exact ⟨Prod.ext hdone hstays, hfails⟩

end CommandLine

end Admission

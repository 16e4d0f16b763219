import Admission.CommandLine.Run
import Admission.Proofs.Deployment.Memory
import Admission.Proofs.Files.Rewriting
import Admission.Proofs.Store.Session
import Admission.Proofs.Token.Spelling

/-!
# Commands — what a run comes to on a store at a path

  A run goes a long way: the configuration names a location, the location resolves to a
  path, the file there is read, its text is parsed, the values are compiled to tokens,
  and only then the command is carried out, which may go all the way back. What it comes
  to can be said of the text alone (`Command.Meets`): which decision, which keys or which
  token is told, or which text is in the file afterwards.

  `run_meets` says that every command line whose configuration names a readable file
  comes to that, whatever the text in the file and whatever the arguments.
-/

namespace Admission

/-! ### Files that stay as they are -/

/-- Closing a selector changes no file. -/
theorem Stores.files_closeOn (n : String) (s : Selector String) (w : Stores) :
    (s.closeOn (Stores.host n) w).2.files = w.files := by
  unfold Selector.closeOn
  split
  · rfl
  · cases s.repository with
    | none => rfl
    | some r =>
      cases s.listener with
      | none => exact files_closeStore w r
      | some id => exact (files_closeStore _ r).trans (files_modify w r _)

namespace Deployment

theorem files_closeSelector (d : Deployment) (n : String) :
    (d.perform (.closeSelector n)).2.stores.files = d.stores.files := by
  simp only [perform]
  cases hs : d.selectors.get? n with
  | none => rw [call_none hs]
  | some s =>
    rw [call_some hs]
    exact Stores.files_closeOn n s d.stores

/-- Opening a closed selector wires it to its repository, if that can be opened and read. -/
theorem openSelector_wired {d : Deployment} {n r : String} {s : Selector String} {b b' : Backing}
    {entries : Entries} (hs : d.selectors.get? n = some s) (ho : s.isOpen = false)
    (hr : s.repository = some r) (hb : d.stores.backing? r = some b) (hdef : b.isDefined = true)
    (hopen : b.openStore d.stores.web d.stores.files = (.ok (), b'))
    (hread : b'.snapshot = .ok entries) :
    ∃ d' id, d.perform (.openSelector n) = (.done, d') ∧
      d'.selectors.get? n = some (s.wired id entries) ∧ d'.stores.backing? r = some b' ∧
      d'.stores.files = d.stores.files := by
  have hstore : d.stores.openStore r = (.ok (), d.stores.putBacking r b') := by
    unfold Stores.openStore
    simp only [hb, hopen]
  have hplaced : (d.stores.putBacking r b').backing? r = some b' := by
    rw [Stores.backing?_putBacking, if_pos rfl, hb]
    rfl
  have husable : s.usable? d.stores = some r := Selector.usable?_eq_some.2 ⟨hr, b, hb, hdef⟩
  simp only [perform]
  rw [call_some hs]
  -- of what opening can come to only wiring is left: the store can be opened and read
  rcases Selector.openOn_cases ho n d.stores with ⟨hu, -⟩ | ⟨q, hu, hq⟩
  · rw [husable] at hu
    cases hu
  · rw [husable] at hu
    cases hu
    rw [hstore] at hq
    rcases hq with ⟨cause, hfail, -⟩ | ⟨cause, -, hfail, -⟩ | ⟨found, -, hfound, he⟩
    · cases hfail
    · rw [Stores.snapshot_eq hplaced, hread] at hfail
      cases hfail
    · rw [Stores.snapshot_eq hplaced, hread] at hfound
      cases hfound
      rw [he]
      refine ⟨_, (d.stores.putBacking r b').nextListener r, rfl, ?_, ?_, ?_⟩
      · rw [get?_rewired, if_pos rfl]
      · rw [stores_rewired, Stores.backing?_subscribed]
        exact hplaced
      · exact (Stores.files_modify _ r _).trans (Stores.files_modify _ r _)

/-- A change of a repository fails or succeeds with its store, and leaves the files as the store
leaves them. -/
theorem change_eq {d : Deployment} {name : String} {b : Backing}
    (hb : d.stores.backing? name = some b) (c : Change) :
    (d.change name c).1 =
        (match (b.change name c d.stores.files).1 with
        | .error cause => .failed cause
        | .ok _ => .done) ∧
      (d.change name c).2.stores.files = (b.change name c d.stores.files).2.1 := by
  unfold change
  simp only [hb]
  cases (b.change name c d.stores.files).1 with
  | error cause => exact ⟨rfl, Stores.files_modify _ name _⟩
  | ok event =>
    refine ⟨rfl, ?_⟩
    show (Deployment.deliverAny name event _).stores.files = _
    rw [stores_deliverAny]
    exact Stores.files_modify _ name _

end Deployment

/-- A text that names a location is not blank. -/
theorem Location.not_blank_of_resolve {text : String} {bundle : Bundle} {l : Location}
    (h : Location.resolve text bundle = .ok l) : Text.isBlankText text = false := by
  cases hb : Text.isBlankText text with
  | false => rfl
  | true =>
    have hempty : Text.trimBoth text.toList = [] := by
      refine (Text.trimRight_eq_nil_iff _).2 (List.all_eq_true.2 ?_)
      intro c hc
      exact List.all_eq_true.1 hb c (Text.mem_of_mem_trimLeft hc)
    unfold resolve at h
    rw [hempty] at h
    cases h

namespace CommandLine

/-! ### Steps of a run -/

section

variable {arguments : List String} {i : Invocation} {env : Config.Overrides} {web : Web}
  {fs : Files} {d : Deployment}

theorem run_eq (hi : Request.ofArguments arguments = .run i) (env : Config.Overrides) (web : Web)
    (fs : Files) : run arguments env web fs =
      (.of (i.execute env web fs).1, (i.execute env web fs).2) := by
  unfold run
  simp only [hi]

/-- A run whose selector opens says what its command says, and leaves the files as that does. -/
theorem execute_eq {c : Config} (hconfig : i.config env fs = .ok c)
    (hopen : (deployment c web fs).perform (.openSelector selectorName) = (.done, d)) :
    i.execute env web fs = ((i.command.execute d).1, (i.command.execute d).2.stores.files) := by
  unfold Invocation.execute
  simp only [hconfig, hopen, Deployment.files_closeSelector]

theorem selectorOf_eq {s : Selector String} (hs : d.selectors.get? selectorName = some s) :
    selectorOf d = s := by
  unfold selectorOf
  rw [hs]
  rfl

theorem Command.execute_watch {b : Backing} (hb : d.stores.backing? repositoryName = some b)
    (hdef : b.isDefined = true) (refreshTime : Option Nat) :
    (watch refreshTime).execute d = (.ok "", d) := by
  have hwatch : (d.stores.backing? repositoryName).any Backing.isDefined = true := by
    rw [hb]
    exact hdef
  exact if_pos hwatch

end

/-! ### What a command is to come to -/

/-- The value of a key in a text, if it spells a token. -/
def accepted? (text key : String) : Option String :=
  ((Document.parse text).entries.get? key).filter fun value => (Token.parse? value).isSome

/-- The file at a path has been replaced by one with a text, and nothing else has changed. -/
def Rewritten (fs : Files) (path text : String) (after : Files) : Prop :=
  fs.replace path (.text text) = .ok after ∧ after.readText path = .ok text

/-- What is printed of some keys with their values. -/
def listing (json : Bool) (keys : List String) (value : String → String) : String :=
  if json then
    line ("\x7b" ++ ",".intercalate
      (keys.map fun key => Text.jsonString key ++ ":" ++ Text.jsonString (value key)) ++ "\x7d")
  else String.join (keys.map line)

/-- What a command is to say, and how it is to leave the files, where the store is a file with
a text. -/
def Command.Meets (path text : String) (whenUndefined : Bool) (fs : Files)
    (said : Except Fault String) (after : Files) : Command → Prop
  | check severity key value =>
    after = fs ∧ said = .ok (line (toString
      (Deployment.verdict (Document.parse text).entries whenUndefined severity key value)))
  | get key =>
    after = fs ∧
      match accepted? text key with
      | some value => said = .ok (line (Text.trim value))
      | none => said = .error (.noToken key) ∧ (Fault.noToken key).kind = .repository
  | keys json =>
    after = fs ∧ ∃ ks : List String, ks.Pairwise (· < ·) ∧
      (∀ key, key ∈ ks ↔ (accepted? text key).isSome = true) ∧
      said = .ok (listing json ks fun key => Text.trim ((accepted? text key).getD ""))
  | set severity key value =>
    match checkEntry key (Token.render severity value) with
    | .ok () => said = .ok "" ∧
        Rewritten fs path ((Document.parse text).set key (Token.render severity value)).render after
    | .error cause => said = .error cause ∧ after = fs
  | remove key =>
    said = .ok "" ∧
      if (Document.parse text).entries.contains key then
        Rewritten fs path ((Document.parse text).remove key).render after
      else after = fs
  | watch _ => said = .ok "" ∧ after = fs

/-! ### The selector of a run -/

/-- The selector of a run and its store, both open, where the store is a file with a text. -/
structure Opened (path text : String) (whenUndefined : Bool) (fs : Files) (d : Deployment)
    (s : Selector String) (store : FileStore) (o : OpenFile) : Prop where
  /-- The files are as they were. -/
  files : d.stores.files = fs
  /-- The selector. -/
  selector : d.selectors.get? selectorName = some s
  /-- The selector uses the store. -/
  repository : s.repository = some repositoryName
  /-- The selector decides by its table. -/
  wired : s.isWired = true
  /-- The default is the configured one. -/
  default : s.whenUndefined = whenUndefined
  /-- The table holds the tokens of the text. -/
  tokens : s.table.tokens = TokenMap.compile (Document.parse text).entries
  /-- The store. -/
  backing : d.stores.backing? repositoryName = some (.file store)
  /-- The store has a location. -/
  defined : store.isDefined = true
  /-- The store is open. -/
  opened : store.opened = some o
  /-- The store is at the path. -/
  location : o.location = .path path
  /-- The store knows the text. -/
  document : o.document = Document.parse text
  /-- There is a file at the path. -/
  found : ∃ f, fs.find path = .ok (.file f)

variable {path text : String} {web : Web} {fs : Files} {c : Config}

/-- The configuration of a store at a path gives a location that resolves to the path. -/
theorem storePath?_eq_some (h : storePath? c = some path) :
    ∃ url, c.repository.kind = .file ∧ c.repository.url = some url ∧
      Location.resolve url {} = .ok (.path path) := by
  unfold storePath? at h
  split at h
  · next url hkind hurl =>
    split at h
    · next p hresolve =>
      cases h
      exact ⟨url, hkind, hurl, hresolve⟩
    · cases h
  · cases h

/-- The store of a configuration, where it is a file that can be read: closed, and open. -/
theorem backing_eq (web : Web) (hc : storePath? c = some path) (ht : fs.readText path = .ok text) :
    ∃ closed store : FileStore, ∃ o, c.backing {} = .file closed ∧ closed.isDefined = true ∧
      closed.openStore web fs = (.ok (), store) ∧ store.isDefined = true ∧ store.opened = some o ∧
      o.location = .path path ∧ o.document = Document.parse text ∧
      o.entries = (Document.parse text).entries := by
  obtain ⟨url, hkind, hurl, hresolve⟩ := storePath?_eq_some hc
  obtain ⟨f, hf, hcontent⟩ := Files.readText_eq_ok.1 ht
  let settings : FileSettings := {
    url := some url
    refresh := c.repository.refreshTime
    closeTimeout := c.repository.closeTimeout }
  have hlocation : settings.location? = some url := by
    simp [settings, FileSettings.location?, Location.not_blank_of_resolve hresolve]
  have hdefined : settings.location?.isSome = true := by
    rw [hlocation]
    rfl
  have hload : FileStore.load web fs settings =
      .ok (.ofReading (.path path) (.ofFile text f)) :=
    FileStore.load_path web hlocation hresolve
      (Location.read_path_eq_ok.2 ⟨f, text, hf, hcontent, rfl⟩)
  have hopen : ∃ tasks, FileStore.openStore web fs { settings } =
      (.ok (), { settings, opened := some (.ofReading (.path path) (.ofFile text f)), tasks }) := by
    unfold FileStore.openStore
    simp only [hload]
    exact ⟨_, rfl⟩
  obtain ⟨tasks, hopen⟩ := hopen
  refine ⟨{ settings }, _, _, ?_, hdefined, hopen, hdefined, rfl, rfl, rfl, rfl⟩
  unfold Config.backing
  simp only [hkind, hurl]
  show Backing.file { settings := { settings with url := settings.location? } } = _
  rw [hlocation]

theorem get?_deployment (c : Config) (web : Web) (fs : Files) :
    (deployment c web fs).selectors.get? selectorName =
      some { whenUndefined := c.defaultWhenUndefined, repository := some repositoryName } := by
  refine (Deployment.get?_addSelector _ _ _ _ _).trans ?_
  rw [if_pos rfl]

theorem backing?_deployment (c : Config) (web : Web) (fs : Files) :
    (deployment c web fs).stores.backing? repositoryName = some (c.backing {}) := by
  unfold Stores.backing?
  show (((KeyMap.empty : KeyMap Repository).insert repositoryName
    (.recorded (c.backing {}))).get? repositoryName).map Repository.backing = _
  rw [KeyMap.get?_insert, if_pos rfl]
  rfl

/-- A run whose store is a readable file opens its selector. -/
theorem openSelector_opened (web : Web) (hc : storePath? c = some path)
    (ht : fs.readText path = .ok text) :
    ∃ d s store o, (deployment c web fs).perform (.openSelector selectorName) = (.done, d) ∧
      Opened path text c.defaultWhenUndefined fs d s store o := by
  obtain ⟨closed, store, o, hclosed, hdefined, hopen, hdefined', hopened, hlocation, hdocument,
    hentries⟩ := backing_eq web hc ht
  obtain ⟨f, hf, -⟩ := Files.readText_eq_ok.1 ht
  have hb := backing?_deployment c web fs
  rw [hclosed] at hb
  have hopenStore : (Backing.file closed).openStore (deployment c web fs).stores.web
      (deployment c web fs).stores.files =
      (.ok (), .file store) := by
    show ((closed.openStore web fs).1, Backing.file (closed.openStore web fs).2) = _
    rw [hopen]
  obtain ⟨d, id, hd, hs', hb', hfiles⟩ := Deployment.openSelector_wired
    (get?_deployment c web fs) rfl
    rfl hb hdefined hopenStore (Backing.snapshot_file hopened)
  refine ⟨d, _, store, o, hd, ⟨hfiles, hs', rfl, rfl, rfl, ?_, hb', hdefined', hopened, hlocation,
    hdocument, f, Files.findFile_eq_ok.1 hf⟩⟩
  show TokenMap.compile o.entries = _
  rw [hentries]

/-! ### What is asked -/

variable {whenUndefined : Bool} {d : Deployment} {s : Selector String} {store : FileStore}
  {o : OpenFile}

theorem Opened.get?_table (h : Opened path text whenUndefined fs d s store o) (key : String) :
    s.table.get? key = ((Document.parse text).entries.get? key).bind Token.parse? := by
  show s.table.tokens.get? key = _
  rw [h.tokens, TokenMap.get?_compile]

theorem Opened.evaluate_eq (h : Opened path text whenUndefined fs d s store o)
    (severity : Severity) (key : String) (value : Option String) :
    s.evaluate severity key value =
      Deployment.verdict (Document.parse text).entries whenUndefined severity key value := by
  rw [← h.default]
  exact Deployment.evaluate_wired h.wired h.get?_table severity key value

/-- A selector gives out the values that spell tokens, trimmed. -/
theorem Opened.get?_eq (h : Opened path text whenUndefined fs d s store o) (key : String) :
    s.get? key = (accepted? text key).map Text.trim := by
  unfold Selector.get? accepted?
  rw [h.get?_table]
  cases (Document.parse text).entries.get? key with
  | none => rfl
  | some value =>
    rw [Option.bind_some, Option.filter_some]
    cases hp : Token.parse? value with
    | none => rfl
    | some token =>
      show some token.raw = some (Text.trim value)
      rw [Token.raw_of_parse? hp]

theorem Opened.mem_keys (h : Opened path text whenUndefined fs d s store o) (key : String) :
    key ∈ s.keys ↔ (accepted? text key).isSome = true := by
  have hget := congrArg Option.isSome (h.get?_eq key)
  unfold Selector.get? at hget
  rw [Option.isSome_map, Option.isSome_map] at hget
  rw [← hget]
  exact KeyMap.mem_keys_iff s.table.tokens key

/-- The tokens in one document are the keys with what is given out for them. -/
theorem Opened.tokensJson_eq (h : Opened path text whenUndefined fs d s store o) :
    line (tokensJson s) =
      listing true s.keys fun key => Text.trim ((accepted? text key).getD "") := by
  have hmembers : (s.table.tokens.entries.map fun e =>
      Text.jsonString e.1 ++ ":" ++ Text.jsonString e.2.raw) =
      s.keys.map fun key => Text.jsonString key ++ ":" ++
        Text.jsonString (Text.trim ((accepted? text key).getD "")) := by
    show _ = (s.table.tokens.entries.map (·.1)).map _
    rw [List.map_map]
    refine List.map_congr_left ?_
    rintro ⟨key, token⟩ hmem
    have hget := h.get?_eq key
    have htoken : s.table.get? key = some token := s.table.tokens.get?_of_mem hmem
    unfold Selector.get? at hget
    rw [htoken, Option.map_some, eq_comm, Option.map_eq_some_iff] at hget
    obtain ⟨value, hvalue, hraw⟩ := hget
    show Text.jsonString key ++ ":" ++ Text.jsonString token.raw =
      Text.jsonString key ++ ":" ++ Text.jsonString (Text.trim ((accepted? text key).getD ""))
    rw [hvalue, ← hraw]
    rfl
  unfold tokensJson listing
  rw [if_pos rfl, hmembers]

/-! ### What is changed -/

/-- A selector passes a change on to its store. -/
theorem carryOut_eq {b : Backing} (hs : d.selectors.get? selectorName = some s)
    (hr : s.repository = some repositoryName) (hb : d.stores.backing? repositoryName = some b)
    (hdef : b.isDefined = true) (c : Change) :
    (carryOut d (.changeThrough selectorName c)).1 =
        (b.change repositoryName c d.stores.files).1.map (fun _ => "") ∧
      (carryOut d (.changeThrough selectorName c)).2.stores.files =
        (b.change repositoryName c d.stores.files).2.1 := by
  have husable : s.usable? d.stores = some repositoryName :=
    Selector.usable?_eq_some.2 ⟨hr, b, hb, hdef⟩
  have hperform : d.perform (.changeThrough selectorName c) = d.change repositoryName c := by
    show d.changeThrough selectorName c = _
    unfold Deployment.changeThrough
    simp only [hs, Selector.definedRepository_eq, husable]
  obtain ⟨hreply, hfiles⟩ := Deployment.change_eq hb c
  unfold carryOut
  rw [hperform]
  generalize d.change repositoryName c = r at hreply hfiles
  obtain ⟨reply, d'⟩ := r
  change reply = _ at hreply
  rw [hreply]
  cases (b.change repositoryName c d.stores.files).1 with
  | error cause => exact ⟨rfl, hfiles⟩
  | ok event => exact ⟨rfl, hfiles⟩

theorem Opened.carryOut_eq (h : Opened path text whenUndefined fs d s store o) (c : Change) :
    (carryOut d (.changeThrough selectorName c)).1 =
        (store.change repositoryName c fs).1.map (fun _ => "") ∧
      (carryOut d (.changeThrough selectorName c)).2.stores.files =
        (store.change repositoryName c fs).2.1 := by
  have hcarried := CommandLine.carryOut_eq h.selector h.repository h.backing h.defined c
  rw [h.files] at hcarried
  exact hcarried

/-- What a change comes to, which an open store at the path of a file can always write. -/
theorem Opened.change_cases (h : Opened path text whenUndefined fs d s store o) (c : Change) :
    match c.check with
    | .error cause => store.change repositoryName c fs = (.error cause, fs, store)
    | .ok () =>
      match c.onDocument repositoryName (Document.parse text) with
      | none => store.change repositoryName c fs = (.ok none, fs, store)
      | some (event, document) => (store.change repositoryName c fs).1 = .ok (some event) ∧
          Rewritten fs path document.render (store.change repositoryName c fs).2.1 := by
  obtain ⟨f, hf⟩ := h.found
  unfold FileStore.change
  cases hc : c.check with
  | error cause => rfl
  | ok u =>
    simp only [h.opened, h.location, h.document]
    cases hd : c.onDocument repositoryName (Document.parse text) with
    | none => rfl
    | some p =>
      obtain ⟨event, document⟩ := p
      obtain ⟨after, hreplace, hwrite⟩ := FileStore.write_of_find hf document.render
      simp only [hwrite]
      have hafter := Files.readText_eq_ok.2 ⟨_, FileStore.write_eq_ok hwrite, rfl⟩
      exact ⟨trivial, hreplace, hafter⟩

/-- Every command comes to what it is to come to. -/
theorem Opened.meets (h : Opened path text whenUndefined fs d s store o) (command : Command) :
    command.Meets path text whenUndefined fs (command.execute d).1
      (command.execute d).2.stores.files := by
  have hself : selectorOf d = s := selectorOf_eq h.selector
  cases command with
  | check severity key value =>
    -- the selector answers from the text that was read, and nothing is written
    refine ⟨h.files, ?_⟩
    show Except.ok (line (toString ((selectorOf d).evaluate severity key value))) = _
    rw [hself, h.evaluate_eq]
  | get key =>
    have hget := h.get?_eq key
    simp only [Command.Meets, Command.execute, hself]
    cases ha : accepted? text key with
    | none =>
      rw [ha, Option.map_none] at hget
      rw [hget]
      exact ⟨h.files, rfl, rfl⟩
    | some value =>
      rw [ha, Option.map_some] at hget
      rw [hget]
      exact ⟨h.files, rfl⟩
  | keys json =>
    refine ⟨h.files, s.keys, KeyMap.keys_ascending _, h.mem_keys, ?_⟩
    show Except.ok (if json then line (tokensJson (selectorOf d)) else
      String.join ((selectorOf d).keys.map line)) = _
    rw [hself, h.tokensJson_eq]
    cases json with
    | true => rfl
    | false => rfl
  | set severity key value =>
    obtain ⟨hsaid, hfiles⟩ := h.carryOut_eq (.set key (Token.render severity value))
    have hchange := h.change_cases (.set key (Token.render severity value))
    simp only [Command.Meets, Command.execute]
    rw [hsaid, hfiles]
    simp only [Change.check, Change.onDocument_set] at hchange
    -- a pair that no line can hold is refused before anything is written
    cases hc : checkEntry key (Token.render severity value) with
    | error cause =>
      simp only [hc] at hchange
      rw [hchange]
      exact ⟨rfl, rfl⟩
    | ok u =>
      simp only [hc] at hchange
      obtain ⟨hout, hwritten⟩ := hchange
      rw [hout]
      exact ⟨rfl, hwritten⟩
  | remove key =>
    obtain ⟨hsaid, hfiles⟩ := h.carryOut_eq (.remove key)
    have hchange := h.change_cases (.remove key)
    simp only [Command.Meets, Command.execute]
    rw [hsaid, hfiles, KeyMap.contains, Document.get?_entries]
    simp only [Change.check, Change.onDocument_remove] at hchange
    -- a key that is not there leaves the text and the file as they are
    cases hp : ((Document.parse text).get? key).isSome with
    | true =>
      simp only [hp, if_true] at hchange ⊢
      obtain ⟨hout, hwritten⟩ := hchange
      rw [hout]
      exact ⟨rfl, hwritten⟩
    | false =>
      simp only [hp, Bool.false_eq_true, if_false] at hchange ⊢
      rw [hchange]
      exact ⟨rfl, rfl⟩
  | watch refreshTime =>
    rw [Command.execute_watch h.backing h.defined]
    exact ⟨rfl, h.files⟩

/-! ### Whole runs -/

/-- A command line whose configuration names a readable file comes to what its command is to
come to, whatever the file holds. -/
theorem run_meets {arguments : List String} {i : Invocation} {env : Config.Overrides}
    (hi : Request.ofArguments arguments = .run i) (hconfig : i.config env fs = .ok c)
    (hc : storePath? c = some path) (ht : fs.readText path = .ok text) (web : Web) :
    ∃ said, (run arguments env web fs).1 = .of said ∧
      i.command.Meets path text c.defaultWhenUndefined fs said (run arguments env web fs).2 := by
  obtain ⟨d, s, store, o, hopen, h⟩ := openSelector_opened web hc ht
  have hmeets := h.meets i.command
  rw [run_eq hi, execute_eq hconfig hopen]
  exact ⟨_, rfl, hmeets⟩

/-- A working directory with a store in which a line is a comment. -/
def levelsAtHand : Files := ({} : Files).put ["t.p"] (.text "# levels\nk=INFO\n")

/-- A key that is set on the command line is set in its line, and the comment stays. -/
theorem run_meets_set :
    ∃ after, run ["--url", "t.p", "set", "WARNING", "k", "a"] {} .down levelsAtHand =
        ({ exit := 0 }, after) ∧
      after.readText "t.p" = .ok "# levels\nk=WARNING:a\n" := by
  have hi : Request.ofArguments ["--url", "t.p", "set", "WARNING", "k", "a"] =
      .run ⟨{ url := some "t.p" }, .set .warning "k" (some "a")⟩ := by
    decide +kernel
  have ht : levelsAtHand.readText "t.p" = .ok "# levels\nk=INFO\n" :=
    rfl
  have hconfig : (Invocation.mk { url := some "t.p" } (.set .warning "k" (some "a"))).config {}
      levelsAtHand = .ok { repository := { url := some "t.p" } } :=
    rfl
  obtain ⟨said, hout, hmeets⟩ := run_meets hi hconfig (by decide +kernel) ht .down
  have hcheck : checkEntry "k" (Token.render .warning (some "a")) = .ok () :=
    rfl
  have hrendered : ((Document.parse "# levels\nk=INFO\n").set "k"
      (Token.render .warning (some "a"))).render = "# levels\nk=WARNING:a\n" := by
    decide +kernel
  simp only [Command.Meets, hcheck, hrendered] at hmeets
  obtain ⟨rfl, -, hafter⟩ := hmeets
  exact ⟨_, Prod.ext hout rfl, hafter⟩

end CommandLine

end Admission

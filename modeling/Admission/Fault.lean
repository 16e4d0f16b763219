import Admission.Severity
import Admission.Text.Quoted

/-!
# Faults — why a call did not succeed

  A fault is a cause. Its kind says which part of the work it concerns, its text says
  what happened, and its message is the text behind the kind's label. All wordings of
  the library are in this file.
-/

namespace Admission

/-! ### Kinds -/

/-- Which part of the work a fault concerns. -/
inductive Fault.Kind where
  /-- Configuration and location of a store. -/
  | config
  /-- Content of a store and writing it. -/
  | repository
  /-- Use of a repository that is closed. -/
  | notOpen
  /-- Change of a store that cannot be changed. -/
  | readOnly
  /-- Policy tokens. -/
  | parse
  /-- Files. -/
  | io
  /-- Remote stores. -/
  | http
  deriving DecidableEq, Repr

/-- The words that a message of a kind begins with. -/
def Fault.Kind.label : Fault.Kind → String
  | .config => "config"
  | .repository => "repository"
  | .notOpen => "not open"
  | .readOnly => "read only"
  | .parse => "parse"
  | .io => "io"
  | .http => "http"

/-- The name of a kind. -/
def Fault.Kind.name : Fault.Kind → String
  | .config => "Config"
  | .repository => "Repository"
  | .notOpen => "NotOpen"
  | .readOnly => "ReadOnly"
  | .parse => "Parse"
  | .io => "Io"
  | .http => "Http"

/-! ### Files -/

/-- Why a file could not be used. -/
inductive FileFault where
  /-- Nothing has that name. -/
  | notFound
  /-- Something has that name already. -/
  | alreadyThere
  /-- A name leads through a file. -/
  | notDirectory
  /-- A directory stands where a file is needed. -/
  | isDirectory
  /-- A directory in use would have to give way. -/
  | busy
  /-- A name or a path is longer than the system takes. -/
  | tooLong
  /-- The bytes are not text. -/
  | notText
  /-- The name holds a null character. -/
  | nullInName
  deriving DecidableEq, Repr

/-- The wording of a file fault. -/
def FileFault.text : FileFault → String
  | .notFound => "No such file or directory (os error 2)"
  | .alreadyThere => "File exists (os error 17)"
  | .notDirectory => "Not a directory (os error 20)"
  | .isDirectory => "Is a directory (os error 21)"
  | .busy => "Device or resource busy (os error 16)"
  | .tooLong => "File name too long (os error 36)"
  | .notText => "stream did not contain valid UTF-8"
  | .nullInName => "file name contained an unexpected NUL byte"

/-! ### Numbers and configurations -/

/-- Why a text is not a natural number of 64 bits. -/
inductive NumberFault where
  /-- There are no characters. -/
  | empty
  /-- A character is not a digit. -/
  | invalidDigit
  /-- The number has more than 64 bits. -/
  | overflow
  deriving DecidableEq, Repr

/-- The wording of a number fault. -/
def NumberFault.text : NumberFault → String
  | .empty => "cannot parse integer from empty string"
  | .invalidDigit => "invalid digit found in string"
  | .overflow => "number too large to fit in target type"

/-- Why a text is not a configuration. -/
inductive SettingsFault where
  /-- The text is not a TOML document. -/
  | notToml
  /-- A setting has a value of a wrong type. -/
  | wrongType
  deriving DecidableEq, Repr

/-- The wording of a settings fault. -/
def SettingsFault.text : SettingsFault → String
  | .notToml => "not a TOML document"
  | .wrongType => "a setting has a value of a wrong type"

/-! ### All causes -/

/-- Why a call did not succeed. -/
inductive Fault where
  /-- A cause that a collaborator states in its own words. -/
  | stated (kind : Fault.Kind) (text : String)
  /-- No level has that name. -/
  | unknownSeverity (name : String)
  /-- The value pattern is malformed, too deep or too large. -/
  | invalidPattern (pattern : String)
  /-- A key that would not be read back. -/
  | unstorableKey (key : String)
  /-- A value that would not be read back under its key. -/
  | unstorableValue (key value : String)
  /-- The repository in memory is closed. -/
  | memoryClosed
  /-- The file repository with that location is closed. -/
  | storeClosed (url : String)
  /-- The store at that location cannot be changed. -/
  | readOnlyStore (location : String)
  /-- There is no repository, or it is not defined. -/
  | noDefinedRepository
  /-- The repository was given no location. -/
  | noLocation
  /-- The location is empty. -/
  | emptyLocation
  /-- The location is a URL of another scheme than those for stores. -/
  | unsupportedScheme (scheme : String)
  /-- The store at that location cannot be read. -/
  | unreadableStore (location : String) (cause : Fault)
  /-- The file has no readable description. -/
  | cannotStat (path : String) (cause : FileFault)
  /-- The file has no readable text. -/
  | cannotRead (path : String) (cause : FileFault)
  /-- No request can be made for the URL. -/
  | noRequest
  /-- The new text cannot be put next to the file. -/
  | cannotStage (path : String) (cause : FileFault)
  /-- The new text cannot be put in the place of the file. -/
  | cannotReplace (path : String) (cause : FileFault)
  /-- The configuration file cannot be read. -/
  | unreadableSettings (cause : FileFault)
  /-- The text is not a configuration. -/
  | invalidSettings (cause : SettingsFault)
  /-- The poll interval in the environment is not a number. -/
  | invalidRefresh (cause : NumberFault)
  /-- The close timeout is zero. -/
  | zeroCloseTimeout
  /-- A repository in memory was given a location. -/
  | memoryWithLocation
  /-- No token is recorded under that key. -/
  | noToken (key : String)
  /-- There is no store to watch. -/
  | nothingToWatch
  deriving DecidableEq, Repr

namespace Fault

/-- The kind of a fault. -/
def kind : Fault → Kind
  | stated kind _ => kind
  | unknownSeverity _ | invalidPattern _ => .parse
  | unstorableKey _ | unstorableValue _ _ | noDefinedRepository | cannotStage _ _
  | cannotReplace _ _ | noToken _ => .repository
  | memoryClosed | storeClosed _ => .notOpen
  | readOnlyStore _ => .readOnly
  | cannotStat _ _ | cannotRead _ _ => .io
  | noRequest => .http
  | noLocation | emptyLocation | unsupportedScheme _ | unreadableStore _ _
  | unreadableSettings _ | invalidSettings _ | invalidRefresh _ | zeroCloseTimeout
  | memoryWithLocation | nothingToWatch => .config

/-- The name of the environment variable that holds a poll interval. -/
def refreshVariable : String := "TRACE_SELECTOR_REFRESH_TIME"

/-- What happened. -/
def text : Fault → String
  | stated _ text => text
  | unknownSeverity name => s!"unknown severity '{name}'"
  | invalidPattern pattern => s!"invalid value pattern: {pattern}"
  | unstorableKey key => s!"key {Text.quoted key} cannot be stored"
  | unstorableValue key value =>
    s!"value {Text.quoted value} for key '{key}' cannot be stored"
  | memoryClosed => "memory repository is closed"
  | storeClosed url => s!"repository '{url}' is closed"
  | readOnlyStore location => s!"store '{location}' cannot be modified"
  | noDefinedRepository => "selector has no defined repository"
  | noLocation => "no store location configured"
  | emptyLocation => "store location is empty"
  | unsupportedScheme scheme => s!"unsupported store url scheme '{scheme}'"
  | unreadableStore location cause =>
    s!"cannot read store '{location}': {cause.kind.label}: {cause.text}"
  | cannotStat path cause => s!"failed to stat '{path}': {cause.text}"
  | cannotRead path cause => s!"failed to read '{path}': {cause.text}"
  | noRequest => "builder error"
  | cannotStage path cause => s!"failed to stage write for '{path}': {cause.text}"
  | cannotReplace path cause => s!"failed to replace '{path}': {cause.text}"
  | unreadableSettings cause => s!"failed to read config: {cause.text}"
  | invalidSettings cause => s!"invalid config: {cause.text}"
  | invalidRefresh cause => s!"{refreshVariable} must be milliseconds: {cause.text}"
  | zeroCloseTimeout => "close_timeout_ms must be greater than zero"
  | memoryWithLocation => "a memory repository does not take a url"
  | noToken key => s!"no token recorded for '{key}'"
  | nothingToWatch => "watch needs a store location"

/-- What a person is told: the text behind the label of its kind. -/
def message (f : Fault) : String := s!"{f.kind.label}: {f.text}"

/-- The fault as a term: the name of its kind and its text in quotation marks. -/
def shown (f : Fault) : String := s!"{f.kind.name}({Text.quoted f.text})"

end Fault

end Admission

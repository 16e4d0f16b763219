import Admission.Severity
import Admission.Text.Number

/-!
# Arguments — what a command line asks for

  A command line is a list of arguments: options with two hyphens, a command, and what
  the command takes. Three options are common to all commands and may stand before or
  after the command; after it they count more. An option has its value behind an equal
  sign or in the next argument; in the next argument it does not begin with a hyphen,
  unless it is nothing else. Behind two hyphens alone, what looks like an option is none.

  Nothing may be given twice in one place, and nothing else may be given at all.
-/

namespace Admission.CommandLine

/-! ### Requests -/

/-- What is done with a policy. -/
inductive Command where
  /-- Tells whether an event is admitted. -/
  | check (severity : Severity) (key : String) (value : Option String)
  /-- Tells the token of a key. -/
  | get (key : String)
  /-- Lists the keys with a token. -/
  | keys (json : Bool)
  /-- Records a token. -/
  | set (severity : Severity) (key : String) (value : Option String)
  /-- Removes a key. -/
  | remove (key : String)
  /-- Tells all changes, as they happen. -/
  | watch (refreshTime : Option Nat)
  deriving DecidableEq, Repr

/-- How log lines are written. -/
inductive LogFormat where
  /-- For people. -/
  | text
  /-- As JSON documents. -/
  | json
  deriving DecidableEq, Repr

/-- The options that are common to all commands. -/
structure Options where
  /-- The configuration file. -/
  config : Option String := none
  /-- The location of the store. -/
  url : Option String := none
  /-- How log lines are written. -/
  logFormat : Option LogFormat := none
  deriving DecidableEq, Repr, Inhabited

/-- The options of which those in the second place count more. -/
def Options.over (before after : Options) : Options where
  config := after.config.or before.config
  url := after.url.or before.url
  logFormat := after.logFormat.or before.logFormat

/-- A command with its options. -/
structure Invocation where
  /-- The options. -/
  options : Options
  /-- The command. -/
  command : Command
  deriving DecidableEq, Repr

/-- What a command line asks for. -/
inductive Request where
  /-- The version of the program. -/
  | version
  /-- A command. -/
  | run (i : Invocation)
  /-- Nothing that is known. -/
  | misuse
  deriving DecidableEq, Repr

/-! ### Words -/

/-- An argument by its form. -/
inductive Word where
  /-- An option, with the value behind its equal sign. -/
  | option (name : String) (value : Option String)
  /-- Hyphens alone, after which there are no more options. -/
  | separator
  /-- One hyphen and letters. -/
  | letters (cs : List Char)
  /-- Anything else. -/
  | plain (s : String)
  deriving DecidableEq, Repr

/-- What stands before and after the first equal sign. -/
def atEqualSign : List Char → List Char × Option (List Char)
  | [] => ([], none)
  | '=' :: cs => ([], some cs)
  | c :: cs =>
    let (before, after) := atEqualSign cs
    (c :: before, after)

/-- The form of an argument. -/
def Word.of (s : String) : Word :=
  match s.toList with
  | ['-', '-'] => .separator
  | '-' :: '-' :: cs =>
    let (name, value) := atEqualSign cs
    .option (String.ofList name) (value.map String.ofList)
  | '-' :: c :: cs => .letters (c :: cs)
  | _ => .plain s

/-- Whether an argument may be the value of the option before it. -/
def isValue (s : String) : Bool :=
  match Word.of s with
  | .plain _ => true
  | _ => false

/-- The value of an option, and the arguments after it. -/
def optionValue : Option String → List String → Option (String × List String)
  | some v, rest => some (v, rest)
  | none, v :: rest => if isValue v then some (v, rest) else none
  | none, [] => none

/-! ### Common options -/

/-- The log format of a name. -/
def LogFormat.ofName? : String → Option LogFormat
  | "text" => some .text
  | "json" => some .json
  | _ => none

/-- The options with one more, which must not be there; none if there is no such option or
the value is none of its values. -/
def Options.add? (o : Options) (name value : String) : Option Options :=
  match name with
  | "config" =>
    if o.config.isNone && !value.isEmpty then some { o with config := some value } else none
  | "url" => if o.url.isNone then some { o with url := some value } else none
  | "log-format" =>
    match o.logFormat, LogFormat.ofName? value with
    | none, some f => some { o with logFormat := some f }
    | _, _ => none
  | _ => none

/-! ### Commands -/

/-- What stands behind the name of a command. -/
structure Tail where
  /-- The common options. -/
  options : Options := {}
  /-- The arguments that are no options. -/
  values : List String := []
  /-- Whether keys are listed as a JSON document. -/
  json : Bool := false
  /-- The poll interval. -/
  refreshTime : Option Nat := none
  deriving Inhabited

/-- The options that only one command has. -/
def Tail.addOwn? (command : String) (t : Tail) (name : String) (value : Option String)
    (rest : List String) : Option (Tail × List String) :=
  match command, name with
  | "keys", "json" =>
    if value.isNone && !t.json then some ({ t with json := true }, rest) else none
  | "watch", "refresh-time" => do
    let (v, rest) ← optionValue value rest
    let n ← (Text.readNumber v.toList).toOption
    if t.refreshTime.isNone then some ({ t with refreshTime := some n }, rest) else none
  | _, _ => do
    let (v, rest) ← optionValue value rest
    some ({ t with options := ← t.options.add? name v }, rest)

/-- What arguments behind the name of a command say. -/
def Tail.read (command : String) : Nat → List String → Tail → Option Tail
  | 0, _, _ => none
  | _, [], t => some t
  | fuel + 1, s :: rest, t =>
    match Word.of s with
    | .plain v => read command fuel rest { t with values := t.values ++ [v] }
    | .separator => some { t with values := t.values ++ rest }
    | .letters _ => none
    | .option name value => do
      let (t, rest) ← t.addOwn? command name value rest
      read command fuel rest t

/-- The command that a name and what stands behind it ask for. -/
def Tail.command? (name : String) (t : Tail) : Option Command :=
  match name, t.values with
  | "check", [severity, key] => do return .check (← Severity.ofName? severity) key none
  | "check", [severity, key, value] =>
    do return .check (← Severity.ofName? severity) key (some value)
  | "get", [key] => some (.get key)
  | "keys", [] => some (.keys t.json)
  | "set", [severity, key] => do return .set (← Severity.ofName? severity) key none
  | "set", [severity, key, value] =>
    do return .set (← Severity.ofName? severity) key (some value)
  | "remove", [key] => some (.remove key)
  | "watch", [] => some (.watch t.refreshTime)
  | _, _ => none

/-! ### Command lines -/

/-- What arguments ask for, after the options that were read. -/
def Request.read : Nat → List String → Options → Request
  | 0, _, _ => .misuse
  | _, [], _ => .misuse
  | fuel + 1, s :: rest, options =>
    match Word.of s with
    | .plain name =>
      match (Tail.read name (rest.length + 1) rest {}).bind fun t =>
          (t.command? name).map fun command => Invocation.mk (options.over t.options) command with
      | some i => .run i
      | none => .misuse
    | .separator => .misuse
    | .letters cs => if cs.head? == some 'V' then .version else .misuse
    | .option "version" none => .version
    | .option name value =>
      match (optionValue value rest).bind fun (v, rest) =>
          (options.add? name v).map fun options => (options, rest) with
      | some (options, rest) => read fuel rest options
      | none => .misuse

/-- What arguments ask for. -/
def Request.ofArguments (arguments : List String) : Request :=
  Request.read (arguments.length + 1) arguments {}

end Admission.CommandLine

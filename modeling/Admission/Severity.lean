import Admission.Text.Blank

/-!
# Severity — how important a traced event is

  Ten levels in one fixed order, from `trace` to `halt`. A level is written by its
  name, in capitals; it is read in any letter case and with blanks around it.
-/

namespace Admission

/-- The importance of a traced event. -/
inductive Severity where
  /-- Fine-grained detail. -/
  | trace
  /-- Diagnostics for developers. -/
  | debug
  /-- Normal operation. -/
  | info
  /-- Significant but expected conditions. -/
  | notice
  /-- Unexpected conditions that do not stop the work. -/
  | warning
  /-- Failed operations. -/
  | error
  /-- Failures of a whole component. -/
  | critical
  /-- Failures of the whole process. -/
  | failure
  /-- Conditions without recovery. -/
  | fatal
  /-- The process is about to stop. -/
  | halt
  deriving DecidableEq, Repr, Inhabited

namespace Severity

/-! ### Order -/

/-- All levels, least important first. -/
def all : List Severity :=
  [trace, debug, info, notice, warning, error, critical, failure, fatal, halt]

/-- The place of a level in the order, counted from zero. -/
def ordinal : Severity → Nat
  | trace => 0
  | debug => 1
  | info => 2
  | notice => 3
  | warning => 4
  | error => 5
  | critical => 6
  | failure => 7
  | fatal => 8
  | halt => 9

/-- Whether a level reaches a minimum. -/
def atLeast (s minimum : Severity) : Bool := minimum.ordinal ≤ s.ordinal

instance : Ord Severity := ⟨fun a b => compare a.ordinal b.ordinal⟩

theorem mem_all (s : Severity) : s ∈ all := by cases s <;> simp [all]

theorem ordinal_injective {a b : Severity} (h : a.ordinal = b.ordinal) : a = b := by
  cases a <;> cases b <;> simp [ordinal] at h <;> rfl

/-! ### Names -/

/-- The name of a level. -/
def name : Severity → String
  | trace => "TRACE"
  | debug => "DEBUG"
  | info => "INFO"
  | notice => "NOTICE"
  | warning => "WARNING"
  | error => "ERROR"
  | critical => "CRITICAL"
  | failure => "FAILURE"
  | fatal => "FATAL"
  | halt => "HALT"

/-- The level with exactly a given name. -/
def ofExactName? (s : String) : Option Severity := all.find? fun level => level.name == s

/-- Whether two texts differ at most in the case of their ASCII letters. -/
def sameLetters (a b : List Char) : Bool := a.map Char.toUpper == b.map Char.toUpper

/-- The level that a text names, in any letter case and with blanks around it. -/
def ofName? (s : String) : Option Severity :=
  all.find? fun level => sameLetters level.name.toList (Text.trimBoth s.toList)

theorem ofExactName?_name (s : Severity) : ofExactName? s.name = some s := by
  cases s <;> decide

end Severity

end Admission

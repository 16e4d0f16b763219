import Admission.Fault

/-!
# Numbers — decimal numbers of 64 bits

  A natural number is written in decimal digits, with a plus sign before them or
  without. Of two faults the one further to the front is told.
-/

namespace Admission.Text

/-- The least number with more than 64 bits. -/
def numberLimit : Nat := 0x10000000000000000

/-- The number that digits spell after those that spell a given number. -/
def readDigits : Nat → List Char → Except NumberFault Nat
  | n, [] => .ok n
  | n, c :: cs =>
    if !c.isDigit then .error .invalidDigit
    else
      let n := n * 10 + (c.toNat - 48)
      if n < numberLimit then readDigits n cs else .error .overflow

/-- The number that characters spell. -/
def readNumber : List Char → Except NumberFault Nat
  | [] => .error .empty
  | ['+'] => .error .invalidDigit
  | '+' :: cs => readDigits 0 cs
  | cs => readDigits 0 cs

end Admission.Text

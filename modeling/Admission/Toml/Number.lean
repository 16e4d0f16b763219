import Admission.Toml.Text
import Admission.Toml.Value

/-!
# Numbers and dates of a TOML document

  A whole number is decimal with an optional sign, or hexadecimal, octal or binary
  without one, and has 64 bits. A decimal number with a fraction or an exponent is a
  floating-point number, and so are the infinities and the numbers that are none; one
  that would round to positive infinity is malformed. Underscores may stand between two
  digits.

  A date has a year, a month that exists and a day that the month has; a time has
  hours, minutes and seconds, with a leap second if need be; a date with a time may have
  an offset. Their values are of no use here, so only their form is checked.
-/

namespace Admission.Toml.Reader

/-! ### Digits -/

/-- The digits that follow others, each with an underscore before it or without; only
digits that pass a test count. -/
def moreDigits (p : Char → Bool) : Nat → List Char → Reader (List Char)
  | 0, found => return found.reverse
  | fuel + 1, found => do
    let underscore ← accept ['_']
    match ← peek with
    | some c =>
      if p c then
        advance
        moreDigits p fuel (c :: found)
      else
        require !underscore
        return found.reverse
    | none =>
      require !underscore
      return found.reverse

/-- One or more digits that pass a test, without the underscores between them. -/
def digitsOf (p : Char → Bool) : Reader (List Char) := do
  let c ← one p
  moreDigits p ((← rest).length + 1) [c]

/-- The number that digits spell in a base. -/
def numberOf (base : Nat) (digits : List Char) : Nat :=
  digits.foldl (fun n c => n * base + (hexDigit? c).getD 0) 0

/-- A sign: whether it is negative, if one stands here. -/
def sign : Reader Bool := do
  if ← accept ['-'] then return true
  else do
    discard (accept ['+'])
    return false

/-- The digits of a decimal number: without leading zeros. -/
def wholeDigits : Reader (List Char) := do
  if ← accept ['0'] then return ['0'] else digitsOf Char.isDigit

/-! ### Whole numbers -/

/-- How far the whole numbers of 64 bits reach below zero. -/
def integerReach : Nat := 0x8000000000000000

/-- A number of 64 bits. -/
def bounded (negative : Bool) (n : Nat) : Reader Value := do
  require (if negative then n ≤ integerReach else n < integerReach)
  return .integer (if negative then -(n : Int) else n)

/-- A whole number. -/
def integer : Reader Value := do
  if ← accept ['0', 'x'] then
    bounded false (numberOf 16 (← digitsOf fun c => (hexDigit? c).isSome))
  else if ← accept ['0', 'o'] then
    bounded false (numberOf 8 (← digitsOf fun c => '0' ≤ c && c ≤ '7'))
  else if ← accept ['0', 'b'] then
    bounded false (numberOf 2 (← digitsOf fun c => c == '0' || c == '1'))
  else do
    let negative ← sign
    bounded negative (numberOf 10 (← wholeDigits))

/-! ### Floating-point numbers -/

/-- The least number that rounds to infinity: half a unit above the greatest finite one. -/
def infinityBound : Nat := (1 <<< 1024) - (1 <<< 970)

/-- Whether a number of digits, times a power of ten, rounds to infinity. -/
def overflows (mantissa : Nat) (exponent : Int) : Bool :=
  if mantissa = 0 then false
  else
    let size : Int := (Nat.toDigits 10 mantissa).length + exponent
    if size < 309 then false
    else if 309 < size then true
    else if 0 ≤ exponent then infinityBound ≤ mantissa * Nat.pow 10 exponent.toNat
    else infinityBound * Nat.pow 10 (-exponent).toNat ≤ mantissa

/-- An exponent, if one stands here. -/
def exponent : Reader (Option Int) := do
  if ← (accept ['e'] <||> accept ['E']) then
    let negative ← sign
    let n := numberOf 10 (← digitsOf Char.isDigit)
    return some (if negative then -(n : Int) else n)
  else return none

/-- The digits of a fraction, if one stands here. -/
def fraction : Reader (Option (List Char)) := do
  if ← accept ['.'] then some <$> digitsOf Char.isDigit else return none

/-- A floating-point number. -/
def float : Reader Value := do
  let negative ← sign
  if ← (accept ['i', 'n', 'f'] <||> accept ['n', 'a', 'n']) then return .float
  let whole ← wholeDigits
  let decimals ← fraction
  let power ← exponent
  require (decimals.isSome || power.isSome)
  let decimals := decimals.getD []
  let shift : Int := power.getD 0 - decimals.length
  require (negative || !overflows (numberOf 10 (whole ++ decimals)) shift)
  return .float

/-! ### Dates and times -/

/-- A number with exactly so many digits, in a range. -/
def fixed (count least greatest : Nat) : Reader Nat := do
  let cs ← rest
  let digits := cs.take count
  require (digits.length == count && digits.all Char.isDigit)
  modify (List.drop count)
  let n := numberOf 10 digits
  require (least ≤ n && n ≤ greatest)
  return n

/-- How many days a month has. -/
def daysIn (year month : Nat) : Nat :=
  if month == 2 then
    if year % 4 == 0 && (year % 100 != 0 || year % 400 == 0) then 29 else 28
  else if month == 4 || month == 6 || month == 9 || month == 11 then 30
  else 31

/-- A date. -/
def date : Reader Unit := do
  let year ← fixed 4 0 9999
  expect ['-']
  let month ← fixed 2 1 12
  expect ['-']
  let day ← fixed 2 1 31
  require (day ≤ daysIn year month)

/-- A time of the day. -/
def time : Reader Unit := do
  discard (fixed 2 0 23)
  expect [':']
  discard (fixed 2 0 59)
  expect [':']
  discard (fixed 2 0 60)
  if ← accept ['.'] then
    require !(← span Char.isDigit).isEmpty

/-- An offset from universal time. -/
def offset : Reader Unit := do
  if ← (accept ['Z'] <||> accept ['z']) then return ()
  discard (one fun c => c == '+' || c == '-')
  discard (fixed 2 0 23)
  expect [':']
  discard (fixed 2 0 59)

/-- What may follow a date: a time, with an offset or without. -/
def timeOfDate : Reader Unit := do
  discard (one fun c => c == 'T' || c == 't' || c == ' ')
  time
  offset <|> pure ()

/-- A date, a time or both. -/
def datetime : Reader Value := do
  (do date; timeOfDate <|> pure ()) <|> time
  return .datetime

/-- A number or a date. -/
def number : Reader Value := datetime <|> float <|> integer

end Admission.Toml.Reader

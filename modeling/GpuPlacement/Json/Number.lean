import GpuPlacement.Data
import GpuPlacement.Text.Double
import GpuPlacement.Text.Scan

/-!
# Numbers in JSON

Integers keep their value as long as they fit 64 bits, with or without a sign; other numbers
keep their text. A number that a double cannot hold is an error, and the double meant is
the one of `Magnitude`: as many leading digits as fit 64 bits, times a power of ten.
-/

set_option autoImplicit false

namespace GpuPlacement.Json

open Text (Scanner isDigit scanDigits ofDigits)

/-- The digits before the point: a zero alone, or digits that start with no zero. -/
def wholeDigits : Scanner (List Char)
  | '0' :: c :: rest => if isDigit c then none else some (['0'], c :: rest)
  | cs =>
    match scanDigits cs with
    | ([], _) => none
    | found => some found

/-- The digits after a point, none if there is no point. -/
def fractionDigits : Scanner (List Char)
  | '.' :: rest =>
    match scanDigits rest with
    | ([], _) => none
    | found => some found
  | cs => some ([], cs)

/-- The exponent, absent if no letter opens it. -/
def scanExponent : Scanner (Option Int)
  | e :: rest =>
    if e == 'e' || e == 'E' then
      let (negative, digits) := match rest with
        | '-' :: digits => (true, digits)
        | '+' :: digits => (false, digits)
        | digits => (false, digits)
      match scanDigits digits with
      | ([], _) => none
      | (digits, rest) =>
        let n : Int := ofDigits 10 digits
        some (some (if negative then -n else n), rest)
    else some (none, e :: rest)
  | [] => some (none, [])

/-- Digits written behind `n`, for as long as the number fits 64 bits: the number, and the digits
from the first that no longer fits. -/
def appendDigits (n : Nat) : List Char → Nat × List Char
  | [] => (n, [])
  | c :: rest =>
    let next := n * 10 + Text.digitValue c
    if next ≤ Text.maxU64 then appendDigits next rest else (n, c :: rest)

/-- The size of a number: `significand * 10 ^ exponent`. -/
structure Magnitude where
  significand : Nat
  exponent : Int

/-- The magnitude of a numeral. Digits before the point that do not fit the significand count
as zeros; those after the point that do not fit, from the first on, count nothing. -/
def Magnitude.ofDigits (whole fraction : List Char) (exponent : Int) : Magnitude :=
  let (n, places) := appendDigits 0 whole
  let (n, unused) := appendDigits n fraction
  ⟨n, places.length - (fraction.length - unused.length) + exponent⟩

/-- Whether an integer fits 64 bits, with or without a sign. Minus zero is no integer. -/
def isInteger (negative : Bool) (n : Nat) : Bool :=
  if negative then 0 < n && n ≤ Nat.pow 2 63 else n ≤ Text.maxU64

def scanNumber : Scanner Data := fun cs => do
  let (negative, unsigned) := match cs with
    | '-' :: unsigned => (true, unsigned)
    | unsigned => (false, unsigned)
  let (whole, rest) ← wholeDigits unsigned
  let (fraction, rest) ← fractionDigits rest
  let (exponent, rest) ← scanExponent rest
  let n := ofDigits 10 whole
  let magnitude := Magnitude.ofDigits whole fraction (exponent.getD 0)
  if fraction.isEmpty && exponent.isNone && isInteger negative n then
    return (.integer (if negative then -n else n), rest)
  else if Text.productExceedsDouble magnitude.significand magnitude.exponent then none
  else return (.real (String.ofList (cs.take (cs.length - rest.length))), rest)

end GpuPlacement.Json

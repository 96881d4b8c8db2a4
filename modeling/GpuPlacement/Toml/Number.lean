import GpuPlacement.Data
import GpuPlacement.Text.Double
import GpuPlacement.Toml.Trivia

/-!
# Numbers and dates

The scalars that start with a digit or a sign. Four digits and a hyphen begin a date and an
hour with a colon begins a time; what remains is a float or an integer. Underscores may stand
between two digits. Integers must fit 64 bits with a sign, and a float may not be a finite
numeral that rounds to plus infinity.
-/

set_option autoImplicit false

namespace GpuPlacement.Toml

open Text (Scanner isDigit isHexDigit ofDigits)

/-! ## Digit runs -/

/-- The digits after the first, with single underscores between digits left out. -/
def moreDigits (digit : Char → Bool) : Scanner (List Char)
  | [] => some ([], [])
  | '_' :: c :: rest =>
    if digit c then (moreDigits digit rest).map fun (cs, rest) => (c :: cs, rest) else none
  | ['_'] => none
  | c :: rest =>
    if digit c then (moreDigits digit rest).map fun (cs, rest) => (c :: cs, rest)
    else some ([], c :: rest)

/-- One or more digits, underscores allowed between them. -/
def digitRun (digit : Char → Bool) : Scanner (List Char)
  | c :: rest =>
    if digit c then (moreDigits digit rest).map fun (cs, rest) => (c :: cs, rest) else none
  | [] => none

/-- The digits of a decimal integer: a zero alone, or a run that starts with no zero. -/
def decimalDigits : Scanner (List Char)
  | '0' :: rest => some (['0'], rest)
  | cs => digitRun isDigit cs

/-- A plus or minus sign, if there is one: whether it is a minus. -/
def scanSign : List Char → Bool × List Char
  | '-' :: rest => (true, rest)
  | '+' :: rest => (false, rest)
  | cs => (false, cs)

/-! ## Integers and floats -/

/-- The integer as data, if it fits 64 bits with a sign. -/
def integer? (n : Int) : Option Data :=
  if -Int.ofNat (Nat.pow 2 63) ≤ n ∧ n < Int.ofNat (Nat.pow 2 63) then some (.integer n) else none

/-- The integer after `0x`, `0o` or `0b`. -/
def basedInteger (base : Nat) (digit : Char → Bool) : Scanner Data := fun cs => do
  let (digits, rest) ← digitRun digit cs
  let value ← integer? (ofDigits base digits)
  return (value, rest)

/-- The exponent of a float: its value and its text. -/
def scanExponent (e : Char) : Scanner (Int × List Char) := fun cs => do
  let (negative, afterSign) := scanSign cs
  let (digits, rest) ← digitRun isDigit afterSign
  let n : Int := ofDigits 10 digits
  let sign := if negative then ['-'] else []
  return ((if negative then -n else n, e :: sign ++ digits), rest)

/-- The exponent if there is one, else zero. -/
def scanExponent? : Scanner (Int × List Char)
  | 'e' :: rest => scanExponent 'e' rest
  | 'E' :: rest => scanExponent 'E' rest
  | cs => some ((0, []), cs)

/-- A float of a sign, integer digits, fraction digits and an exponent. -/
def float? (negative : Bool) (whole fraction : List Char) (exponent : Int × List Char) :
    Option Data :=
  let mantissa := ofDigits 10 (whole ++ fraction)
  if !negative && Text.exceedsDouble mantissa (exponent.1 - fraction.length) then none
  else
    let sign := if negative then ['-'] else []
    let point := if fraction.isEmpty then [] else '.' :: fraction
    some (.real (String.ofList (sign ++ whole ++ point ++ exponent.2)))

/-- A number: an integer in one of four bases, a float, infinity or not a number. -/
def scanNumber : Scanner Data
  | '0' :: 'x' :: rest => basedInteger 16 isHexDigit rest
  | '0' :: 'o' :: rest => basedInteger 8 (fun c => '0' ≤ c && c ≤ '7') rest
  | '0' :: 'b' :: rest => basedInteger 2 (fun c => c == '0' || c == '1') rest
  | cs =>
    let (negative, unsigned) := scanSign cs
    match unsigned with
    | 'i' :: 'n' :: 'f' :: rest => some (.real (if negative then "-inf" else "inf"), rest)
    | 'n' :: 'a' :: 'n' :: rest => some (.real "nan", rest)
    | _ => do
      let (whole, rest) ← decimalDigits unsigned
      match rest with
      | '.' :: rest =>
        let (fraction, rest) ← digitRun isDigit rest
        let (exponent, rest) ← scanExponent? rest
        let value ← float? negative whole fraction exponent
        return (value, rest)
      | 'e' :: _ | 'E' :: _ =>
        let (exponent, rest) ← scanExponent? rest
        let value ← float? negative whole [] exponent
        return (value, rest)
      | _ =>
        let n : Int := ofDigits 10 whole
        let value ← integer? (if negative then -n else n)
        return (value, rest)

/-! ## Dates and times

Each part is a scanner of the rest alone, since only the text of a date is kept. -/

/-- Exactly `count` digits that write a number from `low` to `high`. -/
def skipField (count low high : Nat) : Scanner Nat := fun cs =>
  let digits := cs.take count
  let n := ofDigits 10 digits
  if digits.length = count ∧ digits.all isDigit ∧ low ≤ n ∧ n ≤ high then
    some (n, cs.drop count)
  else none

def skipChar (c : Char) : List Char → Option (List Char)
  | d :: rest => if c = d then some rest else none
  | [] => none

def daysIn (year month : Nat) : Nat :=
  if month = 2 then
    if year % 4 = 0 ∧ (year % 100 ≠ 0 ∨ year % 400 = 0) then 29 else 28
  else if month = 4 ∨ month = 6 ∨ month = 9 ∨ month = 11 then 30
  else 31

def skipDate (cs : List Char) : Option (List Char) := do
  let (year, rest) ← skipField 4 0 9999 cs
  let (month, rest) ← skipField 2 1 12 (← skipChar '-' rest)
  let (_, rest) ← skipField 2 1 (daysIn year month) (← skipChar '-' rest)
  return rest

/-- The rest after a time of day, fractions of the second included. -/
def skipTime (cs : List Char) : Option (List Char) := do
  let (_, rest) ← skipField 2 0 23 cs
  let (_, rest) ← skipField 2 0 59 (← skipChar ':' rest)
  let (_, rest) ← skipField 2 0 60 (← skipChar ':' rest)
  match rest with
  | '.' :: c :: rest => if isDigit c then some (rest.dropWhile isDigit) else none
  | _ => some rest

/-- The rest after an offset from universal time, if there is one. -/
def skipOffset (cs : List Char) : Option (List Char) :=
  match cs with
  | 'Z' :: rest | 'z' :: rest => some rest
  | '+' :: rest | '-' :: rest => do
    let (_, rest) ← skipField 2 0 23 rest
    let (_, rest) ← skipField 2 0 59 (← skipChar ':' rest)
    return rest
  | _ => some cs

/-- Whether an hour and a colon come next. -/
def startsTime (cs : List Char) : Bool :=
  ((skipField 2 0 23 cs).bind fun (_, rest) => skipChar ':' rest).isSome

/-- Whether four digits and a hyphen come next. -/
def startsDate (cs : List Char) : Bool :=
  ((skipField 4 0 9999 cs).bind fun (_, rest) => skipChar '-' rest).isSome

/-- The rest after a date, with a time and an offset if they follow. -/
def skipDateTime (cs : List Char) : Option (List Char) := do
  let rest ← skipDate cs
  match rest with
  | d :: time =>
    if (d == 'T' || d == 't' || d == ' ') && startsTime time then
      skipOffset (← skipTime time)
    else some rest
  | [] => some []

/-- Whether a whole text is a date, a time, or both. -/
def isDateText (text : String) : Bool :=
  let cs := text.toList
  (if startsDate cs then skipDateTime cs else skipTime cs).any List.isEmpty

def scanNumberOrDate : Scanner Data := fun cs =>
  let date (rest : List Char) : Data × List Char :=
    (.datetime (String.ofList (cs.take (cs.length - rest.length))), rest)
  if startsDate cs then (skipDateTime cs).map date
  else if startsTime cs then (skipTime cs).map date
  else scanNumber cs

end GpuPlacement.Toml

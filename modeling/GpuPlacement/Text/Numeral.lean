/-!
# Decimal numerals with a range

Link counts, node numbers, command-line counts and the contents of sysfs files are
decimal numerals that must fit a range. A numeral is an optional sign and one or more
ASCII digits; leading zeros are allowed. Digits are read from the left and the first
character that is no digit, or that takes the value out of range, decides the error.
-/

set_option autoImplicit false

namespace GpuPlacement.Text

/-- Why a text is no numeral of the range asked for. -/
inductive NumeralError where
  | empty
  | invalidDigit
  | tooLarge
  | tooSmall
  deriving DecidableEq, Repr

def NumeralError.message : NumeralError → String
  | .empty => "cannot parse integer from empty string"
  | .invalidDigit => "invalid digit found in string"
  | .tooLarge => "number too large to fit in target type"
  | .tooSmall => "number too small to fit in target type"

def isDigit (c : Char) : Bool := '0' ≤ c && c ≤ '9'

def digitValue (c : Char) : Nat := c.toNat - '0'.toNat

/-- Reads digits onto `value`, never passing `limit`; `excess` is reported beyond it. -/
def readDigits (limit : Nat) (excess : NumeralError) : Nat → List Char → Except NumeralError Nat
  | value, [] => .ok value
  | value, c :: rest =>
    if isDigit c then
      if value * 10 + digitValue c ≤ limit then
        readDigits limit excess (value * 10 + digitValue c) rest
      else .error excess
    else .error .invalidDigit

/-- One or more digits up to `limit`. A sign with nothing behind it is an invalid digit. -/
def readSignless (limit : Nat) (excess : NumeralError) (signed : Bool) :
    List Char → Except NumeralError Nat
  | [] => .error (if signed then .invalidDigit else .empty)
  | cs => readDigits limit excess 0 cs

/-- A natural number up to `limit`, with an optional leading plus sign. -/
def readNat (limit : Nat) : List Char → Except NumeralError Nat
  | '+' :: rest => readSignless limit .tooLarge true rest
  | cs => readSignless limit .tooLarge false cs

/-- An integer of the two's complement range of `bits` bits, with an optional sign. -/
def readInt (bits : Nat) : List Char → Except NumeralError Int
  | '+' :: rest => (readSignless (Nat.pow 2 (bits - 1) - 1) .tooLarge true rest).map Int.ofNat
  | '-' :: rest => (readSignless (Nat.pow 2 (bits - 1)) .tooSmall true rest).map fun n => -Int.ofNat n
  | cs => (readSignless (Nat.pow 2 (bits - 1) - 1) .tooLarge false cs).map Int.ofNat

/-- The largest number of 8, 16, 32 and 64 unsigned bits. -/
def maxU8 : Nat := Nat.pow 2 8 - 1
@[inherit_doc maxU8] def maxU16 : Nat := Nat.pow 2 16 - 1
@[inherit_doc maxU8] def maxU32 : Nat := Nat.pow 2 32 - 1
@[inherit_doc maxU8] def maxU64 : Nat := Nat.pow 2 64 - 1

end GpuPlacement.Text

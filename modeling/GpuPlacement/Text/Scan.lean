import GpuPlacement.Text.Numeral

/-!
# Scanning notations

What the readers of JSON and TOML share: a scanner takes characters from the front of a text
and gives what it read and the rest, or fails. Digit runs and hexadecimal code points live here.
-/

set_option autoImplicit false

namespace GpuPlacement.Text

/-- Reads something from the front of a text and leaves the rest. -/
abbrev Scanner (α : Type) := List Char → Option (α × List Char)

def isHexDigit (c : Char) : Bool :=
  isDigit c || ('a' ≤ c && c ≤ 'f') || ('A' ≤ c && c ≤ 'F')

def hexValue (c : Char) : Nat :=
  if isDigit c then digitValue c
  else if 'a' ≤ c && c ≤ 'f' then c.toNat - 'a'.toNat + 10
  else c.toNat - 'A'.toNat + 10

/-- The number written by digits in a base of up to sixteen. -/
def ofDigits (base : Nat) (digits : List Char) : Nat :=
  digits.foldl (fun n c => n * base + hexValue c) 0

/-- Exactly `count` hexadecimal digits, as a number. -/
def scanHex (count : Nat) : Scanner Nat := fun cs =>
  let digits := cs.take count
  if digits.length = count ∧ digits.all isHexDigit then some (ofDigits 16 digits, cs.drop count)
  else none

/-- The character of a code point, if it is one. -/
def charOf? (n : Nat) : Option Char :=
  if h : n.isValidChar then some (Char.ofNatAux n h) else none

def scanDigits (cs : List Char) : List Char × List Char :=
  (cs.takeWhile isDigit, cs.dropWhile isDigit)

end GpuPlacement.Text

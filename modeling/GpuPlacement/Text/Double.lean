/-!
# The range of doubles

Nothing in this library computes with a fraction or an exponent, but a document may not hold a
number that is too large for a double. Two notions of "too large" are asked for: by the exact
value of a numeral, and by a product of doubles, each of them the nearest to its factor. Both
are decided with natural numbers alone.
-/

set_option autoImplicit false

namespace GpuPlacement.Text

/-- The least number that rounds beyond the largest finite double. -/
def doubleLimit : Nat := Nat.pow 2 1024 - Nat.pow 2 970

/-- Whether `mantissa * 10 ^ exponent` rounds beyond the largest finite double. Numbers of more
than four hundred places, or fewer than three hundred, are decided without computing them. -/
def exceedsDouble (mantissa : Nat) (exponent : Int) : Bool :=
  let places : Int := (Nat.toDigits 10 mantissa).length + exponent
  if mantissa = 0 then false
  else if 400 < places then true
  else if places < 300 then false
  else if 0 ≤ exponent then doubleLimit ≤ mantissa * Nat.pow 10 exponent.toNat
  else doubleLimit * Nat.pow 10 (-exponent).toNat ≤ mantissa

/-- The nearest number of 53 significant bits, and of two equally near ones the one whose last
bit is zero. It is the nearest double wherever that is finite. -/
def nearestDouble (n : Nat) : Nat :=
  let unit := Nat.pow 2 (n.log2 + 1 - 53)
  let count := n / unit
  let left := n % unit
  if unit < 2 * left ∨ unit = 2 * left ∧ count % 2 = 1 then (count + 1) * unit else count * unit

/-- Whether the doubles nearest to `significand` and to `10 ^ exponent` have a product beyond
the largest finite double. A negative exponent makes the number smaller, and `10 ^ 308` is the
largest power of ten that is a finite double. -/
def productExceedsDouble (significand : Nat) (exponent : Int) : Bool :=
  if significand = 0 ∨ exponent < 0 then false
  else if 308 < exponent then true
  else doubleLimit ≤ nearestDouble significand * nearestDouble (Nat.pow 10 exponent.toNat)

end GpuPlacement.Text

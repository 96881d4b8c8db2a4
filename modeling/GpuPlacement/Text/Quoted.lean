import GpuPlacement.Text.Unprintable
import GpuPlacement.Text.Extending

/-!
# Quoted text in messages

Messages show a piece of input between double quotes, with everything escaped that a
reader could not see: quotes and backslashes, control characters, characters that do
not print, and marks that would attach to the character before them. A single quote
needs no escape and has none.
-/

set_option autoImplicit false

namespace GpuPlacement.Text

def inRanges (ranges : Array (Nat × Nat)) (n : Nat) : Bool :=
  ranges.any fun (low, high) => low ≤ n && n ≤ high

/-- A character that shows as itself: printable ASCII, or beyond ASCII neither unprintable
nor extending the character before it. -/
def isVisible (c : Char) : Bool :=
  let n := c.toNat
  if n < 0x80 then 0x20 ≤ n && n < 0x7F
  else !inRanges extendingRanges n && !inRanges unprintableRanges n

/-- The numeric escape: a backslash, `u`, and the code point in braces, in hexadecimal. -/
def numericEscape (c : Char) : List Char :=
  ['\\', 'u', '\x7b'] ++ Nat.toDigits 16 c.toNat ++ ['\x7d']

/-- One character as it stands between the quotes. -/
def escapeChar (c : Char) : List Char :=
  if c = '\x00' then ['\\', '0']
  else if c = '\t' then ['\\', 't']
  else if c = '\r' then ['\\', 'r']
  else if c = '\n' then ['\\', 'n']
  else if c = '"' then ['\\', '"']
  else if c = '\\' then ['\\', '\\']
  else if isVisible c then [c]
  else numericEscape c

/-- The text between double quotes, escaped. -/
def quoted (s : String) : String :=
  String.ofList ('"' :: s.toList.flatMap escapeChar ++ ['"'])

/-- A list of numbers as messages show it: `[0, 3, 5]`. -/
def bracketed (ns : List Nat) : String :=
  "[" ++ String.intercalate ", " (ns.map toString) ++ "]"

/-- `s` followed by blanks up to `width` characters. -/
def padRight (width : Nat) (s : String) : String :=
  s ++ String.ofList (List.replicate (width - s.length) ' ')

end GpuPlacement.Text

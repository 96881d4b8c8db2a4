/-!
# Blank characters and trimming

The one notion of white space of this library: the characters with the Unicode
property `White_Space`, twenty-five code points and not the ASCII handful of
`Char.isWhitespace`. Node lists, bus IDs, visible-device values and the small files of
a sysfs tree are all trimmed by it.
-/

set_option autoImplicit false

namespace GpuPlacement.Text

/-- A character with the Unicode property `White_Space`. -/
def isBlank (c : Char) : Bool :=
  let n := c.toNat
  (0x09 ≤ n && n ≤ 0x0D) || n == 0x20 || n == 0x85 || n == 0xA0 || n == 0x1680 ||
    (0x2000 ≤ n && n ≤ 0x200A) || n == 0x2028 || n == 0x2029 || n == 0x202F ||
    n == 0x205F || n == 0x3000

/-- Drops the trailing characters of a list that satisfy `p`. -/
def dropEndWhile (p : Char → Bool) (cs : List Char) : List Char :=
  (cs.reverse.dropWhile p).reverse

def trim (cs : List Char) : List Char :=
  dropEndWhile isBlank (cs.dropWhile isBlank)

def trimmed (s : String) : String :=
  String.ofList (trim s.toList)

@[simp] theorem trim_nil : trim [] = [] := rfl

end GpuPlacement.Text

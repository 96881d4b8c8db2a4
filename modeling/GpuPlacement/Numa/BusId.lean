import GpuPlacement.Text.Blank
import GpuPlacement.Text.Split

/-!
# PCI bus IDs

A bus ID may be written with a domain of eight hexadecimal digits or of four, and in either
case. Sysfs names its directories by the short form in lower case.
-/

set_option autoImplicit false

namespace GpuPlacement.Numa.BusId

/-- Half of a long domain that is not needed when it is zero. -/
def highZeros : List Char := ['0', '0', '0', '0']

/-- The lower-case form of a bus ID without blanks around it. Of a domain of eight bytes that
starts with four zeros the zeros are dropped. -/
def normalize (id : String) : String :=
  let lower := (Text.trim id.toList).map Char.toLower
  String.ofList <|
    match Text.splitFirst? ':' lower with
    | none => lower
    | some (domain, rest) =>
      match Text.dropStart? highZeros domain with
      | some low =>
        if (String.ofList domain).utf8ByteSize = 8 then low ++ ':' :: rest else lower
      | none => lower

/-- The same with the zeros cut off as four bytes. It gives nothing where that cut would fall inside
of a character. -/
def normalizeSliced? (id : String) : Option String :=
  let lower := (Text.trim id.toList).map Char.toLower
  match Text.splitFirst? ':' lower with
  | none => some (String.ofList lower)
  | some (domain, rest) =>
    if (String.ofList domain).utf8ByteSize = 8 ∧ (Text.dropStart? highZeros domain).isSome then
      (Text.sliceFrom? (String.ofList domain) 4).map fun low => low ++ ":" ++ String.ofList rest
    else some (String.ofList lower)

end GpuPlacement.Numa.BusId

import GpuPlacement.Data
import GpuPlacement.DocumentError
import GpuPlacement.Text.Numeral

/-!
# Decoding structured data

Decoders for single values and the two steps every record decoder is made of: `fieldsOf`
gives the named fields in the order in which they stand, and `require` reports what is
missing once they have been read. So of two faults in a record the first in the document
wins, and a missing field is reported after all that are there.
-/

set_option autoImplicit false

namespace GpuPlacement.Data

abbrev Decoded (α : Type) := Except DocumentError α

def asString : Data → Decoded String
  | .string s => .ok s
  | _ => .error .malformed

/-- A natural number up to `limit`. -/
def asNat (limit : Nat) : Data → Decoded Nat
  | .integer n => if 0 ≤ n ∧ n ≤ limit then .ok n.toNat else .error .malformed
  | _ => .error .malformed

/-- An integer of the two's complement range of `bits` bits. -/
def asInt (bits : Nat) : Data → Decoded Int
  | .integer n =>
    let bound := Int.ofNat (Nat.pow 2 (bits - 1))
    if -bound ≤ n ∧ n < bound then .ok n else .error .malformed
  | _ => .error .malformed

/-- `null`, or what `decode` reads. -/
def asOptional {α : Type} (decode : Data → Decoded α) : Data → Decoded (Option α)
  | .null => .ok none
  | d => (decode d).map some

/-- Decodes each item in turn; the first failure wins. -/
def decodeItems {α : Type} (decode : Data → Decoded α) : List Data → Decoded (List α)
  | [] => .ok []
  | item :: rest =>
    match decode item with
    | .error e => .error e
    | .ok a => (decodeItems decode rest).map (a :: ·)

def asList {α : Type} (decode : Data → Decoded α) : Data → Decoded (List α)
  | .list items => decodeItems decode items
  | _ => .error .malformed

def asLink (d : Data) : Decoded Link :=
  match asString d with
  | .error e => .error e
  | .ok s =>
    match Link.ofName s with
    | .error e => .error (.link e)
    | .ok link => .ok link

/-- One of the named variants: its name, or a record of one field that carries the name and
an empty value. -/
def asVariant {α : Type} (variants : List (String × α)) (d : Data) : Decoded α :=
  let choose (name : String) : Decoded α :=
    match variants.lookup name with
    | some a => .ok a
    | none => .error (.unknownVariant name (variants.map Prod.fst))
  match d with
  | .string name => choose name
  | .record [(name, value)] =>
    match choose name with
    | .error e => .error e
    | .ok a =>
      match value with
      | .list [] | .record [] => .ok a
      | _ => .error .malformed
  | _ => .error .malformed

/-- The fields of a record in the order in which they stand. A record may also be written as a
list of at least `atLeast` values, which are the fields of `names` in that order; a date is a
record without known fields. -/
def fieldsOf (names : List String) (atLeast : Nat) : Data → Decoded (List (String × Data))
  | .record fields => .ok fields
  | .datetime _ => .ok []
  | .list items =>
    if atLeast ≤ items.length then .ok (names.zip items) else .error .malformed
  | _ => .error .malformed

/-- The value of a field that may not be missing. -/
def require {α : Type} (name : String) : Option α → Decoded α
  | some a => .ok a
  | none => .error (.missingField name)

end GpuPlacement.Data

import GpuPlacement.Toml.Document

/-!
# Tables that stand for dates

A date can travel as a table: its first key is a reserved one, and the value there is the text of
the date. A document read for its own sake, with no record to fill, takes every table below the
root that starts with the reserved key as the date it stands for, and the text must then be one.
-/

set_option autoImplicit false

namespace GpuPlacement.Toml

def dateKey : String := "$__toml_private_datetime"

/-- The date that a table with the reserved key stands for, from the value there. -/
def dateOf? : Data → Option Data
  | .string text => if isDateText text then some (.datetime text) else none
  | _ => none

mutual

/-- A value with dates in the place of the tables that stand for them. -/
def withDates? : Data → Option Data
  | .list items => do return .list (← itemsWithDates? items)
  | .record [] => some (.record [])
  | .record ((key, value) :: rest) =>
    if key = dateKey then dateOf? value
    else do
      let value ← withDates? value
      let rest ← fieldsWithDates? rest
      return .record ((key, value) :: rest)
  | d => some d

def itemsWithDates? : List Data → Option (List Data)
  | [] => some []
  | item :: rest => do return (← withDates? item) :: (← itemsWithDates? rest)

def fieldsWithDates? : List (String × Data) → Option (List (String × Data))
  | [] => some []
  | (key, value) :: rest => do return (key, ← withDates? value) :: (← fieldsWithDates? rest)

end

/-- A document read for its own sake. The root itself stands for no date. -/
def readAny (text : String) : Except DocumentError Data := do
  match ← read text with
  | .record fields => return .record (← expect (fieldsWithDates? fields))
  | d => expect (withDates? d)

end GpuPlacement.Toml

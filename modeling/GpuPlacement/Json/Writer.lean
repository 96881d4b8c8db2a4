import GpuPlacement.Data

/-!
# Writing JSON

Structured data as JSON text, in one line or laid out with two blanks a level. Strings escape
quotes, backslashes and control characters and nothing else.
-/

set_option autoImplicit false

namespace GpuPlacement.Json

/-! ## Strings -/

/-- A control character by its code point in four hexadecimal digits. -/
def unitEscape (c : Char) : List Char :=
  let digits := Nat.toDigits 16 c.toNat
  ['\\', 'u'] ++ List.replicate (4 - digits.length) '0' ++ digits

/-- One character as it stands between the quotes. -/
def escapeChar (c : Char) : List Char :=
  if c = '"' then ['\\', '"']
  else if c = '\\' then ['\\', '\\']
  else if c = '\x08' then ['\\', 'b']
  else if c = '\x0c' then ['\\', 'f']
  else if c = '\n' then ['\\', 'n']
  else if c = '\r' then ['\\', 'r']
  else if c = '\t' then ['\\', 't']
  else if c.toNat < 0x20 then unitEscape c
  else [c]

def quoted (s : String) : String :=
  String.ofList ('"' :: s.toList.flatMap escapeChar ++ ['"'])

/-- A value that has no parts. Dates are strings. -/
def scalar : Data → String
  | .null => "null"
  | .boolean true => "true"
  | .boolean false => "false"
  | .integer n => toString n
  | .real lexeme => lexeme
  | .string s => quoted s
  | .datetime lexeme => quoted lexeme
  | .list _ => "[]"
  | .record _ => "\x7b\x7d"

/-! ## One line -/

mutual

def compact : Data → String
  | .list items => "[" ++ String.intercalate "," (compactItems items) ++ "]"
  | .record fields => "\x7b" ++ String.intercalate "," (compactFields fields) ++ "\x7d"
  | d => scalar d

def compactItems : List Data → List String
  | [] => []
  | item :: rest => compact item :: compactItems rest

def compactFields : List (String × Data) → List String
  | [] => []
  | (name, value) :: rest => (quoted name ++ ":" ++ compact value) :: compactFields rest

end

/-! ## Laid out -/

/-- The line end and indentation of a level. -/
def newline (level : Nat) : String :=
  String.ofList ('\n' :: List.replicate (2 * level) ' ')

/-- Parts between brackets, each on a line of its own one level in. -/
def block (opening closing : String) (level : Nat) (parts : List String) : String :=
  if parts.isEmpty then opening ++ closing
  else
    opening ++ newline (level + 1) ++ String.intercalate ("," ++ newline (level + 1)) parts ++
      newline level ++ closing

mutual

/-- Data laid out from a level on. -/
def prettyAt (level : Nat) : Data → String
  | .list items => block "[" "]" level (prettyItems (level + 1) items)
  | .record fields => block "\x7b" "\x7d" level (prettyFields (level + 1) fields)
  | d => scalar d

def prettyItems (level : Nat) : List Data → List String
  | [] => []
  | item :: rest => prettyAt level item :: prettyItems level rest

def prettyFields (level : Nat) : List (String × Data) → List String
  | [] => []
  | (name, value) :: rest =>
    (quoted name ++ ": " ++ prettyAt level value) :: prettyFields level rest

end

def pretty (d : Data) : String := prettyAt 0 d

end GpuPlacement.Json

import GpuPlacement.Toml.Trivia

/-!
# Strings and keys

The four forms of TOML strings and the keys made of two of them. Basic strings are written
between double quotes and know escapes; literal strings are written between single quotes and
know none. Three quotes make either of them span lines: a line end right after the opening is
dropped, and up to two quotes may stand right before the closing.
-/

set_option autoImplicit false

namespace GpuPlacement.Toml

open Text (Scanner scanHex charOf?)

/-- A character by its code point, written with `count` hexadecimal digits. -/
def scanCodePoint (count : Nat) : Scanner Char := fun cs => do
  let (n, rest) ← scanHex count cs
  let c ← charOf? n
  return (c, rest)

/-- What follows the backslash of an escape. -/
def scanEscape : Scanner Char
  | 'b' :: rest => some ('\x08', rest)
  | 'f' :: rest => some ('\x0c', rest)
  | 'n' :: rest => some ('\n', rest)
  | 'r' :: rest => some ('\r', rest)
  | 't' :: rest => some ('\t', rest)
  | '"' :: rest => some ('"', rest)
  | '\\' :: rest => some ('\\', rest)
  | 'u' :: rest => scanCodePoint 4 rest
  | 'U' :: rest => scanCodePoint 8 rest
  | _ => none

/-! ## Single-line strings -/

/-- The body of a basic string and its closing quote. -/
def basicBody : (fuel : Nat) → Scanner (List Char)
  | 0, _ => none
  | _, [] => none
  | _, '"' :: rest => some ([], rest)
  | fuel + 1, '\\' :: rest => do
    let (c, rest) ← scanEscape rest
    let (cs, rest) ← basicBody fuel rest
    return (c :: cs, rest)
  | fuel + 1, c :: rest =>
    if isText c then do
      let (cs, rest) ← basicBody fuel rest
      return (c :: cs, rest)
    else none

/-- The body of a literal string and its closing quote. -/
def literalBody (cs : List Char) : Option (List Char × List Char) :=
  let plain (c : Char) : Bool := isText c && c != '\''
  match cs.dropWhile plain with
  | '\'' :: rest => some (cs.takeWhile plain, rest)
  | _ => none

/-! ## Strings over several lines -/

def quoteRun (quote : Char) (cs : List Char) : Nat :=
  (cs.takeWhile (· == quote)).length

/-- The body of a string over several lines and its closing quotes. One or two quotes are
text; of three to five the last three close; `escapes` says whether a backslash is special. -/
def multilineBody (quote : Char) (escapes : Bool) : (fuel : Nat) → Scanner (List Char)
  | 0, _ => none
  | _, [] => none
  | fuel + 1, c :: rest =>
    let run := quoteRun quote (c :: rest)
    if 3 ≤ run then
      let closing := min run 5
      some (List.replicate (closing - 3) quote, (c :: rest).drop closing)
    else if c == '\\' && escapes then
      match afterNewline? (skipBlanks rest) with
      | some rest => multilineBody quote escapes fuel (skipBlankLines rest)
      | none => do
        let (c, rest) ← scanEscape rest
        let (cs, rest) ← multilineBody quote escapes fuel rest
        return (c :: cs, rest)
    else
      match afterNewline? (c :: rest) with
      | some rest => do
        let (cs, rest) ← multilineBody quote escapes fuel rest
        return ('\n' :: cs, rest)
      | none =>
        if isText c then do
          let (cs, rest) ← multilineBody quote escapes fuel rest
          return (c :: cs, rest)
        else none

/-- `multilineBody` without the line end right after the opening. -/
def multilineText (quote : Char) (escapes : Bool) : Scanner (List Char) := fun cs =>
  let cs := (afterNewline? cs).getD cs
  multilineBody quote escapes (cs.length + 1) cs

def scanString : Scanner (List Char)
  | '"' :: '"' :: '"' :: rest => multilineText '"' true rest
  | '\'' :: '\'' :: '\'' :: rest => multilineText '\'' false rest
  | '"' :: rest => basicBody (rest.length + 1) rest
  | '\'' :: rest => literalBody rest
  | _ => none

/-! ## Keys -/

/-- A character of a key without quotes. -/
def isBare (c : Char) : Bool :=
  ('a' ≤ c && c ≤ 'z') || ('A' ≤ c && c ≤ 'Z') || Text.isDigit c || c == '_' || c == '-'

/-- One part of a key: a string on one line, or a run of bare characters. -/
def scanSimpleKey : Scanner String
  | '"' :: rest => (basicBody (rest.length + 1) rest).map fun (cs, rest) => (String.ofList cs, rest)
  | '\'' :: rest => (literalBody rest).map fun (cs, rest) => (String.ofList cs, rest)
  | cs =>
    match cs.takeWhile isBare with
    | [] => none
    | bare => some (String.ofList bare, cs.dropWhile isBare)

/-- Whether a part of a key, well written or not, comes next. -/
def partFollows (cs : List Char) : Bool :=
  match skipBlanks cs with
  | [] => false
  | c :: _ => isBare c || c == '"' || c == '\''

/-- The parts of a dotted key, with blanks around each. A point that no part follows is left
where it is. -/
def keyParts : (fuel : Nat) → Scanner (List String)
  | 0, _ => none
  | fuel + 1, cs => do
    let (part, rest) ← scanSimpleKey (skipBlanks cs)
    match skipBlanks rest with
    | '.' :: more =>
      if partFollows more then do
        let (parts, rest) ← keyParts fuel more
        return (part :: parts, rest)
      else return ([part], '.' :: more)
    | rest => return ([part], rest)

/-- Keys have fewer parts than this. -/
def maxKeyParts : Nat := 80

def isTooLong (parts : List String) : Bool := maxKeyParts ≤ parts.length

/-- A key of one or more parts. -/
def scanKey : Scanner (List String) := fun cs => do
  let (parts, rest) ← keyParts cs.length cs
  if isTooLong parts then none else some (parts, rest)

/-- Whether a key, well written or not, comes next. One with too many parts does not count. -/
def keyFollows (cs : List Char) : Bool :=
  partFollows cs && (keyParts cs.length cs).all fun (parts, _) => !isTooLong parts

end GpuPlacement.Toml

import GpuPlacement.Text.Scan

/-!
# Blanks, line ends and comments

What stands between the meaningful parts of a TOML document. Blanks are the space and the tab;
a line ends with a line feed, alone or after a carriage return; a comment runs from a number
sign to the end of the line and may not hold control characters other than the tab.
-/

set_option autoImplicit false

namespace GpuPlacement.Toml

open Text (Scanner)

def isBlank (c : Char) : Bool := c == ' ' || c == '\t'

/-- A character that may stand in comments and strings: the tab, and all but control
characters. -/
def isText (c : Char) : Bool :=
  c == '\t' || (0x20 ≤ c.toNat && c.toNat != 0x7F)

def skipBlanks (cs : List Char) : List Char := cs.dropWhile isBlank

/-- The rest of the text after a line end. -/
def afterNewline? : List Char → Option (List Char)
  | '\n' :: rest => some rest
  | '\r' :: '\n' :: rest => some rest
  | _ => none

/-- Skips a comment up to the end of its line. -/
def skipComment : List Char → List Char
  | '#' :: rest => rest.dropWhile isText
  | cs => cs

/-- The rest after blanks, a comment if there is one, and the end of the line or text. -/
def afterLine? (cs : List Char) : Option (List Char) :=
  match skipComment (skipBlanks cs) with
  | [] => some []
  | rest => afterNewline? rest

def skipBlankLines : List Char → List Char
  | [] => []
  | '\r' :: '\n' :: rest => skipBlankLines rest
  | c :: rest => if isBlank c || c == '\n' then skipBlankLines rest else c :: rest

/-- Skips blanks, line ends and comments, starting inside a comment or not. -/
def skipTrivia (inComment : Bool) : List Char → List Char
  | [] => []
  | '\r' :: '\n' :: rest => skipTrivia false rest
  | c :: rest =>
    if c == '\n' then skipTrivia false rest
    else if inComment then
      if isText c then skipTrivia true rest else c :: rest
    else if c == '#' then skipTrivia true rest
    else if isBlank c then skipTrivia false rest
    else c :: rest

end GpuPlacement.Toml

/-!
Blank characters (the Unicode property White_Space) and what is cut by them: trimmed text, words,
lines. A line ends at a line feed, with or without a carriage return before it, or with the text.
-/
set_option autoImplicit false

namespace DeviceFilter.Text

def isBlank (c : Char) : Bool :=
  let n := c.toNat
  (0x09 ≤ n && n ≤ 0x0D) || n == 0x20 || n == 0x85 || n == 0xA0 || n == 0x1680
    || (0x2000 ≤ n && n ≤ 0x200A) || n == 0x2028 || n == 0x2029 || n == 0x202F
    || n == 0x205F || n == 0x3000

def trimLeft (cs : List Char) : List Char := cs.dropWhile isBlank

def trimRight (cs : List Char) : List Char := (cs.reverse.dropWhile isBlank).reverse

def trim (cs : List Char) : List Char := trimRight (trimLeft cs)

/-- Whether nothing but blanks is in the text. -/
def isBlankText (cs : List Char) : Bool := cs.all isBlank

/-- The first run of characters that are not blank, if there is one. -/
def firstWord? (cs : List Char) : Option (List Char) :=
  match (trimLeft cs).takeWhile (fun c => !isBlank c) with
  | [] => none
  | word => some word

/-- Drops one carriage return from the end. -/
def dropReturn (line : List Char) : List Char :=
  if line.getLast? = some '\r' then line.dropLast else line

/-- The lines of a text without their ends; `current` is the line so far, reversed. -/
def linesFrom : List Char → List Char → List (List Char)
  | [], [] => []
  | current, [] => [current.reverse]
  | current, c :: cs =>
    if c = '\n' then dropReturn current.reverse :: linesFrom [] cs
    else linesFrom (c :: current) cs

/-- A carriage return that no line feed follows stays part of its line. -/
def lines (cs : List Char) : List (List Char) := linesFrom [] cs

/-- The lines that hold something besides blanks. -/
def filledLines (cs : List Char) : List (List Char) :=
  (lines cs).filter fun line => !isBlankText line

end DeviceFilter.Text

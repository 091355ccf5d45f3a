import DeviceFilter.Text.Split

/-!
Paths as plain text. Joining puts one slash between two paths unless the left one is empty or ends
in one, and gives the right path alone when it is absolute; nothing else is normalised. The
components of a path leave out empty parts and inner dots.
-/
set_option autoImplicit false

namespace DeviceFilter

abbrev Path := String

namespace Path

open Text

/-- Joining on character lists. -/
def joinChars (a b : List Char) : List Char :=
  if b.head? = some '/' then b
  else if a = [] ∨ a.getLast? = some '/' then a ++ b
  else a ++ '/' :: b

def join (a b : Path) : Path := String.ofList (joinChars a.toList b.toList)

/-- The text without its leading slashes. -/
def dropSlashes (cs : List Char) : List Char := cs.dropWhile (· == '/')

/-- The parts between slashes, less empty ones and dots; a dot that opens a relative path stays. -/
def components (cs : List Char) : List (List Char) :=
  match split '/' cs with
  | [] => []
  | first :: rest =>
    let kept := rest.filter fun part => part ≠ [] && part ≠ ['.']
    if first = [] then kept else first :: kept

/-- The final component, unless the path ends in its root, in a lone dot or in `..`. -/
def fileName? (cs : List Char) : Option (List Char) :=
  match (components cs).getLast? with
  | some name => if name = ['.'] ∨ name = ['.', '.'] then none else some name
  | none => none

/-- Whether the path is the single component `-`, which stands for the standard input. -/
def isStandardInput (path : Path) : Bool :=
  path.toList.head? != some '/' && components path.toList == [['-']]

end Path

end DeviceFilter

import DeviceFilter.Path
import DeviceFilter.SystemError
import DeviceFilter.Text.Utf8

/-!
What the library needs of a file system, as operations in some monad: reading a file or a link, and
appending to a file that exists.
-/
set_option autoImplicit false

namespace DeviceFilter

structure FileAccess (m : Type → Type) where
  read : Path → m (Except SystemError (List UInt8))
  readLink : Path → m (Except SystemError Path)
  /-- Writes at the end of an existing file; never creates one. -/
  append : Path → List UInt8 → m (Except SystemError Unit)

def SystemError.invalidUtf8 : SystemError :=
  .custom .invalidData "stream did not contain valid UTF-8"

/-- The text in bytes that have to be UTF-8. -/
def textOf (bytes : List UInt8) : Except SystemError String :=
  match Utf8.decode? bytes with
  | some cs => .ok (String.ofList cs)
  | none => .error .invalidUtf8

namespace FileAccess

variable {m : Type → Type} [Monad m]

def readText (files : FileAccess m) (path : Path) : m (Except SystemError String) := do
  return (← files.read path).bind textOf

end FileAccess

end DeviceFilter

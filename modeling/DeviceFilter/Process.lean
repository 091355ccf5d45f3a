import DeviceFilter.Decimal.Integer
import DeviceFilter.Files.Access
import DeviceFilter.Text.Blank

/-!
Processes and their parents. A process table answers who is asking, who started a process and what
a process runs; one is read from the files of a process directory.
-/
set_option autoImplicit false

namespace DeviceFilter

structure ProcessTable (m : Type → Type) where
  current : Int
  parentOf : Int → m (Except SystemError Int)
  /-- The name of the executable or, without one, of the command. -/
  nameOf : Int → m (Except SystemError String)

namespace ProcessTable

/-- Process numbers have 32 signed bits. -/
def readPid? (cs : List Char) : Option Int := Decimal.readInteger? .signed32 cs

/-- The parent in a status text: the first word of the first line that names it. -/
def parentIn? (status : List Char) : Option Int :=
  match (Text.lines status).findSome? (Text.dropLead? ['P', 'P', 'i', 'd', ':']) with
  | none => none
  | some rest => (Text.firstWord? rest).bind readPid?

/-- The name in the target of an executable link; a target without a final component has none. -/
def executableName (target : Path) : String :=
  match Path.fileName? target.toList with
  | some name => String.ofList name
  | none => ""

variable {m : Type → Type} [Monad m]

/-- The table below `directory`, as seen by the process `current`. -/
def ofFiles (files : FileAccess m) (directory : Path) (current : Int) : ProcessTable m :=
  let file (pid : Int) (name : String) : Path := (directory.join (toString pid)).join name
  { current
    parentOf := fun pid => do
      match ← files.readText (file pid "status") with
      | .error e => return .error e
      | .ok status =>
        match parentIn? status.toList with
        | some parent => return .ok parent
        | none =>
          return .error (.custom .invalidData ("PPid not found for pid " ++ toString pid))
    nameOf := fun pid => do
      match ← files.readLink (file pid "exe") with
      | .ok target => return .ok (executableName target)
      | .error _ =>
        match ← files.readText (file pid "comm") with
        | .error e => return .error e
        | .ok name => return .ok (String.ofList (Text.trim name.toList)) }

end ProcessTable

end DeviceFilter

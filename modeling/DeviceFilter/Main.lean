import DeviceFilter.CommandLine.Run
import DeviceFilter.Kernel.SystemCalls

/-!
The program on a real system: files are read and written through the file system, and the own
process is found in the process directory. Program calls cannot be issued from here, so they fail as
on a system without them.
-/
set_option autoImplicit false

namespace DeviceFilter.RealHost

/-- The error number of a failed file operation. -/
def systemErrorOf : IO.Error → SystemError
  | .alreadyExists _ number _ => .errno number.toNat
  | .otherError number _ => .errno number.toNat
  | .resourceBusy number _ => .errno number.toNat
  | .resourceVanished number _ => .errno number.toNat
  | .unsupportedOperation number _ => .errno number.toNat
  | .hardwareFault number _ => .errno number.toNat
  | .unsatisfiedConstraints number _ => .errno number.toNat
  | .illegalOperation number _ => .errno number.toNat
  | .protocolError number _ => .errno number.toNat
  | .timeExpired number _ => .errno number.toNat
  | .interrupted _ number _ => .errno number.toNat
  | .noFileOrDirectory _ number _ => .errno number.toNat
  | .invalidArgument _ number _ => .errno number.toNat
  | .permissionDenied _ number _ => .errno number.toNat
  | .resourceExhausted _ number _ => .errno number.toNat
  | .inappropriateType _ number _ => .errno number.toNat
  | .noSuchThing _ number _ => .errno number.toNat
  | .unexpectedEof => .custom .other "unexpected end of file"
  | .userError text => .custom .other text

def attempt {α : Type} (action : IO α) : IO (Except SystemError α) := do
  match ← action.toBaseIO with
  | .ok value => return .ok value
  | .error e => return .error (systemErrorOf e)

def systemFiles : FileAccess IO where
  read path := attempt do return (← IO.FS.readBinFile path).toList
  readLink path := attempt do return (← IO.FS.realPath path).toString
  append path bytes := attempt do
    let existing ← IO.FS.realPath path
    let handle ← IO.FS.Handle.mk existing .append
    handle.write (ByteArray.mk bytes.toArray)
    handle.flush

/-- Whether there is a directory at a path. -/
def checkDirectory (path : Path) : IO (Except SystemError Unit) := do
  match ← attempt (IO.FS.realPath path) with
  | .error e => return .error e
  | .ok _ =>
    match ← attempt (IO.FS.realPath (Path.join path ".")) with
    | .error _ => return .error (.errno Errno.notDirectory)
    | .ok _ => return .ok ()

/-- Knows directories, but no program calls. -/
def systemCalls : SystemCalls IO where
  openDirectory path := do
    return (← checkDirectory path).map fun () => 3
  bpf call := return ⟨.error Errno.notImplemented, call.request, call.memory⟩
  raiseMemlock := return .error (.errno Errno.notImplemented)

/-- The number that a process's own status begins with. -/
def ownPid : IO Int := do
  let status ← systemFiles.readText "/proc/self/stat"
  let pid? := (Text.firstWord? ((status.toOption.getD "").toList)).bind ProcessTable.readPid?
  return pid?.getD 0

partial def readAll (stream : IO.FS.Stream) (bytes : ByteArray) : IO ByteArray := do
  let more ← stream.read 65536
  if more.isEmpty then return bytes else readAll stream (bytes ++ more)

def systemHost (own : Int) : CommandLine.Host IO UInt32 UInt32 where
  files := systemFiles
  input := attempt do return (← readAll (← IO.getStdin) ByteArray.empty).toList
  processes := ProcessTable.ofFiles systemFiles "/proc" own
  kernel := systemCalls.kernel .native

end DeviceFilter.RealHost

open DeviceFilter RealHost in
def main (args : List String) : IO UInt32 := do
  let outcome ← CommandLine.run (systemHost (← ownPid)) args
  IO.print outcome.output
  IO.eprint outcome.complaint
  return outcome.exitCode

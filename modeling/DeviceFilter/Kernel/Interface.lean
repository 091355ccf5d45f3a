import DeviceFilter.Instruction.Basic
import DeviceFilter.Kernel.ProgramInfo
import DeviceFilter.Path
import DeviceFilter.SystemError

/-!
What the device filter needs of the kernel, as operations in some monad. Opened programs and
cgroups are known by handles of types of the kernel's own.
-/
set_option autoImplicit false

namespace DeviceFilter

/-- Why attached programs could not be listed. -/
inductive QueryError where
  /-- There was no room for as many programs as are attached. -/
  | noSpace (attached : UInt32)
  | system (cause : SystemError)
deriving DecidableEq, Repr

def QueryError.message : QueryError → String
  | noSpace attached => "query buffer too small for " ++ toString attached ++ " programs"
  | system cause => cause.message

/-- How many programs are attached, and the ids written to the front of the caller's buffer. -/
structure QueryReply where
  count : UInt32
  ids : List UInt32
deriving DecidableEq, Repr

/-- A program's record, and the bytes written to the front of the caller's buffer for translated
instructions. -/
structure InfoReply where
  info : ProgramInfo
  translated : List UInt8
deriving DecidableEq, Repr

structure Kernel (m : Type → Type) (Handle Cgroup : Type) where
  openCgroup : Path → m (Except SystemError Cgroup)
  /-- Lists what is attached to a cgroup into a buffer with room for so many ids. -/
  query : Cgroup → Nat → m (Except QueryError QueryReply)
  openProgram : UInt32 → m (Except SystemError Handle)
  /-- Tells about a program, given the sizes of the caller's buffers. -/
  info : Handle → Generation → InfoBuffers → m (Except SystemError InfoReply)
  /-- Takes instructions, license and name. -/
  load : Program → String → String → m (Except SystemError Handle)
  attach : Handle → Cgroup → UInt32 → m (Except SystemError Unit)
  detach : Handle → Cgroup → m (Except SystemError Unit)
  /-- Lifts the limit on locked memory, against which older systems charge programs. -/
  raiseMemlock : m (Except SystemError Unit)

end DeviceFilter

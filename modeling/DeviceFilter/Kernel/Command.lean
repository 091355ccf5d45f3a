/-!
The commands of the program call that the device filter issues.
-/
set_option autoImplicit false

namespace DeviceFilter

inductive BpfCommand where
  | load
  | attach
  | detach
  | openProgram
  | info
  | query
deriving DecidableEq, Repr

namespace BpfCommand

def number : BpfCommand → UInt32
  | load => 5
  | attach => 8
  | detach => 9
  | openProgram => 13
  | info => 15
  | query => 16

def name : BpfCommand → String
  | load => "BPF_PROG_LOAD"
  | attach => "BPF_PROG_ATTACH"
  | detach => "BPF_PROG_DETACH"
  | openProgram => "BPF_PROG_GET_FD_BY_ID"
  | info => "BPF_OBJ_GET_INFO_BY_FD"
  | query => "BPF_PROG_QUERY"

end BpfCommand

/-- The kind of program that decides about devices. -/
def deviceProgramType : UInt32 := 15

/-- The point of a cgroup at which such programs are attached. -/
def deviceAttachType : UInt32 := 6

/-- Lets a cgroup have several programs at one point. -/
def allowMultiple : UInt32 := 2

end DeviceFilter

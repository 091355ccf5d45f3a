import DeviceFilter.Instruction.Codec
import DeviceFilter.Kernel.Command
import DeviceFilter.SystemError

/-!
Failures of working with programs in the kernel.
-/
set_option autoImplicit false

namespace DeviceFilter

inductive BpfError where
  | queryFailed (command : BpfCommand) (cause : SystemError)
  /-- More programs were attached at every try than there was room for. -/
  | queryExhausted (attempts : Nat)
  | decode (cause : Truncated)
  | load (cause : SystemError)
  | attach (cause : SystemError)
  | detach (id : UInt32) (cause : SystemError)
deriving DecidableEq, Repr

namespace BpfError

def message : BpfError → String
  | queryFailed command cause => command.name ++ " failed: " ++ cause.message
  | queryExhausted attempts =>
    "attached programs still changing after " ++ toString attempts ++ " queries"
  | decode cause => "cannot decode program: " ++ cause.message
  | load cause => "failed to load program: " ++ cause.message
  | attach cause => "failed to attach program: " ++ cause.message
  | detach id cause => "failed to detach program " ++ toString id ++ ": " ++ cause.message

/-- Messages of the causes, outermost first. -/
def causes : BpfError → List String
  | queryFailed _ cause => [cause.message]
  | queryExhausted _ => []
  | decode cause => [cause.message]
  | load cause => [cause.message]
  | attach cause => [cause.message]
  | detach _ cause => [cause.message]

end BpfError

end DeviceFilter

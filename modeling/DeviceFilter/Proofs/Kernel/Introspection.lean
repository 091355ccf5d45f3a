import DeviceFilter.Proofs.Instruction.Records
import DeviceFilter.Proofs.Kernel.Trace
import DeviceFilter.Proofs.Simulation.Faithful

/-!
Reading a program back, whatever the kernel replies. The first call has no buffers, and the second
has buffers of the sizes in the first reply. There is a program only if both replies agree on a
length in whole records; its records are then what the second call left in the buffer.
-/
set_option autoImplicit false

namespace DeviceFilter

/-! ## Sizes -/

namespace ProgramInfo

/-- The number of records of an array. -/
def count (i : ProgramInfo) : InfoArray → UInt32
  | .translated => i.translatedLength
  | .jited => i.jitedLength
  | .mapIds => i.mapCount
  | .jitedSymbols => i.jitedSymbolCount
  | .jitedFunctions => i.jitedFunctionCount
  | .functions => i.functionCount
  | .lines => i.lineCount
  | .jitedLines => i.jitedLineCount
  | .tags => i.tagCount

/-- Bytes in one record of an array. -/
def recordSize (i : ProgramInfo) : InfoArray → UInt32
  | .translated => 1
  | .jited => 1
  | .mapIds => 4
  | .jitedSymbols => 8
  | .jitedFunctions => 4
  | .functions => i.functionRecordSize
  | .lines => i.lineRecordSize
  | .jitedLines => i.jitedLineRecordSize
  | .tags => 8

end ProgramInfo

namespace InfoBuffers

variable (i : ProgramInfo)

end InfoBuffers

namespace Kernel

/-! ## Two replies -/

section
variable {sized : ProgramInfo} {filled : InfoReply} {otherLicense : String}

end

/-! ## Runs -/

/-- What the two replies come to. After a failure there is no second one. -/
def introspected (otherLicense : String) :
    Except SystemError InfoReply → Except SystemError InfoReply → Except BpfError DecodedProgram
  | .error cause, _ => .error (.queryFailed .info cause)
  | .ok _, .error cause => .error (.queryFailed .info cause)
  | .ok sized, .ok filled => decodedProgram sized.info filled otherLicense

/-- The calls with these replies. -/
def infoCalls {Handle Cgroup : Type} (handle : Handle) (generation : Generation) :
    Except SystemError InfoReply → Except SystemError InfoReply → Trace Handle Cgroup
  | .error cause, _ => [.info handle generation {} (.error cause)]
  | .ok sized, second =>
    [.info handle generation {} (.ok sized),
      .info handle generation (.sizedFor sized.info) second]

section
variable {σ Handle Cgroup : Type} (k : Kernel (StateM σ) Handle Cgroup)

end

open Simulation

end Kernel

end DeviceFilter

import DeviceFilter.Proofs.Kernel.Generations
import DeviceFilter.Proofs.Kernel.Introspection

/-!
The second question about a program. Its buffers have the sizes that the first answer gave, and the
record that asks says the same of every array as that answer did: as many records, of the same size,
and an address where there is something to write. It says nothing else, so a kernel that knows only
the older generation finds zeros behind it.

Whether a host has the memory for buffers of these sizes is not said here.
-/
set_option autoImplicit false

namespace DeviceFilter

namespace ProgramInfo

/-- Where the record says that an array lies. -/
def arrayAddress (i : ProgramInfo) : InfoArray → UInt64
  | .translated => i.translatedAddress
  | .jited => i.jitedAddress
  | .mapIds => i.mapIdsAddress
  | .jitedSymbols => i.jitedSymbolsAddress
  | .jitedFunctions => i.jitedFunctionsAddress
  | .functions => i.functionsAddress
  | .lines => i.linesAddress
  | .jitedLines => i.jitedLinesAddress
  | .tags => i.tagsAddress

end ProgramInfo

namespace InfoBuffers

open ProgramInfo

variable (i : ProgramInfo) (address : InfoArray → UInt64)

end InfoBuffers

end DeviceFilter

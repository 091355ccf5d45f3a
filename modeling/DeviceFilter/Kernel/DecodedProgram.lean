import DeviceFilter.Kernel.Failure
import DeviceFilter.Kernel.Interface

/-!
Reading a program back from the kernel, in two calls: one without buffers to learn the sizes, one
with buffers of exactly these sizes. A program whose length differs between the calls is refused,
since half of the bytes might belong to another one.
-/
set_option autoImplicit false

namespace DeviceFilter

structure DecodedProgram where
  instructions : Program
  license : String
  info : ProgramInfo
deriving DecidableEq, Repr

namespace Kernel

/-- The license of a program that is compatible with it; the kernel keeps no other. -/
def gplLicense : String := "GPL"

def lengthChanged (id before after : UInt32) : SystemError :=
  .custom .other ("program " ++ toString id ++ " changed between calls: translated length "
    ++ toString before ++ " then " ++ toString after)

/-- The program in two replies, the second of which was to fill buffers of the sizes in the
first. -/
def decodedProgram (sized : ProgramInfo) (filled : InfoReply) (otherLicense : String) :
    Except BpfError DecodedProgram :=
  if filled.info.translatedLength ≠ sized.translatedLength then
    .error (.queryFailed .info
      (lengthChanged sized.id sized.translatedLength filled.info.translatedLength))
  else
    let buffer := Layout.fit (InfoBuffers.sizedFor sized).translated filled.translated
    match Program.decode .native buffer with
    | .error cause => .error (.decode cause)
    | .ok instructions =>
      .ok { instructions
            license := if filled.info.gplCompatible then gplLicense else otherLicense
            info := filled.info }

variable {m : Type → Type} [Monad m] {Handle Cgroup : Type} (k : Kernel m Handle Cgroup)

def readProgram (handle : Handle) (generation : Generation) (otherLicense : String) :
    m (Except BpfError DecodedProgram) := do
  match ← k.info handle generation {} with
  | .error cause => return .error (.queryFailed .info cause)
  | .ok sized =>
    match ← k.info handle generation (InfoBuffers.sizedFor sized.info) with
    | .error cause => return .error (.queryFailed .info cause)
    | .ok filled => return decodedProgram sized.info filled otherLicense

end Kernel

end DeviceFilter

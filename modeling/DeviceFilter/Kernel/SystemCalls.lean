import DeviceFilter.Kernel.Command
import DeviceFilter.Kernel.Interface
import DeviceFilter.Kernel.ObjectName
import DeviceFilter.Kernel.Requests
import DeviceFilter.Instruction.Codec
import DeviceFilter.Text.Blank

/-!
The kernel behind its system calls. A program call has a packed request, in which parts of the
caller's memory are named by address, and writes its answer into the request and that memory.
Handles are descriptor numbers.

A load that fails is tried once more with room for the verifier's log, so that the error can say
what the verifier said.
-/
set_option autoImplicit false

namespace DeviceFilter

/-- A stretch of memory: what it begins with, followed by zero bytes up to its size. -/
structure MemoryRegion where
  address : UInt64
  size : Nat
  bytes : List UInt8
deriving DecidableEq, Repr

namespace MemoryRegion

def ofBytes (address : UInt64) (bytes : List UInt8) : MemoryRegion :=
  ⟨address, bytes.length, bytes⟩

def zeroed (address : UInt64) (size : Nat) : MemoryRegion := ⟨address, size, []⟩

/-- Writes at the start, as far as there is room. -/
def write (r : MemoryRegion) (bytes : List UInt8) : MemoryRegion :=
  { r with bytes := bytes.take r.size ++ r.bytes.drop bytes.length }

end MemoryRegion

abbrev Memory := List MemoryRegion

namespace Memory

def region? (memory : Memory) (address : UInt64) : Option MemoryRegion :=
  memory.find? (·.address == address)

/-- The first `size` bytes of the region at an address; none of them where there is no region. -/
def read (memory : Memory) (address : UInt64) (size : Nat) : List UInt8 :=
  match memory.region? address with
  | some r => Layout.fit (min size r.size) r.bytes
  | none => []

def write (memory : Memory) (address : UInt64) (bytes : List UInt8) : Memory :=
  memory.map fun r => if r.address == address then r.write bytes else r

end Memory

/-- A program call and the memory that its request may name. -/
structure BpfCall where
  command : BpfCommand
  request : List UInt8
  memory : Memory
deriving DecidableEq, Repr

/-- A descriptor or zero, or an error number; and what became of request and memory. -/
structure BpfReply where
  result : Except Nat UInt32
  request : List UInt8
  memory : Memory

structure SystemCalls (m : Type → Type) where
  /-- Gives a descriptor of a directory. -/
  openDirectory : Path → m (Except SystemError UInt32)
  bpf : BpfCall → m BpfReply
  raiseMemlock : m (Except SystemError Unit)

namespace SystemCalls

/-- How far apart the regions of one call lie. -/
def stride : Nat := 0x1000000000000

def address (slot : Nat) : UInt64 := UInt64.ofNat ((slot + 1) * stride)

/-- Slots of the arrays; slot 0 is the record's. -/
def arraySlot : InfoArray → Nat
  | .translated => 1
  | .jited => 2
  | .mapIds => 3
  | .jitedSymbols => 4
  | .jitedFunctions => 5
  | .functions => 6
  | .lines => 7
  | .jitedLines => 8
  | .tags => 9

def arrayAddress (array : InfoArray) : UInt64 := address (arraySlot array)

/-- Error numbers without a name of their own are reported as zero. -/
def failure (number : Nat) : SystemError :=
  .errno (if Errno.isNamed number then number else 0)

/-- Numbers of four bytes one after another. -/
def words (order : ByteOrder) : List UInt8 → List UInt32
  | a :: b :: c :: d :: rest => UInt32.ofNat (order.value [a, b, c, d]) :: words order rest
  | _ => []

variable {m : Type → Type} [Monad m] (order : ByteOrder) (calls : SystemCalls m)

/-- A call that answers with a descriptor. -/
def descriptor (call : BpfCall) : m (Except SystemError UInt32) := do
  return (← calls.bpf call).result.mapError failure

/-- A call that answers with nothing. -/
def perform (call : BpfCall) : m (Except SystemError Unit) := do
  match (← calls.bpf call).result with
  | .ok _ => return .ok ()
  | .error number => return .error (failure number)

def query (cgroup : UInt32) (capacity : Nat) : m (Except QueryError QueryReply) := do
  let request : QueryRequest :=
    { target := cgroup
      attachType := deviceAttachType
      idsAddress := address 0
      count := UInt32.ofNat capacity }
  let reply ← calls.bpf
    { command := .query
      request := request.pack order
      memory := [.zeroed (address 0) (4 * capacity)] }
  let answer := QueryRequest.unpack order reply.request
  match reply.result with
  | .ok _ =>
    let size := 4 * min answer.count.toNat capacity
    return .ok ⟨answer.count, words order (reply.memory.read (address 0) size)⟩
  | .error number =>
    if number = Errno.noSpace then return .error (.noSpace answer.count)
    else return .error (.system (failure number))

def openProgram (id : UInt32) : m (Except SystemError UInt32) :=
  let request : OpenRequest := { id }
  calls.descriptor { command := .openProgram, request := request.pack order, memory := [] }

/-- The record is read as far as the kernel wrote it. -/
def info (program : UInt32) (generation : Generation) (buffers : InfoBuffers) :
    m (Except SystemError InfoReply) := do
  let wanted := (buffers.request arrayAddress).pack generation order
  let request : InfoRequest :=
    { program, length := UInt32.ofNat wanted.length, recordAddress := address 0 }
  let arrays := (InfoArray.all.filter (buffers.size · ≠ 0)).map fun array =>
    MemoryRegion.zeroed (arrayAddress array) (buffers.size array)
  let reply ← calls.bpf
    { command := .info
      request := request.pack order
      memory := .ofBytes (address 0) wanted :: arrays }
  match reply.result with
  | .error number => return .error (failure number)
  | .ok _ =>
    let written := (InfoRequest.unpack order reply.request).length.toNat
    let record := reply.memory.read (address 0) (min written wanted.length)
    return .ok
      { info := ProgramInfo.unpack generation order record
        translated := reply.memory.read (arrayAddress .translated) buffers.translated }

/-! ## Loading -/

/-- Room for the verifier's log. -/
def logSize : Nat := 64 * 1024

/-- The first attempt, without a log. -/
def firstLoad (instructions : Program) (name : String) : LoadRequest where
  type := deviceProgramType
  instructionCount := UInt32.ofNat instructions.length
  instructionsAddress := address 0
  licenseAddress := address 1
  name := ObjectName.ofText name
  attachType := deviceAttachType

/-- The second attempt, with a log. -/
def loggedLoad (instructions : Program) (name : String) : LoadRequest :=
  { firstLoad instructions name with
    logLevel := 1
    logSize := UInt32.ofNat logSize
    logAddress := address 2 }

/-- A license must not hold a zero byte, which would end it; the text names its position. -/
def zeroByteAt (position : Nat) : SystemError :=
  .custom .invalidInput ("nul byte found in provided data at position: " ++ toString position)

/-- What the log says up to its first zero byte, less blanks around it. -/
def logText (log : List UInt8) : List Char :=
  Text.trim (Utf8.decodeLossy (log.takeWhile (· != 0)))

/-- The failure of a load whose second attempt left this log. -/
def loadFailure (first : SystemError) (log : List UInt8) : SystemError :=
  match logText log with
  | [] => first
  | said => .custom first.kind (first.message ++ ": " ++ String.ofList said)

def load (instructions : Program) (license name : String) : m (Except SystemError UInt32) :=
  let licenseBytes := Utf8.encode license.toList
  match licenseBytes.findIdx? (· == 0) with
  | some position => return .error (zeroByteAt position)
  | none => do
    let memory : Memory :=
      [.ofBytes (address 0) (instructions.encode order), .ofBytes (address 1) (licenseBytes ++ [0])]
    let first ← calls.bpf
      { command := .load, request := (firstLoad instructions name).pack order, memory }
    match first.result with
    | .ok handle => return .ok handle
    | .error number =>
      let second ← calls.bpf
        { command := .load
          request := (loggedLoad instructions name).pack order
          memory := memory ++ [.zeroed (address 2) logSize] }
      match second.result with
      | .ok handle => return .ok handle
      | .error _ =>
        return .error (loadFailure (failure number) (second.memory.read (address 2) logSize))

/-! ## Attaching -/

def attach (program cgroup flags : UInt32) : m (Except SystemError Unit) :=
  let request : AttachRequest :=
    { target := cgroup, program, attachType := deviceAttachType, flags }
  calls.perform { command := .attach, request := request.pack order, memory := [] }

def detach (program cgroup : UInt32) : m (Except SystemError Unit) :=
  let request : AttachRequest := { target := cgroup, program, attachType := deviceAttachType }
  calls.perform { command := .detach, request := request.pack order, memory := [] }

/-- The kernel that answers these calls, on a host of the given byte order. -/
def kernel : Kernel m UInt32 UInt32 where
  openCgroup := calls.openDirectory
  query := calls.query order
  openProgram := calls.openProgram order
  info := calls.info order
  load := calls.load order
  attach := calls.attach order
  detach := calls.detach order
  raiseMemlock := calls.raiseMemlock

end SystemCalls

end DeviceFilter

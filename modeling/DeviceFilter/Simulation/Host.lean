import DeviceFilter.Files.Tree
import DeviceFilter.Kernel.SystemCalls
import DeviceFilter.Simulation.Fault

/-!
System calls of a host in memory. Program calls are answered from the packed requests and the memory
they name, as the kernel answers them; attaching and detaching leave what is listed as it was.
Directories are those of a file tree in the state.
-/
set_option autoImplicit false

namespace DeviceFilter.Simulation

structure HostProgram where
  id : UInt32
  translated : List UInt8
  /-- The parts of the record that do not follow from id and instructions. -/
  info : ProgramInfo := {}

inductive Descriptor where
  | directory (path : Path)
  | program (id : UInt32)
deriving DecidableEq, Repr

structure PlannedFault where
  point : FaultPoint
  /-- Zero stands for any program. -/
  id : UInt32
  number : Nat
  /-- How often it will still happen, if not always. -/
  remaining : Option Nat
deriving DecidableEq, Repr

/-- A call as noted, with the sizes of its requests and what its descriptors were opened on. -/
inductive HostCall where
  | query (size : Nat) (request : QueryRequest) (target : Path)
  | openProgram (size : Nat) (request : OpenRequest)
  | info (size : Nat) (request : InfoRequest) (program : UInt32) (record : ProgramInfo)
  | load (size : Nat) (request : LoadRequest) (license instructions : List UInt8)
  | attach (size : Nat) (request : AttachRequest) (program : UInt32) (target : Path)
  | detach (size : Nat) (request : AttachRequest) (program : UInt32) (target : Path)

structure HostState where
  programs : List HostProgram := []
  /-- The next program gets the id after this one. -/
  lastId : UInt32 := 0
  attached : List UInt32 := []
  /-- How much of a program's record this host knows. -/
  recordSize : Nat := 232
  verifierLog : List UInt8 := []
  faults : List PlannedFault := []
  descriptors : List Descriptor := []
  calls : List HostCall := []

/-- Takes the first fault that fits, if one is left, and counts it down. -/
def takeFault (point : FaultPoint) (id : UInt32) :
    List PlannedFault → Option Nat × List PlannedFault
  | [] => (none, [])
  | f :: fs =>
    if f.point = point ∧ (f.id = 0 ∨ f.id = id) ∧ f.remaining ≠ some 0 then
      (some f.number, { f with remaining := f.remaining.map (· - 1) } :: fs)
    else
      let (number, rest) := takeFault point id fs
      (number, f :: rest)

namespace HostState

/-- The first descriptor number that is given. -/
def firstDescriptor : Nat := 3

def descriptor? (s : HostState) (n : UInt32) : Option Descriptor :=
  if n.toNat < firstDescriptor then none else s.descriptors[n.toNat - firstDescriptor]?

/-- What a descriptor of a directory was opened on. -/
def directoryOf (s : HostState) (n : UInt32) : Path :=
  match s.descriptor? n with
  | some (.directory path) => path
  | _ => ""

/-- The program of a descriptor; no program has the id zero. -/
def programOf (s : HostState) (n : UInt32) : UInt32 :=
  match s.descriptor? n with
  | some (.program id) => id
  | _ => 0

def program? (s : HostState) (id : UInt32) : Option HostProgram :=
  s.programs.find? (·.id == id)

def nextId (s : HostState) : UInt32 := s.lastId + 1

/-- Makes the ids of new programs follow the largest one. -/
def continueIds (s : HostState) : HostState :=
  { s with lastId := s.programs.foldl (fun n p => max n p.id) 0 }

/-- The whole record of a program. -/
def recordOf (order : ByteOrder) (p : HostProgram) : List UInt8 :=
  let info : ProgramInfo :=
    { p.info with
      type := deviceProgramType
      id := p.id
      translatedLength := UInt32.ofNat p.translated.length }
  info.pack .late order

end HostState

namespace SimulatedHost

variable {m : Type → Type} [Monad m] [MonadStateOf HostState m] [MonadStateOf FileTree m]
  (order : ByteOrder)

def state : m HostState := getThe HostState

def note (call : HostCall) : m Unit :=
  modifyThe HostState fun s => { s with calls := s.calls ++ [call] }

/-- Whether a fault happens now. -/
def fault? (point : FaultPoint) (id : UInt32) : m (Option Nat) := do
  let (number, rest) := takeFault point id (← state).faults
  modifyThe HostState fun s => { s with faults := rest }
  return number

/-- Gives a new descriptor. -/
def newDescriptor (d : Descriptor) : m UInt32 := do
  let number := HostState.firstDescriptor + (← state).descriptors.length
  modifyThe HostState fun s => { s with descriptors := s.descriptors ++ [d] }
  return UInt32.ofNat number

def openDirectory (path : Path) : m (Except SystemError UInt32) := do
  match (← getThe FileTree).openDirectory path with
  | .error cause => return .error cause
  | .ok place => return .ok (← newDescriptor (.directory (FileTree.pathOf place)))

def failed (call : BpfCall) (number : Nat) : BpfReply :=
  ⟨.error number, call.request, call.memory⟩

def succeeded (call : BpfCall) (value : UInt32) : BpfReply :=
  ⟨.ok value, call.request, call.memory⟩

/-- Ids and count are written even if the call fails. -/
def query (call : BpfCall) : m BpfReply := do
  let request := QueryRequest.unpack order call.request
  let s ← state
  note (.query call.request.length request (s.directoryOf request.target))
  let fitting := s.attached.take request.count.toNat
  let ids := fitting.flatMap fun id => order.bytes 4 id.toNat
  let answer := { request with count := UInt32.ofNat s.attached.length }
  let reply (result : Except Nat UInt32) : BpfReply :=
    ⟨result, answer.pack order, call.memory.write request.idsAddress ids⟩
  match ← fault? .query 0 with
  | some number => return reply (.error number)
  | none =>
    if request.count.toNat < s.attached.length then return reply (.error Errno.noSpace)
    else return reply (.ok 0)

def openProgram (call : BpfCall) : m BpfReply := do
  let request := OpenRequest.layout.unpack order {} call.request
  note (.openProgram call.request.length request)
  match ← fault? .openProgram request.id with
  | some number => return failed call number
  | none =>
    if ((← state).program? request.id).isSome then
      return succeeded call (← newDescriptor (.program request.id))
    else return failed call Errno.noEntry

def info (call : BpfCall) : m BpfReply := do
  let request := InfoRequest.unpack order call.request
  let s ← state
  let id := s.programOf request.program
  let wanted := ProgramInfo.unpack .late order
    (call.memory.read request.recordAddress request.length.toNat)
  note (.info call.request.length request id wanted)
  match ← fault? (if wanted.translatedLength = 0 then .info else .contents) id with
  | some number => return failed call number
  | none =>
    match s.program? id with
    | none => return failed call Errno.badDescriptor
    | some p =>
      let written := min request.length.toNat s.recordSize
      let contents := p.translated.take wanted.translatedLength.toNat
      let memory := call.memory.write wanted.translatedAddress contents
      return {
        result := .ok 0
        request := InfoRequest.pack order { request with length := UInt32.ofNat written }
        memory := memory.write request.recordAddress
          (Layout.fit written (HostState.recordOf order p)) }

/-- A load that fails leaves the verifier's log, if room for it was given. -/
def load (call : BpfCall) : m BpfReply := do
  let request := LoadRequest.layout.unpack order {} call.request
  let s ← state
  let instructions :=
    call.memory.read request.instructionsAddress (8 * request.instructionCount.toNat)
  let license := match call.memory.region? request.licenseAddress with
    | some r => r.bytes.takeWhile (· != 0)
    | none => []
  note (.load call.request.length request license instructions)
  match ← fault? .load s.nextId with
  | some number =>
    if request.logLevel = 0 then return failed call number
    else
      let log := s.verifierLog.take request.logSize.toNat
      return { failed call number with memory := call.memory.write request.logAddress log }
  | none =>
    let program : HostProgram :=
      { id := s.nextId, translated := instructions, info := { name := request.name } }
    modifyThe HostState fun s =>
      { s with programs := s.programs ++ [program], lastId := program.id }
    return succeeded call (← newDescriptor (.program program.id))

/-- Attaching and detaching have the same request. -/
def change (call : BpfCall) (point : FaultPoint)
    (noted : Nat → AttachRequest → UInt32 → Path → HostCall) : m BpfReply := do
  let request := AttachRequest.layout.unpack order {} call.request
  let s ← state
  let id := s.programOf request.program
  note (noted call.request.length request id (s.directoryOf request.target))
  match ← fault? point id with
  | some number => return failed call number
  | none => return succeeded call 0

def bpf (call : BpfCall) : m BpfReply :=
  match call.command with
  | .load => load order call
  | .attach => change order call .attach .attach
  | .detach => change order call .detach .detach
  | .openProgram => openProgram order call
  | .info => info order call
  | .query => query order call

def systemCalls : SystemCalls m where
  openDirectory := openDirectory
  bpf := bpf order
  raiseMemlock := return .ok ()

end SimulatedHost

end DeviceFilter.Simulation

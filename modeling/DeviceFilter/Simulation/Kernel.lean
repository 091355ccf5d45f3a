import DeviceFilter.Instruction.Codec
import DeviceFilter.Kernel.Interface
import DeviceFilter.Kernel.ObjectName
import DeviceFilter.Simulation.Fault

/-!
A kernel in memory. It keeps loaded programs by id and the ids attached to each cgroup in order,
and notes every call. Without planned faults and replies it does what it is asked; a planned fault
makes a call fail for one program or for any, and planned replies take the place of listings.

Handles of programs are their ids, and handles of cgroups their paths.
-/
set_option autoImplicit false

namespace DeviceFilter.Simulation

structure StoredProgram where
  translated : List UInt8
  license : String
  name : String
  /-- Compatibility with the GPL, if it is not for the license to say. -/
  gplCompatible : Option Bool := none
  /-- The parts of the record that the kernel does not fill in itself. -/
  info : ProgramInfo := {}
  /-- Lengths to report in place of the true one, each once. -/
  reportedLengths : List UInt32 := []
deriving DecidableEq, Repr

inductive KernelCall where
  | openCgroup (path : Path)
  | query (path : Path) (capacity : Nat)
  | openProgram (id : UInt32)
  | info (id : UInt32) (generation : Generation) (buffers : InfoBuffers)
  | load (id : UInt32) (instructions : Program) (license name : String)
  | attach (id : UInt32) (path : Path) (flags : UInt32)
  | detach (id : UInt32) (path : Path)
  | raiseMemlock
deriving DecidableEq, Repr

structure KernelState where
  programs : List (UInt32 × StoredProgram) := []
  lastId : UInt32 := 0
  attached : List (Path × List UInt32) := []
  /-- Error numbers of planned faults; id zero stands for any. -/
  faults : List ((FaultPoint × UInt32) × Nat) := []
  plannedReplies : List (Except QueryError UInt32) := []
  calls : List KernelCall := []

namespace KernelState

def attachedTo (s : KernelState) (path : Path) : List UInt32 := (s.attached.lookup path).getD []

def program? (s : KernelState) (id : UInt32) : Option StoredProgram := s.programs.lookup id

/-- A fault planned for this very program goes before one for any. -/
def fault? (s : KernelState) (point : FaultPoint) (id : UInt32) : Option Nat :=
  match s.faults.lookup (point, id) with
  | some number => some number
  | none => s.faults.lookup (point, 0)

/-- Plans a fault, or with `none` takes it back. -/
def planFault (s : KernelState) (point : FaultPoint) (id : UInt32) (number : Option Nat) :
    KernelState :=
  let others := s.faults.filter (·.1 ≠ (point, id))
  match number with
  | some n => { s with faults := ((point, id), n) :: others }
  | none => { s with faults := others }

def nextId (s : KernelState) : UInt32 := s.lastId + 1

/-- Keeps a program under the next id. -/
def addProgram (s : KernelState) (p : StoredProgram) : KernelState :=
  { s with programs := (s.nextId, p) :: s.programs, lastId := s.nextId }

def setProgram (s : KernelState) (id : UInt32) (p : StoredProgram) : KernelState :=
  { s with programs := s.programs.map fun q => if q.1 = id then (id, p) else q }

/-- Puts `ids` in the place of what is attached to a cgroup. -/
def setAttached (s : KernelState) (path : Path) (ids : List UInt32) : KernelState :=
  if (s.attached.lookup path).isSome then
    { s with attached := s.attached.map fun e => if e.1 = path then (path, ids) else e }
  else { s with attached := s.attached ++ [(path, ids)] }

def attachId (s : KernelState) (path : Path) (id : UInt32) : KernelState :=
  s.setAttached path (s.attachedTo path ++ [id])

/-- Loads a program and attaches it, so many times. -/
def install (s : KernelState) (path : Path) (p : StoredProgram) : Nat → KernelState
  | 0 => s
  | times + 1 =>
    let s := s.addProgram p
    install (s.attachId path s.lastId) path p times

/-- What is attached to a cgroup, as far as it is known. -/
def attachedPrograms (s : KernelState) (path : Path) : List (UInt32 × StoredProgram) :=
  (s.attachedTo path).filterMap fun id => (s.program? id).map fun p => (id, p)

/-- The record of a program, as exchanged in one generation. -/
def infoOf (id : UInt32) (p : StoredProgram) (generation : Generation) : ProgramInfo :=
  let info : ProgramInfo :=
    { p.info with
      type := 15
      id
      translatedLength := p.reportedLengths.head?.getD (UInt32.ofNat p.translated.length)
      name := ObjectName.ofText p.name
      gplCompatible := p.gplCompatible.getD (p.license == "GPL") }
  ProgramInfo.unpack generation .native (info.pack generation .native)

end KernelState

namespace SimulatedKernel

variable {m : Type → Type} [Monad m] [MonadStateOf KernelState m]

def state : m KernelState := getThe KernelState

def note (call : KernelCall) : m Unit :=
  modifyThe KernelState fun s => { s with calls := s.calls ++ [call] }

/-- Goes on unless a fault is planned here. -/
def unlessFault {α : Type} (point : FaultPoint) (id : UInt32)
    (action : m (Except SystemError α)) : m (Except SystemError α) := do
  match (← state).fault? point id with
  | some number => return .error (.errno number)
  | none => action

def openCgroup (path : Path) : m (Except SystemError Path) := do
  note (.openCgroup path)
  unlessFault .openCgroup 0 (return .ok path)

def query (path : Path) (capacity : Nat) : m (Except QueryError QueryReply) := do
  note (.query path capacity)
  let s ← state
  let ids := s.attachedTo path
  match s.plannedReplies with
  | reply :: rest =>
    modifyThe KernelState fun s => { s with plannedReplies := rest }
    return reply.map fun count => ⟨count, ids.take capacity⟩
  | [] =>
    let count := UInt32.ofNat ids.length
    if capacity < ids.length then return .error (.noSpace count) else return .ok ⟨count, ids⟩

def openProgram (id : UInt32) : m (Except SystemError UInt32) := do
  note (.openProgram id)
  unlessFault .openProgram id do
    if ((← state).program? id).isSome then return .ok id
    else return .error (.errno Errno.noEntry)

/-- The record of a known program and as much of its instructions as there is room for. -/
def answerInfo (id : UInt32) (generation : Generation) (buffers : InfoBuffers) :
    m (Except SystemError InfoReply) := do
  match (← state).program? id with
  | none => return .error (.errno Errno.badDescriptor)
  | some p =>
    modifyThe KernelState fun s =>
      s.setProgram id { p with reportedLengths := p.reportedLengths.tail }
    return .ok ⟨KernelState.infoOf id p generation, p.translated.take buffers.translated⟩

def info (id : UInt32) (generation : Generation) (buffers : InfoBuffers) :
    m (Except SystemError InfoReply) := do
  note (.info id generation buffers)
  unlessFault .info id
    (if buffers.translated = 0 then answerInfo id generation buffers
    else unlessFault .contents id (answerInfo id generation buffers))

def load (instructions : Program) (license name : String) : m (Except SystemError UInt32) := do
  let id := (← state).nextId
  note (.load id instructions license name)
  unlessFault .load id do
    modifyThe KernelState (·.addProgram
      { translated := instructions.encode .native, license, name })
    return .ok id

def attach (id : UInt32) (path : Path) (flags : UInt32) : m (Except SystemError Unit) := do
  note (.attach id path flags)
  unlessFault .attach id do
    modifyThe KernelState (·.attachId path id)
    return .ok ()

/-- Takes the first occurrence away; a cgroup left without programs stays known. -/
def detach (id : UInt32) (path : Path) : m (Except SystemError Unit) := do
  note (.detach id path)
  unlessFault .detach id do
    let ids := (← state).attachedTo path
    if ids.contains id then
      modifyThe KernelState (·.setAttached path (ids.erase id))
      return .ok ()
    else return .error (.errno Errno.noEntry)

def raiseMemlock : m (Except SystemError Unit) := do
  note .raiseMemlock
  unlessFault .raiseMemlock 0 (return .ok ())

def kernel : Kernel m UInt32 Path where
  openCgroup := openCgroup
  query := query
  openProgram := openProgram
  info := info
  load := load
  attach := attach
  detach := detach
  raiseMemlock := raiseMemlock

end SimulatedKernel

end DeviceFilter.Simulation

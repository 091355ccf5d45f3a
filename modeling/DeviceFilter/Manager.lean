import DeviceFilter.Config
import DeviceFilter.Kernel.Attached
import DeviceFilter.Kernel.DecodedProgram
import DeviceFilter.Process
import DeviceFilter.Program.Compile

/-!
Device rules of a cgroup as programs in the kernel. New rules are merged in front of each program
that is attached, so that a cgroup keeps as many programs as it had; without any, one program is
built on the configured fallback.

An application first reads and merges everything, then loads all merged programs, then detaches the
old ones, then attaches the new ones. Nothing is undone: a failure from the first detachment on can
leave the cgroup half updated.
-/
set_option autoImplicit false

namespace DeviceFilter

inductive FilterError where
  | openCgroup (path : Path) (cause : SystemError)
  | compile (cause : CompileError)
  | bpf (cause : BpfError)
deriving DecidableEq, Repr

namespace FilterError

def message : FilterError → String
  | openCgroup path cause => "cannot open cgroup " ++ path ++ ": " ++ cause.message
  | compile cause => cause.message
  | bpf cause => cause.message

/-- Messages of the causes, outermost first. -/
def causes : FilterError → List String
  | openCgroup _ cause => [cause.message]
  | compile cause => [cause.message]
  | bpf cause => cause.message :: cause.causes

end FilterError

inductive ApplyOutcome where
  /-- Another manager owns the cgroup's program; nothing was done. -/
  | externallyManaged
  | replaced (detached attached : Nat)
deriving DecidableEq, Repr

/-- A program to be loaded, and the license to load it under. -/
structure Replacement where
  instructions : Program
  license : String
deriving DecidableEq, Repr

structure Manager (m : Type → Type) (Handle Cgroup : Type) where
  kernel : Kernel m Handle Cgroup
  processes : ProcessTable m
  config : Config

namespace Manager

variable {m : Type → Type} [Monad m] {Handle Cgroup : Type} (manager : Manager m Handle Cgroup)

/-- Whether the last component of the path ends like that of a managed cgroup. -/
def hasScopeName (suffix : String) (path : Path) : Bool :=
  match Path.fileName? path.toList with
  | some name => suffix.toList.isSuffixOf name
  | none => false

/-- Whether one of the next `hops` ancestors of a process is named like a known manager. An
ancestor without a readable name is passed over; one without a readable parent ends the search, and
so does the first process. -/
def hasManagerAbove : Nat → Int → m Bool
  | 0, _ => return false
  | hops + 1, pid => do
    match ← manager.processes.parentOf pid with
    | .error _ => return false
    | .ok parent =>
      if parent ≤ 1 then return false
      else match ← manager.processes.nameOf parent with
        | .ok name =>
          if manager.config.externalManager.managers.contains name then return true
          else hasManagerAbove hops parent
        | .error _ => hasManagerAbove hops parent

/-- Whether a cgroup's program is left to another manager. -/
def isExternallyManaged (path : Path) : m Bool :=
  let external := manager.config.externalManager
  if external.enabled && hasScopeName external.scopeSuffix path then
    manager.hasManagerAbove external.maxAncestors manager.processes.current
  else return false

def openCgroup (path : Path) : Counted FilterError m Cgroup :=
  Counted.ofExceptWith (.openCgroup path) (manager.kernel.openCgroup path)

def listAttached (cgroup : Cgroup) : Counted FilterError m (List (Attached Handle)) :=
  (manager.kernel.listAttached cgroup).adapt .bpf

def readProgram (handle : Handle) : Counted FilterError m DecodedProgram :=
  Counted.ofExceptWith .bpf
    (manager.kernel.readProgram handle manager.config.generation manager.config.license)

def readAll : List (Attached Handle) → Counted FilterError m (List DecodedProgram)
  | [] => return []
  | old :: rest => do
    let program ← manager.readProgram old.handle
    return program :: (← readAll rest)

/-- The programs attached to a cgroup. -/
def inspect (path : Path) : Counted FilterError m (List DecodedProgram) := do
  let cgroup ← manager.openCgroup path
  manager.readAll (← manager.listAttached cgroup)

/-! ## Merging -/

/-- Rules in front of a program that is attached. -/
def mergedWith (rules : List DeviceRule) (old : DecodedProgram) :
    Except FilterError Replacement :=
  match Program.compile old.instructions rules with
  | .error cause => .error (.compile cause)
  | .ok instructions =>
    .ok { instructions
          license := if manager.config.inheritLicense then old.license
            else manager.config.license }

/-- Rules in front of the fallback. -/
def fresh (rules : List DeviceRule) : Except FilterError Replacement :=
  match Program.compile (Program.constant manager.config.fallback.allows) rules with
  | .error cause => .error (.compile cause)
  | .ok instructions => .ok { instructions, license := manager.config.license }

/-- Reads and merges one program after another. -/
def mergeAll (rules : List DeviceRule) :
    List (Attached Handle) → Counted FilterError m (List Replacement)
  | [] => return []
  | old :: rest => do
    let program ← manager.readProgram old.handle
    let replacement ← ExceptT.mk (return manager.mergedWith rules program)
    return replacement :: (← mergeAll rules rest)

/-- What will take the place of the attached programs. -/
def replacements (rules : List DeviceRule) (attached : List (Attached Handle)) :
    Counted FilterError m (List Replacement) :=
  match attached with
  | [] => do return [← ExceptT.mk (return manager.fresh rules)]
  | attached => manager.mergeAll rules attached

/-! ## Replacing -/

def loadAll : List Replacement → Counted FilterError m (List Handle)
  | [] => return []
  | r :: rest => do
    let handle ← Counted.ofExceptWith (fun cause => .bpf (.load cause))
      (manager.kernel.load r.instructions r.license manager.config.programName)
    Counted.count .loaded 1
    return handle :: (← loadAll rest)

def detachAll (cgroup : Cgroup) : List (Attached Handle) → Counted FilterError m Unit
  | [] => return
  | old :: rest => do
    Counted.ofExceptWith (fun cause => .bpf (.detach old.id cause))
      (manager.kernel.detach old.handle cgroup)
    Counted.count .detached 1
    detachAll cgroup rest

def attachAll (cgroup : Cgroup) : List Handle → Counted FilterError m Unit
  | [] => return
  | handle :: rest => do
    Counted.ofExceptWith (fun cause => .bpf (.attach cause))
      (manager.kernel.attach handle cgroup allowMultiple)
    Counted.count .attached 1
    attachAll cgroup rest

/-- Replaces the programs of a cgroup that no other manager owns. Loading may work without the
raised limit, so a failure to raise it is passed over. -/
def replace (path : Path) (rules : List DeviceRule) : Counted FilterError m ApplyOutcome := do
  let cgroup ← manager.openCgroup path
  let attached ← manager.listAttached cgroup
  let merged ← manager.replacements rules attached
  Counted.count .rulesCompiled (rules.length * merged.length)
  let _ ← manager.kernel.raiseMemlock
  let loaded ← manager.loadAll merged
  manager.detachAll cgroup attached
  manager.attachAll cgroup loaded
  return .replaced attached.length loaded.length

def applyUncounted (path : Path) (rules : List DeviceRule) :
    Counted FilterError m ApplyOutcome := do
  if ← manager.isExternallyManaged path then return .externallyManaged
  else manager.replace path rules

/-- How an application is counted. -/
def outcomeLabel : Except FilterError ApplyOutcome → AppliedAs
  | .ok .externallyManaged => .externallyManaged
  | .ok (.replaced _ _) => .replaced
  | .error _ => .error

/-- Merges rules into the programs of a cgroup. -/
def apply (path : Path) (rules : List DeviceRule) : Counted FilterError m ApplyOutcome :=
  ExceptT.mk do
    let result ← (manager.applyUncounted path rules).run
    modify (·.add (.applied .v2 (outcomeLabel result)) 1)
    return result

end Manager

end DeviceFilter

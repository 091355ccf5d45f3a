import DeviceFilter.ControlFiles
import DeviceFilter.Manager

/-!
Device cgroups of either version behind one interface. The version is found once; rules are then
written to control files or merged into programs.
-/
set_option autoImplicit false

namespace DeviceFilter

inductive BackendError where
  | lookup (cause : LookupError)
  | control (cause : ControlError)
  | filter (cause : FilterError)
  | unsupportedVersion (number : Nat)
deriving DecidableEq, Repr

namespace BackendError

def message : BackendError → String
  | lookup cause => cause.message
  | control (.invalidRule cause) => "invalid device rule: " ++ cause.message
  | control (.unwritable path cause) => path ++ ": " ++ cause.message
  | filter cause => "device filter: " ++ cause.message
  | unsupportedVersion number => "unsupported cgroup version " ++ toString number

/-- Messages of the causes, outermost first. -/
def causes : BackendError → List String
  | lookup cause => cause.causes
  | control (.invalidRule cause) => [cause.message]
  | control (.unwritable _ cause) => [cause.message]
  | filter cause => cause.message :: cause.causes
  | unsupportedVersion _ => []

end BackendError

def CgroupVersion.ofNumber (n : Nat) : Except BackendError CgroupVersion :=
  match ofNumber? n with
  | some version => .ok version
  | none => .error (.unsupportedVersion n)

structure Backend (m : Type → Type) (Handle Cgroup : Type) where
  version : CgroupVersion
  files : FileAccess m
  manager : Manager m Handle Cgroup

namespace Backend

variable {m : Type → Type} [Monad m] {Handle Cgroup : Type} (backend : Backend m Handle Cgroup)

/-- Applies rules to the cgroup at a path. -/
def addRules (cgroup : Path) (rules : List DeviceRule) : Counted BackendError m Unit :=
  match backend.version with
  | .v1 => (ControlFiles.addRules backend.files cgroup rules).adapt .control
  | .v2 => do
    let _ ← (backend.manager.apply cgroup rules).adapt .filter

end Backend

end DeviceFilter

import DeviceFilter.Files.Access
import DeviceFilter.Metrics
import DeviceFilter.Procfs.Lookup
import DeviceFilter.Rule.ControlLine

/-!
Device rules of a cgroup of the first version. Each rule is one line written to the control file for
its verdict; the kernel reads one rule from each write.
-/
set_option autoImplicit false

namespace DeviceFilter

inductive ControlError where
  | invalidRule (cause : RuleError)
  | unwritable (path : Path) (cause : SystemError)
deriving DecidableEq, Repr

namespace ControlFiles

/-- The file for rules with this verdict. -/
def fileName (allow : Bool) : String := if allow then "devices.allow" else "devices.deny"

variable {m : Type → Type} [Monad m] (files : FileAccess m)

def addRule (cgroup : Path) (rule : DeviceRule) : m (Except ControlError Unit) :=
  match rule.validate with
  | .error cause => return .error (.invalidRule cause)
  | .ok r => do
    let path := cgroup.join (fileName r.allow)
    return (← files.append path (Utf8.encode r.controlLine)).mapError (.unwritable path)

/-- Writes rules in order, up to the first that fails. -/
def addEach (cgroup : Path) : List DeviceRule → m (Except ControlError Unit)
  | [] => return .ok ()
  | rule :: rules => do
    match ← addRule files cgroup rule with
    | .error e => return .error e
    | .ok () => addEach cgroup rules

def outcomeLabel : Except ControlError Unit → AppliedAs
  | .ok () => .written
  | .error _ => .error

/-- Writes rules in order; the application as a whole is counted once. -/
def addRules (cgroup : Path) (rules : List DeviceRule) : Counted ControlError m Unit :=
  ExceptT.mk do
    let result ← liftM (addEach files cgroup rules)
    modify (·.add (.applied .v1 (outcomeLabel result)) 1)
    return result

end ControlFiles

end DeviceFilter

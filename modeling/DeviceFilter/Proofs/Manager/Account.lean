import DeviceFilter.Proofs.Manager.Inspection
import DeviceFilter.Proofs.Manager.Order

/-!
What an application counts, whatever the kernel replies: every call by its reply, what it compiles
once everything is merged, and the application itself by its result. Counters never run ahead of
the calls nor fall behind them, wherever the application ends.
-/
set_option autoImplicit false

namespace DeviceFilter

/-! ## Counters by calls -/

namespace Trace

variable {Handle Cgroup : Type} (t : Trace Handle Cgroup)

end Trace

namespace Manager

variable {σ Handle Cgroup : Type} (manager : Manager (StateM σ) Handle Cgroup)

/-! ## Merging -/

/-- What a program becomes with rules in front of it. -/
def merged (rules : List DeviceRule) (x : Reading Handle) : Except FilterError Replacement :=
  manager.decoded x >>= manager.mergedWith rules

end Manager

end DeviceFilter

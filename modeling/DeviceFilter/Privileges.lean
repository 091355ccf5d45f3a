/-!
Capabilities of the calling process that matter for programming device filters. The kernel has the
last word; missing ones only foretell a refusal.
-/
set_option autoImplicit false

namespace DeviceFilter

structure Privileges where
  bpf : Bool := false
  sysAdmin : Bool := false
  netAdmin : Bool := false
  sysResource : Bool := false
deriving DecidableEq, Repr

namespace Privileges

/-- From the names of the capabilities that are effective. -/
def ofNames (names : List String) : Privileges where
  bpf := names.contains "CAP_BPF"
  sysAdmin := names.contains "CAP_SYS_ADMIN"
  netAdmin := names.contains "CAP_NET_ADMIN"
  sysResource := names.contains "CAP_SYS_RESOURCE"

def canLoad (p : Privileges) : Bool := p.bpf || p.sysAdmin

def canAttach (p : Privileges) : Bool := p.netAdmin || p.sysAdmin

/-- The capabilities that would have to be added to apply rules to a v2 cgroup. -/
def missing (p : Privileges) : List String :=
  (if p.canLoad then [] else ["CAP_BPF"]) ++ (if p.canAttach then [] else ["CAP_NET_ADMIN"])
    ++ (if p.sysResource then [] else ["CAP_SYS_RESOURCE"])

end Privileges

end DeviceFilter

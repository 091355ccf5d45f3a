/-!
The two kinds of hierarchy that can govern devices: control files in the first version, programs in
the second.
-/
set_option autoImplicit false

namespace DeviceFilter

inductive CgroupVersion where
  | v1
  | v2
deriving DecidableEq, Repr

namespace CgroupVersion

def number : CgroupVersion → Nat
  | v1 => 1
  | v2 => 2

def ofNumber? : Nat → Option CgroupVersion
  | 1 => some v1
  | 2 => some v2
  | _ => none

def name (v : CgroupVersion) : String := "v" ++ toString v.number

end CgroupVersion

end DeviceFilter

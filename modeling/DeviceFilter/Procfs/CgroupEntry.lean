import DeviceFilter.Text.Split

/-!
Lines of a process's cgroup table: the number of a hierarchy, its controllers between commas, and
the process's path in it, cut at the first two colons. The unified hierarchy names no controllers.
-/
set_option autoImplicit false

namespace DeviceFilter

structure CgroupEntry where
  hierarchy : String
  controllers : List String
  path : String
deriving DecidableEq, Repr

namespace CgroupEntry

def hasDevices (e : CgroupEntry) : Bool := e.controllers.contains "devices"

def isUnified (e : CgroupEntry) : Bool := e.controllers.isEmpty

/-- The names between commas; empty ones are no names. -/
def controllerNames (cs : List Char) : List String :=
  ((Text.split ',' cs).filter (· ≠ [])).map String.ofList

def ofLine? (line : List Char) : Option CgroupEntry :=
  match Text.cutAt ':' line with
  | none => none
  | some (hierarchy, rest) =>
    match Text.cutAt ':' rest with
    | none => none
    | some (controllers, path) =>
      some { hierarchy := String.ofList hierarchy
             controllers := controllerNames controllers
             path := String.ofList path }

end CgroupEntry

end DeviceFilter

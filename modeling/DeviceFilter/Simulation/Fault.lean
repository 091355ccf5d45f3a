/-!
Places at which a simulated kernel can be made to fail.
-/
set_option autoImplicit false

namespace DeviceFilter.Simulation

inductive FaultPoint where
  | openCgroup
  | query
  | openProgram
  /-- Asking about a program. -/
  | info
  /-- Asking for its translated instructions. -/
  | contents
  | load
  | attach
  | detach
  | raiseMemlock
deriving DecidableEq, Repr

end DeviceFilter.Simulation

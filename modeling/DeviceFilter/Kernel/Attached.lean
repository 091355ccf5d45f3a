import DeviceFilter.Kernel.Failure
import DeviceFilter.Kernel.Interface
import DeviceFilter.Metrics

/-!
Listing the programs attached to a cgroup. A listing whose buffer is too small is repeated with a
larger one, a bounded number of times, since programs may be attached meanwhile. Programs that may
not be opened are left out.
-/
set_option autoImplicit false

namespace DeviceFilter

/-- The ids in a buffer for `capacity` of them; what was not written is zero. -/
def QueryReply.idsIn (r : QueryReply) (capacity : Nat) : List UInt32 :=
  let n := min r.count.toNat capacity
  r.ids.take n ++ List.replicate (n - r.ids.length) 0

theorem QueryReply.length_idsIn (r : QueryReply) (capacity : Nat) :
    (r.idsIn capacity).length = min r.count.toNat capacity := by
  simp only [idsIn, List.length_append, List.length_take, List.length_replicate]
  omega

inductive QueryOutcome where
  | complete (ids : List UInt32)
  /-- Room for `required` ids is needed. -/
  | insufficient (required : Nat)
deriving DecidableEq, Repr

/-- An opened program and the id by which it was found. -/
structure Attached (Handle : Type) where
  id : UInt32
  handle : Handle

namespace Kernel

def firstCapacity : Nat := 64

def queryAttempts : Nat := 10

/-- The room for the next attempt. A number that would have fitted means that programs come and go;
the room grows all the same. -/
def nextCapacity (capacity required : Nat) : Nat :=
  if capacity < required then required else capacity * 2

variable {m : Type → Type} [Monad m] {Handle Cgroup : Type} (k : Kernel m Handle Cgroup)

/-- One listing with room for `capacity` ids. -/
def queryOnce (cgroup : Cgroup) (capacity : Nat) : m (Except BpfError QueryOutcome) := do
  match ← k.query cgroup capacity with
  | .ok reply => return .ok (.complete (reply.idsIn capacity))
  | .error (.noSpace attached) => return .ok (.insufficient attached.toNat)
  | .error (.system cause) => return .error (.queryFailed .query cause)

/-- At most `attempts` listings, the first with room for `capacity` ids. -/
def idsWithin (cgroup : Cgroup) : Nat → Nat → Counted BpfError m (List UInt32)
  | 0, _ => throw (.queryExhausted queryAttempts)
  | attempts + 1, capacity => do
    match ← Counted.ofExcept (k.queryOnce cgroup capacity) with
    | .complete ids => return ids
    | .insufficient required =>
      Counted.count .retries 1
      idsWithin cgroup attempts (nextCapacity capacity required)

def attachedIds (cgroup : Cgroup) : Counted BpfError m (List UInt32) :=
  k.idsWithin cgroup queryAttempts firstCapacity

/-- Opens programs in order, leaving out those that may not be opened. -/
def openAll : List UInt32 → Counted BpfError m (List (Attached Handle))
  | [] => return []
  | id :: ids => do
    match ← k.openProgram id with
    | .ok handle => return ⟨id, handle⟩ :: (← openAll ids)
    | .error cause =>
      if cause.isPermissionDenied then
        Counted.count .skipped 1
        openAll ids
      else throw (.queryFailed .openProgram cause)

def listAttached (cgroup : Cgroup) : Counted BpfError m (List (Attached Handle)) := do
  k.openAll (← k.attachedIds cgroup)

end Kernel

end DeviceFilter

import DeviceFilter.Proofs.Kernel.Retries

/-!
Listing the programs of a cgroup, whatever the kernel replies. After the enumeration the programs
are opened one by one; one that may not be opened is passed over and counted, and any other failure
ends the listing.
-/
set_option autoImplicit false

namespace DeviceFilter

/-- A program that was to be opened, with the reply. -/
structure Opening (Handle : Type) where
  id : UInt32
  reply : Except SystemError Handle

namespace Opening

variable {Handle : Type}

def record {Cgroup : Type} (o : Opening Handle) : KernelRecord Handle Cgroup :=
  .openProgram o.id o.reply

def attached? : Opening Handle → Option (Attached Handle)
  | ⟨id, .ok handle⟩ => some ⟨id, handle⟩
  | ⟨_, .error _⟩ => none

/-- The program may not be opened. -/
def refused : Opening Handle → Bool
  | ⟨_, .ok _⟩ => false
  | ⟨_, .error cause⟩ => cause.isPermissionDenied

/-- The listing goes on. -/
def Passed (o : Opening Handle) : Prop := ∀ cause, o.reply = .error cause → cause.isPermissionDenied

end Opening

namespace Kernel

/-! ## Openings -/

section
variable {Handle : Type}

/-- All programs are opened or passed over, or all before the first one whose failure is another,
and then no further one is tried. -/
inductive Listed (ids : List UInt32) :
    Except BpfError (List (Attached Handle)) → List (Opening Handle) → Prop
  | complete {os : List (Opening Handle)} (hids : os.map (·.id) = ids) (h : ∀ o ∈ os, o.Passed) :
      Listed ids (.ok (os.filterMap (·.attached?))) os
  | failed {before : List (Opening Handle)} {id : UInt32} {cause : SystemError}
      (hids : before.map (·.id) ++ [id] <+: ids) (h : ∀ o ∈ before, o.Passed)
      (hcause : ¬ cause.isPermissionDenied) :
      Listed ids (.error (.queryFailed .openProgram cause)) (before ++ [⟨id, .error cause⟩])

variable {id : UInt32} {ids : List UInt32} {os : List (Opening Handle)}
variable {r : Except BpfError (List (Attached Handle))}

theorem Listed.nil : Listed [] (.ok []) ([] : List (Opening Handle)) :=
  .complete rfl (List.forall_mem_nil _)

theorem Listed.stop {cause : SystemError} (h : ¬ cause.isPermissionDenied) :
    Listed (id :: ids) (.error (.queryFailed .openProgram cause))
      [(⟨id, .error cause⟩ : Opening Handle)] := by
  have hnone : ∀ o ∈ ([] : List (Opening Handle)), o.Passed := List.forall_mem_nil _
  exact .failed ⟨ids, rfl⟩ hnone h

theorem Listed.cons {o : Opening Handle} (ho : o.Passed) (h : Listed ids r os) :
    Listed (o.id :: ids) (r.map (o.attached?.toList ++ ·)) (o :: os) := by
  cases h with
  | complete hids h =>
    have hattached : (o :: os).filterMap (·.attached?)
        = o.attached?.toList ++ os.filterMap (·.attached?) := by
      rw [List.filterMap_cons]
      cases o.attached? <;> rfl
    have hcons : (o :: os).map (·.id) = o.id :: ids := congrArg (o.id :: ·) hids
    have hall := Listed.complete hcons (List.forall_mem_cons.mpr ⟨ho, h⟩)
    rwa [hattached] at hall
  | failed hids h hcause =>
    have hbefore := List.forall_mem_cons.mpr ⟨ho, h⟩
    refine .failed ?_ hbefore hcause
    exact (List.prefix_cons_inj o.id).mpr hids

theorem Listed.opened (handle : Handle) (h : Listed ids r os) :
    Listed (id :: ids) (r.map (⟨id, handle⟩ :: ·)) (⟨id, .ok handle⟩ :: os) := by
  have hpassed : (⟨id, .ok handle⟩ : Opening Handle).Passed := nofun
  exact h.cons hpassed

theorem Listed.skipped {cause : SystemError} (hcause : cause.isPermissionDenied)
    (h : Listed ids r os) : Listed (id :: ids) r (⟨id, .error cause⟩ :: os) := by
  have hpassed : (⟨id, .error cause⟩ : Opening Handle).Passed := by
    rintro _ ⟨⟩
    exact hcause
  have hsame : r.map (([] : List (Attached Handle)) ++ ·) = r := by cases r <;> rfl
  have hcons := h.cons hpassed
  rwa [← hsame]

/-- Nothing is opened when the enumeration fails. -/
inductive Lists : Except BpfError (List UInt32) →
    Except BpfError (List (Attached Handle)) → List (Opening Handle) → Prop
  | unlisted (e : BpfError) : Lists (.error e) (.error e) []
  | listed {ids : List UInt32} {r : Except BpfError (List (Attached Handle))}
      {os : List (Opening Handle)} (h : Listed ids r os) : Lists (.ok ids) r os

variable {Cgroup : Type}

end

/-! ## Runs -/

section
variable {σ Handle Cgroup : Type} (k : Kernel (StateM σ) Handle Cgroup)

end

end Kernel

end DeviceFilter

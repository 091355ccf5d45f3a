import DeviceFilter.Proofs.Kernel.Faithful

/-!
Guarded kernels. Some programs may not be opened; everything else the kernel does as before, so it
is as faithful as without the guard.
-/
set_option autoImplicit false

namespace DeviceFilter

/-- The kernel when some programs may not be opened. -/
def Kernel.guarded {m : Type → Type} [Monad m] {Handle Cgroup : Type} (k : Kernel m Handle Cgroup)
    (refusal? : UInt32 → Option SystemError) : Kernel m Handle Cgroup :=
  { k with openProgram := fun id =>
      match refusal? id with
      | some cause => return .error cause
      | none => k.openProgram id }

def KernelStore.guarded {Cgroup : Type} (v : KernelStore Cgroup)
    (refusal? : UInt32 → Option SystemError) : KernelStore Cgroup :=
  { v with refusal? := fun id => (refusal? id).or (v.refusal? id) }

namespace KernelView

variable {σ Handle Cgroup : Type}

def guarded (view : KernelView σ Handle Cgroup) (refusal? : UInt32 → Option SystemError) :
    KernelView σ Handle Cgroup :=
  { view with store := fun s => (view.store s).guarded refusal? }

variable {view : KernelView σ Handle Cgroup} {refusal? : UInt32 → Option SystemError}

theorem Shows.guarded {s : σ} {v : KernelStore Cgroup} (h : view.Shows s v) :
    (view.guarded refusal?).Shows s (v.guarded refusal?) :=
  ⟨h.1, congrArg (fun v => v.guarded refusal?) h.2⟩

/-- Only opening programs is different, and it is refused as the store says. -/
theorem Faithful.guarded [DecidableEq Cgroup] {k : Kernel (StateM σ) Handle Cgroup}
    (h : view.Faithful k) : (view.guarded refusal?).Faithful (k.guarded refusal?) where
  held := by
    rintro s _ ⟨hs, rfl⟩
    exact h.held s (view.store s) ⟨hs, rfl⟩
  openCgroup := by
    rintro s _ ⟨hs, rfl⟩ path
    obtain ⟨s', hopen, hs'⟩ := h.openCgroup s _ ⟨hs, rfl⟩ path
    exact ⟨s', hopen, hs'.guarded⟩
  query := by
    rintro s _ ⟨hs, rfl⟩ c capacity hlength
    obtain ⟨s', hquery, hs'⟩ := h.query s _ ⟨hs, rfl⟩ c capacity hlength
    exact ⟨s', hquery, hs'.guarded⟩
  opens := by
    rintro s _ ⟨hs, rfl⟩ id hid hrefusal
    obtain ⟨hguard, hown⟩ := Option.or_eq_none_iff.mp hrefusal
    obtain ⟨handle, s', hopen, hhandle, hs'⟩ := h.opens s _ ⟨hs, rfl⟩ id hid hown
    refine ⟨handle, s', ?_, hhandle, hs'.guarded⟩
    simp only [Kernel.guarded, hguard, hopen]
  refuses := by
    rintro s _ ⟨hs, rfl⟩ id cause hrefusal
    cases hguard : refusal? id with
    | some cause' =>
      have hcause : cause' = cause := by
        simpa [KernelView.guarded, KernelStore.guarded, hguard] using hrefusal
      refine ⟨s, ?_, hs, rfl⟩
      simp only [Kernel.guarded, hguard, hcause]
      rfl
    | none =>
      have hown : (view.store s).refusal? id = some cause := by
        simpa [KernelView.guarded, KernelStore.guarded, hguard] using hrefusal
      obtain ⟨s', hopen, hs'⟩ := h.refuses s _ ⟨hs, rfl⟩ id cause hown
      refine ⟨s', ?_, hs'.guarded⟩
      simp only [Kernel.guarded, hguard, hopen]
  info := by
    rintro s _ ⟨hs, rfl⟩ handle p hp generation buffers
    obtain ⟨reply, s', hinfo, hs', hreply⟩ :=
      h.info s _ ⟨hs, rfl⟩ handle p hp generation buffers
    exact ⟨reply, s', hinfo, hs'.guarded, hreply⟩
  load := by
    rintro s _ ⟨hs, rfl⟩ hroom instructions license name hencodable
    obtain ⟨handle, s', hload, hfresh, hs'⟩ :=
      h.load s _ ⟨hs, rfl⟩ hroom instructions license name hencodable
    exact ⟨handle, s', hload, hfresh, hs'.guarded⟩
  attach := by
    rintro s _ ⟨hs, rfl⟩ handle c flags hheld
    obtain ⟨s', hattach, hs'⟩ := h.attach s _ ⟨hs, rfl⟩ handle c flags hheld
    exact ⟨s', hattach, hs'.guarded⟩
  detach := by
    rintro s _ ⟨hs, rfl⟩ handle c hattached
    obtain ⟨s', hdetach, hs'⟩ := h.detach s _ ⟨hs, rfl⟩ handle c hattached
    exact ⟨s', hdetach, hs'.guarded⟩
  raiseMemlock := by
    rintro s _ ⟨hs, rfl⟩
    obtain ⟨reply, s', hraise, hs'⟩ := h.raiseMemlock s _ ⟨hs, rfl⟩
    exact ⟨reply, s', hraise, hs'.guarded⟩

end KernelView

end DeviceFilter

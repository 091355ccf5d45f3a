import DeviceFilter.Proofs.Kernel.Trace

/-!
Traces in phases: preparing calls, then loads, then detachments, then attachments.
-/
set_option autoImplicit false

namespace DeviceFilter

section
variable {Handle Cgroup : Type}

/-- Loads before detachments before attachments, each phase complete before the next begins. -/
structure Trace.Ordered (t : Trace Handle Cgroup) : Prop where
  phases : t.Pairwise fun c d => c.phase ≤ d.phase
  loaded_first : ∀ before c after, t = before ++ c :: after → 2 ≤ c.phase →
    (Trace.loaded before).length = max 1 (Trace.opened before).length
  detached_first : ∀ before c after, t = before ++ c :: after → c.phase = 3 →
    Trace.detached before = (Trace.opened before).map (·.handle)

/-- A trace by its phases. -/
structure Trace.Parts (all t u v w : Trace Handle Cgroup) : Prop where
  eq_append : all = t ++ (u ++ (v ++ w))
  preparing : ∀ c ∈ t, c.phase = 0
  loading : ∀ c ∈ u, c.phase = 1
  detaching : ∀ c ∈ v, c.phase = 2
  attaching : ∀ c ∈ w, c.phase = 3

namespace Trace

section
variable {t u : Trace Handle Cgroup}

theorem filterMap_eq_nil {β : Type} {f : KernelRecord Handle Cgroup → Option β} {p : Nat}
    (hf : ∀ c, c.phase ≠ p → f c = none) (h : ∀ c ∈ t, c.phase ≠ p) : t.filterMap f = [] :=
  List.filterMap_eq_nil_iff.mpr fun c hc => hf c (h c hc)

theorem opened_eq_nil (h : ∀ c ∈ t, c.phase ≠ 0) : opened t = [] := by
  refine filterMap_eq_nil (fun c hc => ?_) h
  cases c with
  | openProgram id reply => exact absurd rfl hc
  | _ => rfl

theorem loaded_eq_nil (h : ∀ c ∈ t, c.phase ≠ 1) : loaded t = [] := by
  refine filterMap_eq_nil (fun c hc => ?_) h
  cases c with
  | load instructions license name reply => exact absurd rfl hc
  | _ => rfl

theorem detached_eq_nil (h : ∀ c ∈ t, c.phase ≠ 2) : detached t = [] := by
  refine filterMap_eq_nil (fun c hc => ?_) h
  cases c with
  | detach handle cgroup reply => exact absurd rfl hc
  | _ => rfl

theorem filter_phase {p : Nat} (h : ∀ c ∈ t, c.phase = p) (q : Nat) :
    t.filter (·.phase = q) = if p = q then t else [] := by
  split
  · rename_i heq
    exact List.filter_eq_self.mpr fun c hc => decide_eq_true ((h c hc).trans heq)
  · rename_i hne
    refine List.filter_eq_nil_iff.mpr fun c hc => ?_
    rw [h c hc]
    simpa using hne

theorem pairwise_append {p : Nat} (ht : ∀ c ∈ t, c.phase = p) (hu : ∀ c ∈ u, p ≤ c.phase)
    (h : u.Pairwise fun c d => c.phase ≤ d.phase) :
    (t ++ u).Pairwise fun c d => c.phase ≤ d.phase := by
  refine List.pairwise_append.mpr ⟨?_, h, fun c hc d hd => ?_⟩
  · exact List.pairwise_of_forall_mem_list fun c hc d hd =>
      Nat.le_of_eq ((ht c hc).trans (ht d hd).symm)
  · rw [ht c hc]
    exact hu d hd

end

namespace Parts

variable {all t u v w : Trace Handle Cgroup} (h : all.Parts t u v w)
include h

theorem opened_eq : all.opened = t.opened := by
  have hu : u.opened = [] := opened_eq_nil fun c hc => by simp [h.loading c hc]
  have hv : v.opened = [] := opened_eq_nil fun c hc => by simp [h.detaching c hc]
  have hw : w.opened = [] := opened_eq_nil fun c hc => by simp [h.attaching c hc]
  simp [h.eq_append, hu, hv, hw]

theorem loaded_eq : all.loaded = u.loaded := by
  have ht : t.loaded = [] := loaded_eq_nil fun c hc => by simp [h.preparing c hc]
  have hv : v.loaded = [] := loaded_eq_nil fun c hc => by simp [h.detaching c hc]
  have hw : w.loaded = [] := loaded_eq_nil fun c hc => by simp [h.attaching c hc]
  simp [h.eq_append, ht, hv, hw]

theorem detached_eq : all.detached = v.detached := by
  have ht : t.detached = [] := detached_eq_nil fun c hc => by simp [h.preparing c hc]
  have hu : u.detached = [] := detached_eq_nil fun c hc => by simp [h.loading c hc]
  have hw : w.detached = [] := detached_eq_nil fun c hc => by simp [h.attaching c hc]
  simp [h.eq_append, ht, hu, hw]

theorem detachments_eq : all.filter (·.phase = 2) = v := by
  simp [h.eq_append, filter_phase h.preparing, filter_phase h.loading, filter_phase h.detaching,
    filter_phase h.attaching]

theorem attachments_eq : all.filter (·.phase = 3) = w := by
  simp [h.eq_append, filter_phase h.preparing, filter_phase h.loading, filter_phase h.detaching,
    filter_phase h.attaching]

theorem mem_of_two_le {c : KernelRecord Handle Cgroup} (hc : c ∈ all) (hphase : 2 ≤ c.phase) :
    c ∈ v ++ w := by
  rw [h.eq_append, List.mem_append, List.mem_append] at hc
  rcases hc with hc | hc | hc
  · have := h.preparing c hc
    omega
  · have := h.loading c hc
    omega
  · exact hc

theorem mem_of_three_le {c : KernelRecord Handle Cgroup} (hc : c ∈ all) (hphase : 3 ≤ c.phase) :
    c ∈ w := by
  rcases List.mem_append.mp (h.mem_of_two_le hc (by omega)) with hc | hc
  · have := h.detaching c hc
    omega
  · exact hc

theorem pairwise : all.Pairwise fun c d => c.phase ≤ d.phase := by
  have hw : ∀ c ∈ w, 3 ≤ c.phase := fun c hc => Nat.le_of_eq (h.attaching c hc).symm
  have hv : ∀ c ∈ v ++ w, 2 ≤ c.phase := by
    refine List.forall_mem_append.mpr ⟨fun c hc => ?_, fun c hc => ?_⟩
    · exact Nat.le_of_eq (h.detaching c hc).symm
    · exact Nat.le_of_succ_le (hw c hc)
  have hattaching : w.Pairwise fun c d => c.phase ≤ d.phase := by
    rw [← List.append_nil w]
    exact pairwise_append h.attaching (List.forall_mem_nil _) .nil
  rw [h.eq_append]
  refine pairwise_append h.preparing (fun c hc => Nat.zero_le _) ?_
  refine pairwise_append h.loading (fun c hc => Nat.le_of_succ_le (hv c hc)) ?_
  exact pairwise_append h.detaching (fun c hc => Nat.le_of_succ_le (hw c hc)) hattaching

/-- Whatever stands before a later phase is all that there will be of the earlier ones. -/
theorem ordered (hload : v ++ w ≠ [] → u.loaded.length = max 1 t.opened.length)
    (hdetach : w ≠ [] → v.detached = t.opened.map (·.handle)) : all.Ordered := by
  have hrest {before after : Trace Handle Cgroup} {c : KernelRecord Handle Cgroup}
      (heq : all = before ++ c :: after) : ∀ d ∈ c :: after, c.phase ≤ d.phase := by
    have hpair := h.pairwise
    rw [heq, List.pairwise_append, List.pairwise_cons] at hpair
    exact List.forall_mem_cons.mpr ⟨Nat.le_refl _, hpair.2.1.1⟩
  have hopened {before after : Trace Handle Cgroup} {c : KernelRecord Handle Cgroup}
      (heq : all = before ++ c :: after) (hc : 2 ≤ c.phase) : before.opened = t.opened := by
    have hnil : opened (c :: after) = [] := opened_eq_nil fun d hd => by
      have := hrest heq d hd
      omega
    rw [← h.opened_eq, heq, opened_append, hnil, List.append_nil]
  refine ⟨h.pairwise, ?_, ?_⟩
  · intro before c after heq hc
    have hmem := h.mem_of_two_le (heq ▸ List.mem_append_right before List.mem_cons_self) hc
    have hnil : loaded (c :: after) = [] := loaded_eq_nil fun d hd => by
      have := hrest heq d hd
      omega
    rw [hopened heq hc, ← hload (List.ne_nil_of_mem hmem), ← h.loaded_eq, heq, loaded_append, hnil,
      List.append_nil]
  · intro before c after heq hc
    have hmem := h.mem_of_three_le (heq ▸ List.mem_append_right before List.mem_cons_self)
      (Nat.le_of_eq hc.symm)
    have hnil : detached (c :: after) = [] := detached_eq_nil fun d hd => by
      have := hrest heq d hd
      omega
    rw [hopened heq (by omega), ← hdetach (List.ne_nil_of_mem hmem), ← h.detached_eq, heq,
      detached_append, hnil, List.append_nil]

end Parts

end Trace

end

end DeviceFilter

import DeviceFilter.Proofs.Manager.Applied
import DeviceFilter.Proofs.Kernel.Verdict

/-!
What an application means. Either it is rejected, or it puts its rules over the results of all
programs of the cgroup.
-/
set_option autoImplicit false

namespace DeviceFilter

open Machine

/-! ## Merging -/

/-- The results over which the rules of an application are put. -/
def underlying (fallback : Bool) : List (Event → UInt64) → List (Event → UInt64)
  | [] => [fun _ => verdict fallback]
  | results => results

theorem length_underlying (fallback : Bool) (results : List (Event → UInt64)) :
    (underlying fallback results).length = max 1 results.length := by
  cases results with
  | nil => rfl
  | cons result results =>
    rw [underlying, List.length_cons]
    · omega
    · exact List.cons_ne_nil _ _

namespace Manager

variable {σ Handle Cgroup : Type} (manager : Manager (StateM σ) Handle Cgroup)
variable {rules : List DeviceRule}

theorem means_tails {ps : List KeptProgram} {results : List (Event → UInt64)}
    (hps : List.Forall₂ (fun p f => p.instructions.Means f) ps results) :
    List.Forall₂ Program.Means (manager.tails ps)
      (underlying manager.config.fallback.allows results) := by
  cases hps with
  | nil => exact .cons (Program.means_constant _) .nil
  | cons hp hps => exact List.forall₂_map_left_iff.mpr (.cons hp hps)

theorem means_of_compile {tails : List Program} {results : List (Event → UInt64)}
    {merged : List Replacement} (htails : List.Forall₂ Program.Means tails results)
    (hmerged : List.Forall₂ (fun tail r => Program.compile tail rules = .ok r.instructions)
      tails merged) :
    List.Forall₂ (fun r f => r.instructions.Means f) merged
      (results.map fun f => overridden f rules) := by
  induction htails generalizing merged with
  | nil =>
    cases hmerged
    exact .nil
  | cons htail _ ih =>
    cases hmerged with
    | cons hr hrest => exact .cons (htail.compile hr) (ih hrest)

end Manager

/-! ## One application -/

namespace Manager

variable {σ Handle Cgroup : Type} {manager : Manager (StateM σ) Handle Cgroup}
variable {view : KernelView σ Handle Cgroup} {rules : List DeviceRule} {v v' : KernelStore Cgroup}
variable {c : Cgroup} {results : List (Event → UInt64)} {ps : List KeptProgram}
variable {r : Except FilterError ApplyOutcome}

theorem diff_self (ids : List UInt32) : ids.diff ids = [] := by
  induction ids with
  | nil => rfl
  | cons id ids ih => rw [List.diff_cons, List.erase_cons_head, ih]

theorem ready_of_means (h : v.Means c results)
    (hprograms : (v.attached c).map v.program? = ps.map some)
    (hps : List.Forall₂ (fun p f => p.instructions.Means f) ps results)
    (hshort : ∀ p ∈ v.instructionsOf c, p.length < stepLimit)
    (hroom : max 1 results.length ≤ v.room) : Ready v c ps := by
  rw [KernelStore.instructionsOf_eq hprograms] at hshort
  have heach : ∀ p ∈ ps, ∃ f, p.instructions.Means f :=
    ((List.forall₂_and_left ps results).mp (hps.imp fun _ f hp => ⟨⟨f, hp⟩, hp⟩)).1
  constructor
  · exact h.nodup
  · intro id _ cause hrefusal
    rw [h.permitted] at hrefusal
    cases hrefusal
  · rw [h.accessible_eq, hprograms]
  · intro p hp
    obtain ⟨f, hf⟩ := heach p hp
    have hlength := hshort p.instructions (List.mem_map_of_mem hp)
    rw [stepLimit] at hlength
    exact ⟨hf.encodable, by omega⟩
  · rwa [hps.length_eq]

/-- One application either is rejected, or puts its rules over the results of all programs. -/
theorem AppliedTo.means [DecidableEq Cgroup]
    (happlied : manager.AppliedTo view rules v c ps r v') (h : v.Means c results)
    (hps : List.Forall₂ (fun p f => p.instructions.Means f) ps results) :
    (∃ cause, r = .error (.compile cause) ∧ v' = v) ∨
      r = .ok (.replaced results.length (max 1 results.length)) ∧
        v'.Means c ((underlying manager.config.fallback.allows results).map
          fun f => overridden f rules) ∧
        v'.room + max 1 results.length = v.room := by
  cases happlied with
  | rejected hmerged =>
    obtain ⟨cause, rfl, -⟩ := manager.exists_of_replacementsOf_eq_error hmerged
    exact .inl ⟨cause, rfl, rfl⟩
  | @replaced merged ids w hmerged hloaded =>
    have hlength := manager.length_replacementsOf hmerged
    rw [hps.length_eq] at hlength
    -- all old programs were accessible, so the new ones are all that is left
    have hattached : (w.setAttached c ((v.attached c).diff (v.accessible c) ++ ids)).attached c
        = ids := by
      rw [KernelStore.attached_setAttached, h.accessible_eq, diff_self, List.nil_append]
    refine .inr ⟨by rw [hlength, hps.length_eq], ⟨?_, ?_, ?_⟩, ?_⟩
    · rw [hattached]
      exact hloaded.nodup
    · exact hloaded.refusal ▸ h.permitted
    · refine ⟨merged.map (manager.kept view), ?_, ?_⟩
      · rw [hattached]
        exact hloaded.programs
      · have htails := manager.means_tails hps
        exact List.forall₂_map_left_iff.mpr
          (means_of_compile htails (manager.compile_tails hmerged))
    · rw [← hlength, ← hloaded.room, List.length_map]
      rfl

end Manager

end DeviceFilter

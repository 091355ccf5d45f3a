import DeviceFilter.Proofs.Manager.Meaning
import DeviceFilter.Proofs.Simulation.Faithful

/-!
Histories of a cgroup. However many applications there are, the programs of the cgroup decide as the
accepted rules do, all in one list, put over what was attached at first.
-/
set_option autoImplicit false

namespace DeviceFilter

open Machine Simulation

/-! ## Accepted rules -/

/-- Results after lists of rules were accepted. -/
def advanced (fallback : Bool) (results : List (Event → UInt64)) :
    List (List DeviceRule) → List (Event → UInt64)
  | [] => results
  | rules :: later =>
    (underlying fallback results).map fun f => overridden f (rules ++ later.flatten)

theorem underlying_of_ne_nil {fallback : Bool} {results : List (Event → UInt64)}
    (h : results ≠ []) : underlying fallback results = results := by
  cases results with
  | nil => exact absurd rfl h
  | cons result results => rfl

theorem underlying_ne_nil (fallback : Bool) (results : List (Event → UInt64)) :
    underlying fallback results ≠ [] := by
  cases results <;> exact List.cons_ne_nil _ _

theorem advanced_cons (fallback : Bool) (results : List (Event → UInt64))
    (rules : List DeviceRule) (later : List (List DeviceRule)) :
    advanced fallback results (rules :: later)
      = advanced fallback ((underlying fallback results).map fun f => overridden f rules)
          later := by
  cases later with
  | nil => simp [advanced]
  | cons rules' later =>
    have hne : (underlying fallback results).map (fun f => overridden f rules) ≠ [] :=
      fun h => underlying_ne_nil fallback results (List.map_eq_nil_iff.mp h)
    simp only [advanced, underlying_of_ne_nil hne, List.map_map, List.flatten_cons]
    exact List.map_congr_left fun f _ => overridden_append f rules _

theorem length_advanced (fallback : Bool) (results : List (Event → UInt64))
    {lists : List (List DeviceRule)} (h : lists ≠ []) :
    (advanced fallback results lists).length = max 1 results.length := by
  cases lists with
  | nil => exact absurd rfl h
  | cons rules later => rw [advanced, List.length_map, length_underlying]

theorem max_length_advanced (fallback : Bool) (results : List (Event → UInt64))
    (lists : List (List DeviceRule)) :
    max 1 (advanced fallback results lists).length = max 1 results.length := by
  cases lists with
  | nil => rfl
  | cons rules later =>
    rw [length_advanced fallback results (List.cons_ne_nil rules later)]
    omega

theorem all_overridden {results : List (Event → UInt64)} (hne : results ≠ [])
    (rules : List DeviceRule) (e : Event) :
    ((results.map fun f => overridden f rules).all fun f => f e != 0)
      = (lastVerdict? rules e).getD (results.all fun f => f e != 0) := by
  simp only [List.all_map, Function.comp_def, overridden_bne_zero]
  cases lastVerdict? rules e with
  | none => rfl
  | some allow =>
    obtain ⟨result, rest, rfl⟩ := List.exists_cons_of_ne_nil hne
    cases allow <;> simp

theorem all_advanced (fallback : Bool) (results : List (Event → UInt64))
    (lists : List (List DeviceRule)) (e : Event) :
    ((advanced fallback results lists).all fun f => f e != 0)
      = (lastVerdict? lists.flatten e).getD
          (if results = [] ∧ lists ≠ [] then fallback else results.all fun f => f e != 0) := by
  cases lists with
  | nil => simp [advanced, lastVerdict?]
  | cons rules later =>
    rw [advanced, all_overridden (underlying_ne_nil fallback results), List.flatten_cons]
    cases results with
    | nil => simp [underlying, verdict_bne_zero]
    | cons result results => simp [underlying]

namespace Manager

variable {σ Handle Cgroup : Type} (manager : Manager (StateM σ) Handle Cgroup)

/-- Applications one after another, with their results. -/
def applyEach (path : Path) : List (List DeviceRule) → Metrics → σ →
    List (Except FilterError ApplyOutcome) × Metrics × σ
  | [], μ, s => ([], μ, s)
  | rules :: later, μ, s =>
    let (r, μ', s') := (manager.apply path rules).exec μ s
    let (rs, final) := applyEach path later μ' s'
    (r :: rs, final)

/-- The rules of the applications that succeeded. -/
def accepted (calls : List (List DeviceRule)) (rs : List (Except FilterError ApplyOutcome)) :
    List (List DeviceRule) :=
  ((calls.zip rs).filter (·.2.isOk)).map (·.1)

theorem accepted_cons_error (rules : List DeviceRule) (calls : List (List DeviceRule))
    (e : FilterError) (rs : List (Except FilterError ApplyOutcome)) :
    accepted (rules :: calls) (.error e :: rs) = accepted calls rs := rfl

theorem accepted_cons_ok (rules : List DeviceRule) (calls : List (List DeviceRule))
    (outcome : ApplyOutcome) (rs : List (Except FilterError ApplyOutcome)) :
    accepted (rules :: calls) (.ok outcome :: rs) = rules :: accepted calls rs := rfl

/-- All programs of the cgroup are short, at first and after each application. -/
def StaysShort (view : KernelView σ Handle Cgroup) (path : Path) (calls : List (List DeviceRule))
    (μ : Metrics) (s : σ) : Prop :=
  ∀ before, before <+: calls →
    ∀ p ∈ (view.store (manager.applyEach path before μ s).2.2).instructionsOf
      (view.cgroupAt path), p.length < stepLimit

theorem applyEach_cons {path : Path} {rules : List DeviceRule} {μ μ' : Metrics} {s s' : σ}
    {r : Except FilterError ApplyOutcome} (h : (manager.apply path rules).exec μ s = (r, μ', s'))
    (later : List (List DeviceRule)) :
    manager.applyEach path (rules :: later) μ s
      = (r :: (manager.applyEach path later μ' s').1, (manager.applyEach path later μ' s').2) := by
  rw [applyEach, h]

section
variable {manager} {view : KernelView σ Handle Cgroup} {path : Path} {μ μ' : Metrics} {s s' : σ}
variable {rules : List DeviceRule} {later : List (List DeviceRule)}
variable {r : Except FilterError ApplyOutcome}

theorem StaysShort.now {calls : List (List DeviceRule)} (h : manager.StaysShort view path calls μ s) :
    ∀ p ∈ (view.store s).instructionsOf (view.cgroupAt path), p.length < stepLimit :=
  h [] List.nil_prefix

theorem StaysShort.of_prefix {calls before : List (List DeviceRule)}
    (h : manager.StaysShort view path calls μ s) (hbefore : before <+: calls) :
    manager.StaysShort view path before μ s :=
  fun earlier hearlier => h earlier (hearlier.trans hbefore)

theorem StaysShort.next (h : manager.StaysShort view path (rules :: later) μ s)
    (hrun : (manager.apply path rules).exec μ s = (r, μ', s')) :
    manager.StaysShort view path later μ' s' := by
  intro before hbefore
  have hwithin := h (rules :: before) (List.cons_prefix_cons.mpr ⟨rfl, hbefore⟩)
  rwa [manager.applyEach_cons hrun] at hwithin

end

section
variable {manager} [DecidableEq Cgroup] {view : KernelView σ Handle Cgroup}
variable (h : view.Faithful manager.kernel) {path : Path} (howns : manager.Owns view path)
variable {s : σ} {v : KernelStore Cgroup} {results : List (Event → UInt64)} (μ : Metrics)
include h howns

/-- One application. -/
theorem exec_apply_means (hs : view.Shows s v) (hmeans : v.Means (view.cgroupAt path) results)
    (hshort : ∀ p ∈ v.instructionsOf (view.cgroupAt path), p.length < stepLimit)
    (hroom : max 1 results.length ≤ v.room) (rules : List DeviceRule) :
    ∃ r μ' s' v', (manager.apply path rules).exec μ s = (r, μ', s') ∧ view.Shows s' v' ∧
      ((∃ cause, r = .error (.compile cause) ∧ v' = v) ∨
        r = .ok (.replaced results.length (max 1 results.length)) ∧
          v'.Means (view.cgroupAt path) ((underlying manager.config.fallback.allows results).map
            fun f => overridden f rules) ∧
          v'.room + max 1 results.length = v.room) := by
  obtain ⟨ps, hprograms, hps⟩ := hmeans.programs
  have hready := ready_of_means hmeans hprograms hps hshort hroom
  obtain ⟨r, μ', s', v', hrun, hs', happlied⟩ := exec_apply h μ hs howns rules hready
  exact ⟨r, μ', s', v', hrun, hs', happlied.means hmeans hps⟩

/-- Any number of applications. -/
theorem applyEach_means {calls : List (List DeviceRule)} (hs : view.Shows s v)
    (hmeans : v.Means (view.cgroupAt path) results)
    (hshort : manager.StaysShort view path calls μ s)
    (hroom : calls.length * max 1 results.length ≤ v.room) :
    ∃ rs μ' s' v', manager.applyEach path calls μ s = (rs, μ', s') ∧ view.Shows s' v' ∧
      v'.Means (view.cgroupAt path)
        (advanced manager.config.fallback.allows results (accepted calls rs)) ∧
      v.room ≤ v'.room + calls.length * max 1 results.length ∧
      ∀ r ∈ rs, (∃ cause, r = .error (.compile cause)) ∨
        ∃ detached, r = .ok (.replaced detached (max 1 results.length)) := by
  -- an accepted application changes the results, a rejected one keeps them
  induction calls generalizing s v results μ with
  | nil => exact ⟨[], μ, s, v, rfl, hs, hmeans, by simp, List.forall_mem_nil _⟩
  | cons rules later ih =>
    have hnow := hshort.now
    rw [hs.2] at hnow
    rw [List.length_cons, Nat.succ_mul] at hroom
    obtain ⟨r, μ1, s1, w, hrun, hs1, hw⟩ :=
      exec_apply_means h howns μ hs hmeans hnow (by omega) rules
    have hnext := hshort.next hrun
    rcases hw with ⟨cause, rfl, rfl⟩ | ⟨rfl, hwmeans, hwroom⟩
    · obtain ⟨rs, μ', s', v', hrest, hs', hv', hroom', hrs⟩ :=
        ih μ1 hs1 hmeans hnext (by omega)
      refine ⟨.error (.compile cause) :: rs, μ', s', v', ?_, hs', ?_, ?_, ?_⟩
      · rw [manager.applyEach_cons hrun, hrest]
      · rwa [accepted_cons_error]
      · rw [List.length_cons, Nat.succ_mul]
        omega
      · exact List.forall_mem_cons.mpr ⟨.inl ⟨cause, rfl⟩, hrs⟩
    · have hlength : ((underlying manager.config.fallback.allows results).map
          fun f => overridden f rules).length = max 1 results.length := by
        rw [List.length_map, length_underlying]
      have hmax : max 1 (max 1 results.length) = max 1 results.length := by omega
      obtain ⟨rs, μ', s', v', hrest, hs', hv', hroom', hrs⟩ :=
        ih μ1 hs1 hwmeans hnext (by rw [hlength, hmax]; omega)
      rw [hlength, hmax] at hroom' hrs
      refine ⟨.ok (.replaced results.length (max 1 results.length)) :: rs, μ', s', v', ?_, hs',
        ?_, ?_, ?_⟩
      · rw [manager.applyEach_cons hrun, hrest]
      · rwa [accepted_cons_ok, advanced_cons]
      · rw [List.length_cons, Nat.succ_mul]
        omega
      · exact List.forall_mem_cons.mpr ⟨.inr ⟨_, rfl⟩, hrs⟩

/-- An application that does not compile leaves the store alone, whatever was applied before. -/
theorem shows_of_rejected {calls before : List (List DeviceRule)} {rules : List DeviceRule}
    (hs : view.Shows s v) (hmeans : v.Means (view.cgroupAt path) results)
    (hshort : manager.StaysShort view path calls μ s)
    (hroom : calls.length * max 1 results.length ≤ v.room) (hwithin : before ++ [rules] <+: calls)
    {rs : List (Except FilterError ApplyOutcome)} {μ₁ μ₂ : Metrics} {s₁ s₂ : σ}
    {cause : CompileError} (hbefore : manager.applyEach path before μ s = (rs, μ₁, s₁))
    (hrejected : (manager.apply path rules).exec μ₁ s₁ = (.error (.compile cause), μ₂, s₂)) :
    view.Shows s₂ (view.store s₁) := by
  have hearlier : before <+: calls := (List.prefix_append before [rules]).trans hwithin
  have hlength : before.length + 1 ≤ calls.length := by simpa using hwithin.length_le
  have hbudget : before.length * max 1 results.length + max 1 results.length ≤ v.room := by
    rw [← Nat.succ_mul]
    exact (Nat.mul_le_mul_right _ hlength).trans hroom
  obtain ⟨_, _, _, v₁, hrun, hs₁, hmeans₁, hroom₁, -⟩ :=
    applyEach_means h howns μ hs hmeans (hshort.of_prefix hearlier) (by omega)
  rw [hbefore] at hrun
  cases hrun
  have hnow := hshort before hearlier
  rw [hbefore, hs₁.2] at hnow
  obtain ⟨r, _, _, w, happly, hw, hcases⟩ := exec_apply_means h howns μ₁ hs₁ hmeans₁ hnow
    (by rw [max_length_advanced]; omega) rules
  rw [hrejected] at happly
  cases happly
  rcases hcases with ⟨_, _, rfl⟩ | ⟨haccepted, _⟩
  · rwa [hs₁.2]
  · cases haccepted

/-- The law of all applications together. They are accepted or do not compile; one that does not
compile changes nothing, and the accepted rules decide events as one list, over what the programs
attached at first decide, or over the fallback when there were none. -/
theorem applyEach_settled {calls : List (List DeviceRule)} (hs : view.Shows s v)
    (hsettled : v.Settled (view.cgroupAt path)) (hshort : manager.StaysShort view path calls μ s)
    (hroom : calls.length * max 1 (v.attached (view.cgroupAt path)).length ≤ v.room) :
    ∃ rs μ' s' v', manager.applyEach path calls μ s = (rs, μ', s') ∧ view.Shows s' v' ∧
      (∀ r ∈ rs, (∃ cause, r = .error (.compile cause)) ∨ ∃ detached,
        r = .ok (.replaced detached (max 1 (v.attached (view.cgroupAt path)).length))) ∧
      (∀ before rules, before ++ [rules] <+: calls → ∀ rs₁ μ₁ s₁ cause μ₂ s₂,
        manager.applyEach path before μ s = (rs₁, μ₁, s₁) →
        (manager.apply path rules).exec μ₁ s₁ = (.error (.compile cause), μ₂, s₂) →
        view.Shows s₂ (view.store s₁)) ∧
      (accepted calls rs ≠ [] → (v'.attached (view.cgroupAt path)).length
        = max 1 (v.attached (view.cgroupAt path)).length) ∧
      ∀ e : Event, e.access.bits.toNat < 65536 → ∃ initially,
        v.verdict (view.cgroupAt path) e = .ok initially ∧
        v'.verdict (view.cgroupAt path) e = .ok ((lastVerdict? (accepted calls rs).flatten e).getD
          (if v.attached (view.cgroupAt path) = [] ∧ accepted calls rs ≠ []
            then manager.config.fallback.allows else initially)) := by
  have hnow := hshort.now
  rw [hs.2] at hnow
  obtain ⟨results, hmeans⟩ := hsettled.means (h.held s v hs _) hnow
  rw [hmeans.length_attached] at hroom
  obtain ⟨rs, μ', s', v', hrun, hs', hmeans', -, hrs⟩ :=
    applyEach_means h howns μ hs hmeans hshort hroom
  -- the fallback counts only where nothing was attached
  have hempty : v.attached (view.cgroupAt path) = [] ↔ results = [] := by
    rw [← List.length_eq_zero_iff, hmeans.length_attached, List.length_eq_zero_iff]
  refine ⟨rs, μ', s', v', hrun, hs', ?_, ?_, ?_, ?_⟩
  · rwa [hmeans.length_attached]
  · intro before rules hwithin rs₁ μ₁ s₁ cause μ₂ s₂ hbefore hrejected
    exact shows_of_rejected h howns μ hs hmeans hshort hroom hwithin hbefore hrejected
  · intro hne
    rw [hmeans'.length_attached, hmeans.length_attached, length_advanced _ _ hne]
  · intro e he
    have hlast : ∀ p ∈ v'.instructionsOf (view.cgroupAt path), p.length < stepLimit := by
      have hlast := hshort calls List.prefix_rfl
      rwa [hrun, hs'.2] at hlast
    refine ⟨_, hmeans.verdict_eq hnow he, ?_⟩
    rw [hmeans'.verdict_eq hlast he, all_advanced]
    simp only [hempty]

end

/-- A manager of cgroups that no other manager owns, on a kernel in memory. -/
def boxManager : Manager (StateM KernelState) UInt32 Path where
  kernel := SimulatedKernel.kernel
  processes := ⟨0, fun _ => return .ok 0, fun _ => return .ok ""⟩
  config := {}

/-- Two programs that allow everything. -/
def boxState : KernelState :=
  KernelState.install {} "/box"
    { translated := (Program.constant true).encode .native, license := "GPL", name := "base" } 2

/-- The second list of rules does not compile. -/
def boxCalls : List (List DeviceRule) :=
  [[⟨false, "c", some 1, none, "rw"⟩], [⟨true, "x", none, none, "r"⟩],
    [⟨true, "c", some 1, some 3, "r"⟩]]

theorem quiet_boxState : boxState.Quiet := by
  have hplain := KernelState.plain_encode (Program.encodable_constant true) "GPL" "base"
  exact KernelState.quiet_empty.install hplain "/box" (by decide)

theorem settled_boxState : boxState.store.Settled "/box" := by
  have hprograms : boxState.store.instructionsOf "/box"
      = [Program.constant true, Program.constant true] := by decide +kernel
  refine ⟨by decide +kernel, fun _ => rfl, ?_⟩
  intro p hp
  rw [hprograms] at hp
  have hp' : p = Program.constant true := by simpa using hp
  subst hp'
  exact (Program.settled_iff (by decide)).mpr ⟨_, Program.means_constant true⟩

theorem staysShort_boxCalls : boxManager.StaysShort KernelState.view "/box" boxCalls .empty
    boxState := by
  have hinits : ∀ before ∈ boxCalls.inits,
      ∀ p ∈ (boxManager.applyEach "/box" before .empty boxState).2.2.store.instructionsOf "/box",
        p.length < stepLimit := by decide +kernel
  intro before hbefore
  exact hinits before (List.mem_inits before boxCalls |>.mpr hbefore)

/-- Both programs are rewritten twice. The rule for reading 1:3 goes before the one for all of
major 1, and other devices are left to the programs attached at first. -/
theorem applyEach_settled_boxCalls : ∃ rs μ' s' v',
    boxManager.applyEach "/box" boxCalls .empty boxState = (rs, μ', s') ∧
      KernelState.view.Shows s' v' ∧ (v'.attached "/box").length = 2 ∧
      v'.verdict "/box" ⟨.character, .read, 1, 3⟩ = .ok true ∧
      v'.verdict "/box" ⟨.character, .write, 1, 3⟩ = .ok false ∧
      v'.verdict "/box" ⟨.block, .write, 8, 0⟩ = .ok true := by
  have howns : boxManager.Owns KernelState.view "/box" := fun s v hs => ⟨s, rfl, hs⟩
  obtain ⟨rs, μ', s', v', hrun, hs', -, -, hlength, hverdict⟩ :=
    applyEach_settled faithful_kernel howns .empty ⟨quiet_boxState, rfl⟩
      settled_boxState staysShort_boxCalls (by decide +kernel)
  have haccepted : accepted boxCalls rs = [[⟨false, "c", some 1, none, "rw"⟩],
      [⟨true, "c", some 1, some 3, "r"⟩]] := by
    have hresults : rs = (boxManager.applyEach "/box" boxCalls .empty boxState).1 := by rw [hrun]
    rw [hresults]
    decide +kernel
  rw [haccepted] at hlength hverdict
  refine ⟨rs, μ', s', v', hrun, hs', hlength (List.cons_ne_nil _ _), ?_, ?_, ?_⟩
  · obtain ⟨initially, -, hfinally⟩ := hverdict ⟨.character, .read, 1, 3⟩ (by decide)
    exact hfinally
  · obtain ⟨initially, -, hfinally⟩ := hverdict ⟨.character, .write, 1, 3⟩ (by decide)
    exact hfinally
  · obtain ⟨initially, hinitially, hfinally⟩ := hverdict ⟨.block, .write, 8, 0⟩ (by decide)
    have hallowed : boxState.store.verdict "/box" ⟨.block, .write, 8, 0⟩ = .ok true := by
      rfl
    have htrue : initially = true := Except.ok.inj (hinitially.symm.trans hallowed)
    rw [htrue] at hfinally
    exact hfinally

end Manager

end DeviceFilter

import DeviceFilter.Proofs.Manager.Replaced

/-!
Applications to different cgroups commute. Each of them changes what is attached to its own cgroup
and adds programs under fresh ids; so what the other one finds is the same before and after it, and
both orders end with the same programs, though not under the same ids.
-/
set_option autoImplicit false

namespace DeviceFilter

variable {σ Handle Cgroup : Type}

namespace KernelStore

/-! ## Exchanges -/

/-- A cgroup has the programs `kept` and then new ones, under ids that `v` does not know. -/
def Gained (v w : KernelStore Cgroup) (c : Cgroup) (kept : List UInt32) (new : List KeptProgram) :
    Prop :=
  ∃ ids, w.attached c = kept ++ ids ∧ ids.map w.program? = new.map some ∧
    ∀ id ∈ ids, v.program? id = none

/-- New programs have taken the place of those of one cgroup that may be opened. -/
structure Exchanged (v w : KernelStore Cgroup) (c : Cgroup) (new : List KeptProgram) : Prop where
  gained : v.Gained w c ((v.attached c).diff (v.accessible c)) new
  others : ∀ other, other ≠ c → w.attached other = v.attached other
  stored : ∀ id, (v.program? id).isSome → w.program? id = v.program? id
  refusal : w.refusal? = v.refusal?
  room : w.room + new.length = v.room

/-- The programs of a cgroup can be listed, and those that may be opened can be read back. -/
structure Legible (v : KernelStore Cgroup) (c : Cgroup) : Prop where
  length : (v.attached c).length < 2 ^ 32
  permitted : ∀ id ∈ v.attached c, ∀ cause, v.refusal? id = some cause → cause.isPermissionDenied
  readable : ∀ id ∈ v.accessible c, ∀ p, v.program? id = some p →
    p.instructions.Encodable ∧ 8 * p.instructions.length < 2 ^ 32

variable {v u w w' : KernelStore Cgroup} {c d : Cgroup} {kept : List UInt32}
variable {new other : List KeptProgram}

/-! ## What one exchange leaves to another -/

section
variable (h : v.Exchanged w c new) (hne : d ≠ c)
include h hne

theorem Exchanged.accessible_eq : w.accessible d = v.accessible d := by
  rw [accessible, accessible, h.others d hne, h.refusal]

theorem Exchanged.map_program? (hheld : ∀ id ∈ v.attached d, (v.program? id).isSome) :
    (w.accessible d).map w.program? = (v.accessible d).map v.program? := by
  rw [h.accessible_eq hne]
  exact List.map_congr_left fun id hid => h.stored id (hheld id (List.mem_of_mem_filter hid))

theorem Exchanged.legible (hheld : ∀ id ∈ v.attached d, (v.program? id).isSome)
    (hlegible : v.Legible d) : w.Legible d where
  length := by
    rw [h.others d hne]
    exact hlegible.length
  permitted := by
    rw [h.others d hne, h.refusal]
    exact hlegible.permitted
  readable := by
    rw [h.accessible_eq hne]
    intro id hid p hp
    rw [h.stored id (hheld id (List.mem_of_mem_filter hid))] at hp
    exact hlegible.readable id hid p hp

theorem Gained.later (hgained : u.Gained v d kept other) : u.Gained w d kept other := by
  obtain ⟨ids, hattached, hprograms, hfresh⟩ := hgained
  refine ⟨ids, (h.others d hne).trans hattached, ?_, hfresh⟩
  rw [← hprograms]
  refine List.map_congr_left fun id hid => h.stored id ?_
  have hmem : v.program? id ∈ other.map some := hprograms ▸ List.mem_map_of_mem hid
  obtain ⟨p, -, hp⟩ := List.mem_map.mp hmem
  rw [← hp]
  rfl

end

/-- What is new to a later store is new to an earlier one. -/
theorem Gained.earlier (hstored : ∀ id, (v.program? id).isSome → u.program? id = v.program? id)
    (hgained : u.Gained w c kept new) : v.Gained w c kept new := by
  obtain ⟨ids, hattached, hprograms, hfresh⟩ := hgained
  refine ⟨ids, hattached, hprograms, fun id hid => ?_⟩
  by_contra hsome
  have hsame := hstored id (Option.isSome_iff_ne_none.mpr hsome)
  exact hsome (hsame.symm.trans (hfresh id hid))

/-! ## Two exchanges -/

/-- What two exchanges in different cgroups do together. -/
structure ExchangedBoth (v w : KernelStore Cgroup) (c d : Cgroup) (new other : List KeptProgram) :
    Prop where
  left : v.Gained w c ((v.attached c).diff (v.accessible c)) new
  right : v.Gained w d ((v.attached d).diff (v.accessible d)) other
  others : ∀ e, e ≠ c → e ≠ d → w.attached e = v.attached e
  stored : ∀ id, (v.program? id).isSome → w.program? id = v.program? id

theorem ExchangedBoth.symm (h : v.ExchangedBoth w c d new other) :
    v.ExchangedBoth w d c other new :=
  ⟨h.right, h.left, fun e hd hc => h.others e hc hd, h.stored⟩

theorem Exchanged.both (hfirst : v.Exchanged u c new) (hsecond : u.Exchanged w d other)
    (hne : c ≠ d) : v.ExchangedBoth w c d new other where
  left := hfirst.gained.later hsecond hne
  right := by
    have hgained := hsecond.gained
    rw [hfirst.others d hne.symm, hfirst.accessible_eq hne.symm] at hgained
    exact hgained.earlier hfirst.stored
  others e hc hd := (hsecond.others e hd).trans (hfirst.others e hc)
  stored id hid := by
    have hsame := hfirst.stored id hid
    exact (hsecond.stored id (hsame ▸ hid)).trans hsame

/-- Ids of the same program; they are the same, or `v` knows neither. -/
def Corresponds (v w w' : KernelStore Cgroup) (id id' : UInt32) : Prop :=
  (∃ p, w.program? id = some p ∧ w'.program? id' = some p) ∧
    (id = id' ∨ v.program? id = none ∧ v.program? id' = none)

/-- The same programs are attached to a cgroup in the same order. -/
def AttachedAlike (v w w' : KernelStore Cgroup) (c : Cgroup) : Prop :=
  List.Forall₂ (v.Corresponds w w') (w.attached c) (w'.attached c)

theorem corresponds_fresh {ids ids' : List UInt32} (hids : ids.map w.program? = new.map some)
    (hids' : ids'.map w'.program? = new.map some) (hfresh : ∀ id ∈ ids, v.program? id = none)
    (hfresh' : ∀ id ∈ ids', v.program? id = none) :
    List.Forall₂ (v.Corresponds w w') ids ids' := by
  induction new generalizing ids ids' with
  | nil =>
    rw [List.map_eq_nil_iff.mp hids, List.map_eq_nil_iff.mp hids']
    exact .nil
  | cons p new ih =>
    obtain ⟨id, rest, rfl, hid, hrest⟩ := List.map_eq_cons_iff.mp hids
    obtain ⟨id', rest', rfl, hid', hrest'⟩ := List.map_eq_cons_iff.mp hids'
    obtain ⟨hnew, hfresh⟩ := List.forall_mem_cons.mp hfresh
    obtain ⟨hnew', hfresh'⟩ := List.forall_mem_cons.mp hfresh'
    exact .cons ⟨⟨p, hid, hid'⟩, .inr ⟨hnew, hnew'⟩⟩ (ih hrest hrest' hfresh hfresh')

theorem Gained.alike (h : v.Gained w c kept new) (h' : v.Gained w' c kept new)
    (hheld : ∀ id ∈ kept, (v.program? id).isSome)
    (hstored : ∀ id, (v.program? id).isSome → w.program? id = v.program? id)
    (hstored' : ∀ id, (v.program? id).isSome → w'.program? id = v.program? id) :
    v.AttachedAlike w w' c := by
  obtain ⟨ids, hattached, hprograms, hfresh⟩ := h
  obtain ⟨ids', hattached', hprograms', hfresh'⟩ := h'
  rw [AttachedAlike, hattached, hattached']
  refine List.rel_append (List.forall₂_same.mpr fun id hid => ⟨?_, .inl rfl⟩)
    (corresponds_fresh hprograms hprograms' hfresh hfresh')
  obtain ⟨p, hp⟩ := Option.isSome_iff_exists.mp (hheld id hid)
  exact ⟨p, (hstored id (hheld id hid)).trans hp, (hstored' id (hheld id hid)).trans hp⟩

/-- Together two exchanges determine what is attached everywhere. -/
theorem ExchangedBoth.alike (h : v.ExchangedBoth w c d new other)
    (h' : v.ExchangedBoth w' c d new other)
    (hheld : ∀ e, ∀ id ∈ v.attached e, (v.program? id).isSome) (e : Cgroup) :
    v.AttachedAlike w w' e := by
  have hkept (e : Cgroup) :
      ∀ id ∈ (v.attached e).diff (v.accessible e), (v.program? id).isSome := fun id hid =>
    hheld e id (List.diff_subset _ _ hid)
  by_cases hc : e = c
  · subst hc
    exact h.left.alike h'.left (hkept e) h.stored h'.stored
  · by_cases hd : e = d
    · subst hd
      exact h.right.alike h'.right (hkept e) h.stored h'.stored
    · have hsame : v.Gained w e (v.attached e) [] :=
        ⟨[], by rw [h.others e hc hd, List.append_nil], rfl, List.forall_mem_nil _⟩
      have hsame' : v.Gained w' e (v.attached e) [] :=
        ⟨[], by rw [h'.others e hc hd, List.append_nil], rfl, List.forall_mem_nil _⟩
      exact hsame.alike hsame' (hheld e) h.stored h'.stored

theorem Legible.exchangeable (h : v.Legible c) {ps : List KeptProgram}
    (hps : (v.accessible c).map v.program? = ps.map some) (hroom : max 1 ps.length ≤ v.room) :
    Manager.Exchangeable v c ps where
  length := h.length
  permitted := h.permitted
  programs := hps
  readable := forall_programs h.readable hps
  room := hroom

end KernelStore

namespace Manager

/-! ## Applications -/

section
variable {manager : Manager (StateM σ) Handle Cgroup} [DecidableEq Cgroup]
variable {view : KernelView σ Handle Cgroup} {rules : List DeviceRule}
variable {v w : KernelStore Cgroup} {c : Cgroup} {ps : List KeptProgram}

theorem AppliedTo.exists_merged {outcome : ApplyOutcome}
    (h : manager.AppliedTo view rules v c ps (.ok outcome) w) :
    ∃ merged, manager.replacementsOf rules ps = .ok merged := by
  cases h with
  | replaced hmerged hloaded => exact ⟨_, hmerged⟩

theorem AppliedTo.exchanged {r : Except FilterError ApplyOutcome} {merged : List Replacement}
    (h : manager.AppliedTo view rules v c ps r w)
    (hmerged : manager.replacementsOf rules ps = .ok merged) :
    r = .ok (.replaced ps.length merged.length) ∧
      v.Exchanged w c (merged.map (manager.kept view)) := by
  cases h with
  | rejected hrejected =>
    rw [hmerged] at hrejected
    cases hrejected
  | @replaced _ ids w hmerged' hloaded =>
    cases hmerged.symm.trans hmerged'
    refine ⟨rfl, ⟨ids, ?_, hloaded.programs, hloaded.fresh⟩, ?_, hloaded.older, hloaded.refusal,
      hloaded.room⟩
    · exact KernelStore.attached_setAttached ..
    · intro other hother
      rw [← hloaded.attached]
      exact Function.update_of_ne hother ..

variable (h : view.Faithful manager.kernel) (μ : Metrics) {s : σ}
include h

theorem exec_apply_legible (hs : view.Shows s v) {path : Path} (howns : manager.Owns view path)
    (hlegible : v.Legible (view.cgroupAt path))
    (hps : (v.accessible (view.cgroupAt path)).map v.program? = ps.map some)
    (hroom : max 1 ps.length ≤ v.room) (rules : List DeviceRule) :
    ∃ r μ' s' w, (manager.apply path rules).exec μ s = (r, μ', s') ∧ view.Shows s' w ∧
      manager.AppliedTo view rules v (view.cgroupAt path) ps r w := by
  obtain ⟨s1, htest, hs1⟩ := howns s v hs
  exact exec_apply_exchangeable h μ htest hs1 rules (hlegible.exchangeable hps hroom)

/-- After an exchange in another cgroup, an application finds what was there before. -/
theorem exec_apply_later {u : KernelStore Cgroup} {new : List KeptProgram}
    (hexchanged : v.Exchanged u c new) (hs : view.Shows s u) {path : Path}
    (hne : view.cgroupAt path ≠ c) (howns : manager.Owns view path)
    (hlegible : v.Legible (view.cgroupAt path))
    (hheld : ∀ id ∈ v.attached (view.cgroupAt path), (v.program? id).isSome)
    (hps : (v.accessible (view.cgroupAt path)).map v.program? = ps.map some)
    (hroom : new.length + max 1 ps.length ≤ v.room) (rules : List DeviceRule) :
    ∃ r μ' s' w, (manager.apply path rules).exec μ s = (r, μ', s') ∧ view.Shows s' w ∧
      manager.AppliedTo view rules u (view.cgroupAt path) ps r w := by
  have hroom' : max 1 ps.length ≤ u.room := by
    have hused := hexchanged.room
    omega
  exact exec_apply_legible h μ hs howns (hexchanged.legible hne hheld hlegible)
    ((hexchanged.map_program? hne hheld).trans hps) hroom' rules

/-- One application and then another in a second cgroup, when both compile with what is attached at
first. -/
theorem exec_apply_both (hs : view.Shows s v) {x y : Path} (hne : view.cgroupAt x ≠ view.cgroupAt y)
    (hx : manager.Owns view x) (hy : manager.Owns view y) (hlx : v.Legible (view.cgroupAt x))
    (hly : v.Legible (view.cgroupAt y)) {qs : List KeptProgram}
    (hps : (v.accessible (view.cgroupAt x)).map v.program? = ps.map some)
    (hqs : (v.accessible (view.cgroupAt y)).map v.program? = qs.map some)
    (hroom : max 1 ps.length + max 1 qs.length ≤ v.room) {others : List DeviceRule}
    {new other : List Replacement} (hnew : manager.replacementsOf rules ps = .ok new)
    (hother : manager.replacementsOf others qs = .ok other) :
    ∃ μ₁ s₁ μ₂ s₂ w,
      (manager.apply x rules).exec μ s = (.ok (.replaced ps.length new.length), μ₁, s₁) ∧
      (manager.apply y others).exec μ₁ s₁ = (.ok (.replaced qs.length other.length), μ₂, s₂) ∧
      view.Shows s₂ w ∧ v.ExchangedBoth w (view.cgroupAt x) (view.cgroupAt y)
        (new.map (manager.kept view)) (other.map (manager.kept view)) := by
  obtain ⟨r, μ₁, s₁, u, hfirst, hs₁, happlied⟩ :=
    exec_apply_legible h μ hs hx hlx hps (by omega) rules
  obtain ⟨rfl, hexchanged⟩ := happlied.exchanged hnew
  have hroom' : (new.map (manager.kept view)).length + max 1 qs.length ≤ v.room := by
    rwa [List.length_map, manager.length_replacementsOf hnew]
  obtain ⟨r, μ₂, s₂, w, hsecond, hs₂, happlied'⟩ := exec_apply_later h μ₁ hexchanged hs₁ hne.symm
    hy hly (h.held s v hs _) hqs hroom' others
  obtain ⟨rfl, hexchanged'⟩ := happlied'.exchanged hother
  exact ⟨μ₁, s₁, μ₂, s₂, w, hfirst, hsecond, hs₂, hexchanged.both hexchanged' hne⟩

end

section
variable {manager : Manager (StateM σ) Handle Cgroup} [DecidableEq Cgroup]
variable {view : KernelView σ Handle Cgroup} {v : KernelStore Cgroup}
variable {s s₁ s₂ : σ} {μ μ₁ μ₂ : Metrics}

/-- Two applications in different cgroups that succeed one after the other succeed in the other
order as well, with the same results. Every cgroup then has the same programs in the same order, and
only ids of programs that were loaded may differ. -/
theorem apply_commutes (h : view.Faithful manager.kernel) (hs : view.Shows s v) {x y : Path}
    (hne : view.cgroupAt x ≠ view.cgroupAt y) (hx : manager.Owns view x)
    (hy : manager.Owns view y) (hlx : v.Legible (view.cgroupAt x))
    (hly : v.Legible (view.cgroupAt y))
    (hroom : max 1 (v.accessible (view.cgroupAt x)).length
      + max 1 (v.accessible (view.cgroupAt y)).length ≤ v.room)
    {rules others : List DeviceRule} {outcome other : ApplyOutcome}
    (hfirst : (manager.apply x rules).exec μ s = (.ok outcome, μ₁, s₁))
    (hsecond : (manager.apply y others).exec μ₁ s₁ = (.ok other, μ₂, s₂)) :
    ∃ ν₁ t₁ ν₂ t₂ w w', (manager.apply y others).exec μ s = (.ok other, ν₁, t₁) ∧
      (manager.apply x rules).exec ν₁ t₁ = (.ok outcome, ν₂, t₂) ∧
      view.Shows s₂ w ∧ view.Shows t₂ w' ∧ ∀ c, v.AttachedAlike w w' c := by
  have hheld := h.held s v hs
  obtain ⟨ps, hps⟩ := KernelStore.exists_map_some fun id hid =>
    hheld (view.cgroupAt x) id (List.mem_of_mem_filter hid)
  obtain ⟨qs, hqs⟩ := KernelStore.exists_map_some fun id hid =>
    hheld (view.cgroupAt y) id (List.mem_of_mem_filter hid)
  rw [KernelStore.length_accessible hps, KernelStore.length_accessible hqs] at hroom
  -- what each of them compiles with is there at first already
  obtain ⟨r, _, _, u, hrun, hs₁, happlied⟩ := exec_apply_legible h μ hs hx hlx hps (by omega) rules
  cases hfirst.symm.trans hrun
  obtain ⟨new, hnew⟩ := happlied.exists_merged
  obtain ⟨-, hexchanged⟩ := happlied.exchanged hnew
  have hroom' : (new.map (manager.kept view)).length + max 1 qs.length ≤ v.room := by
    rwa [List.length_map, manager.length_replacementsOf hnew]
  obtain ⟨r, _, _, _, hrun', -, happlied'⟩ := exec_apply_later h μ₁ hexchanged hs₁ hne.symm hy hly
    (hheld _) hqs hroom' others
  cases hsecond.symm.trans hrun'
  obtain ⟨new', hnew'⟩ := happlied'.exists_merged
  obtain ⟨_, _, _, _, w, hone, htwo, hw, hboth⟩ :=
    exec_apply_both h μ hs hne hx hy hlx hly hps hqs hroom hnew hnew'
  cases hfirst.symm.trans hone
  cases hsecond.symm.trans htwo
  rw [Nat.add_comm] at hroom
  obtain ⟨ν₁, t₁, ν₂, t₂, w', hone', htwo', hw', hboth'⟩ :=
    exec_apply_both h μ hs hne.symm hy hx hly hlx hqs hps hroom hnew' hnew
  exact ⟨ν₁, t₁, ν₂, t₂, w, w', hone', htwo', hw, hw', hboth.alike hboth'.symm hheld⟩

end

/-! ## Two applications where one program is attached to both cgroups -/

open Simulation

def twiceAttached : KernelState :=
  (({} : KernelState).install "/box" (constantProgram true "GPL") 1).attachId "/other" 1

theorem quiet_twiceAttached : twiceAttached.Quiet := by
  have hplain : KernelState.Plain (constantProgram true "GPL") :=
    KernelState.plain_encode (Program.encodable_constant true) "GPL" "base"
  have hone : (({} : KernelState).install "/box" (constantProgram true "GPL") 1).Quiet :=
    KernelState.quiet_empty.install hplain _ (by decide)
  rw [twiceAttached, KernelState.attachId]
  refine hone.setAttached _ fun id hid => ?_
  rcases List.mem_append.mp hid with hold | hnew
  · exact hone.held _ id hold
  · rw [List.mem_singleton.mp hnew]
    decide +kernel

theorem legible_twiceAttached {path : Path}
    (hattached : (twiceAttached.store.guarded guardThird).attached path = [1]) :
    (twiceAttached.store.guarded guardThird).Legible path where
  length := by
    rw [hattached]
    decide
  permitted := by
    rw [hattached]
    intro id hid cause hrefusal
    rw [List.mem_singleton.mp hid] at hrefusal
    cases hrefusal
  readable := by
    intro id hid p hp
    have hone : id ∈ [1] := hattached ▸ List.mem_of_mem_filter hid
    have hprogram : (twiceAttached.store.guarded guardThird).program? 1
        = some ⟨Program.constant true, "GPL", "base", true⟩ :=
      congrArg some (KernelState.kept_encode (Program.encodable_constant true) "GPL" "base")
    rw [List.mem_singleton.mp hone, hprogram] at hp
    cases hp
    exact ⟨Program.encodable_constant true, by decide⟩

def boxRules : List DeviceRule := [⟨false, "c", some 1, none, "rw"⟩]

def otherRules : List DeviceRule := [⟨true, "b", some 8, none, "r"⟩]

/-- The first application to either cgroup, and the second one to the other cgroup. -/
def boxFirst : Except FilterError ApplyOutcome × Metrics × KernelState :=
  (sharedManager.apply "/box" boxRules).exec .empty twiceAttached

def otherSecond : Except FilterError ApplyOutcome × Metrics × KernelState :=
  (sharedManager.apply "/other" otherRules).exec boxFirst.2.1 boxFirst.2.2

def otherFirst : Except FilterError ApplyOutcome × Metrics × KernelState :=
  (sharedManager.apply "/other" otherRules).exec .empty twiceAttached

def boxSecond : Except FilterError ApplyOutcome × Metrics × KernelState :=
  (sharedManager.apply "/box" boxRules).exec otherFirst.2.1 otherFirst.2.2

/-- The successors get their ids in the order of the applications. -/
theorem apply_commutes_twiceAttached :
    boxFirst.1 = .ok (.replaced 1 1) ∧ otherSecond.1 = .ok (.replaced 1 1) ∧
      otherFirst.1 = .ok (.replaced 1 1) ∧ boxSecond.1 = .ok (.replaced 1 1) ∧
      (∀ c, (twiceAttached.store.guarded guardThird).AttachedAlike
        (otherSecond.2.2.store.guarded guardThird) (boxSecond.2.2.store.guarded guardThird) c) ∧
      otherSecond.2.2.attachedTo "/box" = [2] ∧ boxSecond.2.2.attachedTo "/box" = [3] := by
  have hfaithful : (KernelState.view.guarded guardThird).Faithful sharedManager.kernel :=
    faithful_kernel.guarded
  have hshows : (KernelState.view.guarded guardThird).Shows twiceAttached
      (twiceAttached.store.guarded guardThird) := ⟨quiet_twiceAttached, rfl⟩
  have hbox : sharedManager.Owns (KernelState.view.guarded guardThird) "/box" :=
    fun s v hs => ⟨s, rfl, hs⟩
  have hother : sharedManager.Owns (KernelState.view.guarded guardThird) "/other" :=
    fun s v hs => ⟨s, rfl, hs⟩
  have hfirst : boxFirst.1 = .ok (.replaced 1 1) := by decide +kernel
  have hsecond : otherSecond.1 = .ok (.replaced 1 1) := by decide +kernel
  obtain ⟨ν₁, t₁, ν₂, t₂, w, w', hone, htwo, ⟨-, rfl⟩, ⟨-, rfl⟩, halike⟩ :=
    apply_commutes hfaithful hshows (x := "/box") (y := "/other") (by decide) hbox hother
      (legible_twiceAttached (by decide +kernel)) (legible_twiceAttached (by decide +kernel))
      (by decide +kernel) (Prod.ext hfirst rfl : boxFirst = (_, boxFirst.2))
      (Prod.ext hsecond rfl : otherSecond = (_, otherSecond.2))
  have hone' : otherFirst = (.ok (.replaced 1 1), ν₁, t₁) := hone
  have htwo' : boxSecond = (.ok (.replaced 1 1), ν₂, t₂) := by
    rw [boxSecond, hone']
    exact htwo
  have hids : otherSecond.2.2.attachedTo "/box" = [2] ∧ boxSecond.2.2.attachedTo "/box" = [3] := by
    decide +kernel
  rw [htwo'] at hids ⊢
  rw [hone']
  exact ⟨hfirst, hsecond, rfl, rfl, halike, hids⟩

end Manager

end DeviceFilter

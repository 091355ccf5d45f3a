import DeviceFilter.Manager
import DeviceFilter.Proofs.Counted
import DeviceFilter.Proofs.Path
import DeviceFilter.Simulation.Kernel

/-!
Cgroups of other managers. A process table whose answers do not change is a table of facts: each
process has a parent or none that can be read, and a name or none that can be read. A manager is
found exactly when some walk from parent to parent, within the bound and above the first process,
ends at a process with a manager's name. Names on the way do not matter.

Nothing is assumed about the facts; parents may run in circles.
-/
set_option autoImplicit false

namespace DeviceFilter

/-- The parents and names of processes, with the reasons why some cannot be read. -/
structure ProcessFacts where
  parentOf : Int → Except SystemError Int
  nameOf : Int → Except SystemError String

/-- The table answers with these facts whenever it is asked. -/
structure ProcessTable.Tells {σ : Type} (processes : ProcessTable (StateM σ))
    (facts : ProcessFacts) : Prop where
  parentOf : ∀ pid s, (processes.parentOf pid s).1 = facts.parentOf pid
  nameOf : ∀ pid s, (processes.nameOf pid s).1 = facts.nameOf pid

namespace ProcessFacts

variable {facts : ProcessFacts} {managers : List String} {pid : Int} {hops k : Nat}
variable {a : Nat → Int}

/-- The process has a name that can be read, and it is a manager's. -/
def IsManager (facts : ProcessFacts) (managers : List String) (pid : Int) : Prop :=
  ∃ name, facts.nameOf pid = .ok name ∧ name ∈ managers

/-- The walk `a` goes from a process to its parent, `k` times, stays above the first process and
ends at a manager. -/
structure LeadsTo (facts : ProcessFacts) (managers : List String) (pid : Int) (k : Nat)
    (a : Nat → Int) : Prop where
  start : a 0 = pid
  parent : ∀ j < k, facts.parentOf (a j) = .ok (a (j + 1)) ∧ 1 < a (j + 1)
  manager : facts.IsManager managers (a k)

/-- Some walk of at least one and at most so many hops leads to a manager. -/
def Managed (facts : ProcessFacts) (managers : List String) (hops : Nat) (pid : Int) : Prop :=
  ∃ k a, 1 ≤ k ∧ k ≤ hops ∧ facts.LeadsTo managers pid k a

/-- The walk after its first hop. -/
theorem LeadsTo.tail (h : facts.LeadsTo managers pid (k + 1) a) :
    facts.LeadsTo managers (a 1) k fun j => a (j + 1) where
  start := rfl
  parent j hj := h.parent (j + 1) (Nat.succ_lt_succ hj)
  manager := h.manager

theorem LeadsTo.cons {parent : Int} (h : facts.LeadsTo managers parent k a)
    (hparent : facts.parentOf pid = .ok parent) (habove : 1 < parent) :
    facts.LeadsTo managers pid (k + 1) fun
      | 0 => pid
      | j + 1 => a j where
  start := rfl
  parent j hj := by
    cases j with
    | zero =>
      change facts.parentOf pid = .ok (a 0) ∧ 1 < a 0
      rw [h.start]
      exact ⟨hparent, habove⟩
    | succ j => exact h.parent j (Nat.lt_of_succ_lt_succ hj)
  manager := h.manager

theorem managed_zero : ¬ facts.Managed managers 0 pid := by
  rintro ⟨k, a, hk, hzero, -⟩
  omega

/-- One hop of a walk. -/
theorem managed_succ_iff : facts.Managed managers (hops + 1) pid ↔
    ∃ parent, facts.parentOf pid = .ok parent ∧ 1 < parent ∧
      (facts.IsManager managers parent ∨ facts.Managed managers hops parent) := by
  constructor
  · rintro ⟨k, a, hk, hhops, hwalk⟩
    obtain ⟨k, rfl⟩ := Nat.exists_eq_succ_of_ne_zero (Nat.ne_of_gt hk)
    obtain ⟨hparent, habove⟩ := hwalk.parent 0 (Nat.succ_pos k)
    rw [hwalk.start] at hparent
    refine ⟨a 1, hparent, habove, ?_⟩
    cases k with
    | zero => exact .inl hwalk.manager
    | succ k =>
      exact .inr ⟨k + 1, _, Nat.succ_pos k, Nat.le_of_succ_le_succ hhops, hwalk.tail⟩
  · rintro ⟨parent, hparent, habove, hmanager | ⟨k, a, hk, hhops, hwalk⟩⟩
    · have hself : facts.LeadsTo managers parent 0 fun _ => parent :=
        ⟨rfl, fun j hj => absurd hj (Nat.not_lt_zero j), hmanager⟩
      exact ⟨1, _, Nat.le_refl 1, Nat.succ_pos hops, hself.cons hparent habove⟩
    · exact ⟨k + 1, _, Nat.succ_pos k, Nat.succ_le_succ hhops, hwalk.cons hparent habove⟩

/-- `other` has the same parents and the name of every manager that can be read in `facts`. Other
names may be unreadable in it. -/
structure KeepsManagers (facts other : ProcessFacts) (managers : List String) : Prop where
  parentOf : other.parentOf = facts.parentOf
  nameOf : ∀ pid name, name ∈ managers → facts.nameOf pid = .ok name →
    other.nameOf pid = .ok name

theorem Managed.mono {other : ProcessFacts} {others : List String} {more : Nat}
    (h : facts.Managed managers hops pid) (hfacts : facts.KeepsManagers other managers)
    (hmanagers : managers ⊆ others) (hhops : hops ≤ more) :
    other.Managed others more pid := by
  obtain ⟨k, a, hk, hbound, hwalk⟩ := h
  refine ⟨k, a, hk, Nat.le_trans hbound hhops, hwalk.start, ?_, ?_⟩
  · rw [hfacts.parentOf]
    exact hwalk.parent
  · obtain ⟨name, hname, hmember⟩ := hwalk.manager
    exact ⟨name, hfacts.nameOf _ name hmember hname, hmanagers hmember⟩

end ProcessFacts

namespace Manager

variable {σ Handle Cgroup : Type} {manager : Manager (StateM σ) Handle Cgroup}
variable {facts : ProcessFacts}

theorem hasManagerAbove_iff (h : manager.processes.Tells facts) (hops : Nat) (pid : Int) (s : σ) :
    (manager.hasManagerAbove hops pid s).1 = true ↔
      facts.Managed manager.config.externalManager.managers hops pid := by
  induction hops generalizing pid s with
  | zero =>
    refine ⟨fun hfound => ?_, fun hmanaged => absurd hmanaged ProcessFacts.managed_zero⟩
    cases hfound
  | succ hops ih =>
    have hparent := h.parentOf pid s
    rw [hasManagerAbove, Counted.bind_apply, hparent, ProcessFacts.managed_succ_iff]
    cases hread : facts.parentOf pid with
    | error cause =>
      refine ⟨fun hfound => ?_, fun ⟨parent, hok, _⟩ => ?_⟩
      · cases hfound
      · cases hok
    | ok parent =>
      simp only [Except.ok.injEq, exists_eq_left']
      by_cases hfirst : parent ≤ 1
      · rw [if_pos hfirst]
        refine ⟨fun hfound => ?_, fun ⟨habove, _⟩ => absurd hfirst (Int.not_le.mpr habove)⟩
        cases hfound
      · have hname := h.nameOf parent (manager.processes.parentOf pid s).2
        rw [if_neg hfirst, Counted.bind_apply, hname, and_iff_right (Int.not_le.mp hfirst)]
        cases hreadName : facts.nameOf parent with
        | error cause =>
          have hunnamed : ¬ facts.IsManager manager.config.externalManager.managers parent := by
            rintro ⟨name, hok, -⟩
            cases hreadName.symm.trans hok
          rw [or_iff_right hunnamed]
          exact ih parent _
        | ok name =>
          have hmanager : facts.IsManager manager.config.externalManager.managers parent ↔
              name ∈ manager.config.externalManager.managers := by
            simp only [ProcessFacts.IsManager, hreadName, Except.ok.injEq, exists_eq_left']
          dsimp only
          rw [hmanager, ← List.contains_iff_mem]
          split
          · rename_i hknown
            exact ⟨fun _ => .inl hknown, fun _ => rfl⟩
          · rename_i hknown
            rw [or_iff_right hknown]
            exact ih parent _

theorem hasScopeName_iff {suffix : String} {path : Path} :
    hasScopeName suffix path = true ↔
      ∃ name, Path.FinalComponent path name ∧ suffix.toList <:+ name := by
  simp only [← Path.fileName?_eq_some_iff]
  unfold hasScopeName
  cases Path.fileName? path.toList with
  | none => simp
  | some name => simp

/-- Another manager that leaves no cgroup to fewer managers: it tests the same paths, asks for the
same process, and knows no fewer managers, looks no less far up and reads no fewer of their names. -/
structure LeavesMore (manager other : Manager (StateM σ) Handle Cgroup)
    (facts otherFacts : ProcessFacts) : Prop where
  enabled : other.config.externalManager.enabled = manager.config.externalManager.enabled
  scopeSuffix : other.config.externalManager.scopeSuffix
    = manager.config.externalManager.scopeSuffix
  current : other.processes.current = manager.processes.current
  managers : manager.config.externalManager.managers ⊆ other.config.externalManager.managers
  maxAncestors : manager.config.externalManager.maxAncestors
    ≤ other.config.externalManager.maxAncestors
  facts : facts.KeepsManagers otherFacts manager.config.externalManager.managers

theorem isExternallyManaged_iff_managed (h : manager.processes.Tells facts) (path : Path) (s : σ) :
    (manager.isExternallyManaged path s).1 = true ↔
      manager.config.externalManager.enabled = true ∧
      (∃ name, Path.FinalComponent path name ∧
        manager.config.externalManager.scopeSuffix.toList <:+ name) ∧
      facts.Managed manager.config.externalManager.managers
        manager.config.externalManager.maxAncestors manager.processes.current := by
  rw [isExternallyManaged, ← hasScopeName_iff, ← hasManagerAbove_iff h _ _ s]
  split
  · rename_i htest
    rw [Bool.and_eq_true] at htest
    rw [and_iff_right htest.1, and_iff_right htest.2]
  · rename_i htest
    rw [Bool.and_eq_true] at htest
    refine ⟨fun hfound => ?_, fun ⟨henabled, hscope, _⟩ => absurd ⟨henabled, hscope⟩ htest⟩
    cases hfound

/-- A cgroup is left to another manager exactly when its name says so and a walk to a manager shows
it. Names that cannot be read hide no manager, and to look further or for more managers loses
none. -/
theorem isExternallyManaged_iff_walk (h : manager.processes.Tells facts) (path : Path) (s : σ) :
    ((manager.isExternallyManaged path s).1 = true ↔
      manager.config.externalManager.enabled = true ∧
      (∃ name, Path.FinalComponent path name ∧
        manager.config.externalManager.scopeSuffix.toList <:+ name) ∧
      ∃ k a, 1 ≤ k ∧ k ≤ manager.config.externalManager.maxAncestors ∧
        facts.LeadsTo manager.config.externalManager.managers manager.processes.current k a) ∧
    ∀ (other : Manager (StateM σ) Handle Cgroup) (otherFacts : ProcessFacts) (s' : σ),
      other.processes.Tells otherFacts → manager.LeavesMore other facts otherFacts →
      (manager.isExternallyManaged path s).1 = true →
      (other.isExternallyManaged path s').1 = true := by
  refine ⟨isExternallyManaged_iff_managed h path s, ?_⟩
  intro other otherFacts s' hother hmore hmanaged
  obtain ⟨henabled, hscope, hwalk⟩ := (isExternallyManaged_iff_managed h path s).mp hmanaged
  refine (isExternallyManaged_iff_managed hother path s').mpr ⟨?_, ?_, ?_⟩
  · rw [hmore.enabled, henabled]
  · rw [hmore.scopeSuffix]
    exact hscope
  · rw [hmore.current]
    exact hwalk.mono hmore.facts hmore.managers hmore.maxAncestors

end Manager

/-! ## Parents in a circle -/

def ProcessFacts.table {σ : Type} (facts : ProcessFacts) (current : Int) :
    ProcessTable (StateM σ) where
  current := current
  parentOf pid := pure (facts.parentOf pid)
  nameOf pid := pure (facts.nameOf pid)

/-- Process 5 was started by 4, 4 by 3 and 3 by 5; only 3 and 4 have names. -/
def circularFacts (nameOfFourth : Except SystemError String) : ProcessFacts where
  parentOf pid := if pid = 5 then .ok 4 else if pid = 4 then .ok 3 else .ok 5
  nameOf pid := if pid = 4 then nameOfFourth else if pid = 3 then .ok "crun" else .ok ""

theorem leadsTo_circularFacts (nameOfFourth : Except SystemError String) :
    (circularFacts nameOfFourth).LeadsTo ["crun"] 5 2 fun j => 5 - j where
  start := rfl
  parent j hj := by
    rcases (by omega : j = 0 ∨ j = 1) with rfl | rfl
    · exact ⟨rfl, by decide⟩
    · exact ⟨rfl, by decide⟩
  manager := ⟨"crun", rfl, List.mem_cons_self⟩

theorem keepsManagers_circularFacts (nameOfFourth : Except SystemError String) :
    (circularFacts (.ok "sh")).KeepsManagers (circularFacts nameOfFourth) ["crun"] where
  parentOf := rfl
  nameOf pid name hmember hread := by
    by_cases hfourth : pid = 4
    · subst hfourth
      have hcrun : name = "crun" := List.mem_singleton.mp hmember
      rw [hcrun] at hread
      exact absurd (Except.ok.inj hread) (by decide)
    · rw [← hread]
      simp only [circularFacts, if_neg hfourth]

def circularManager (external : ExternalManager) (facts : ProcessFacts) :
    Manager (StateM Simulation.KernelState) UInt32 Path where
  kernel := Simulation.SimulatedKernel.kernel
  processes := facts.table 5
  config := { externalManager := external }

/-- The manager two hops up is found past a shell, and still when the shell's name cannot be read
and more managers are looked for. -/
theorem Manager.isExternallyManaged_iff_walk_circle :
    ((circularManager {} (circularFacts (.ok "sh"))).isExternallyManaged "/a/box.scope" {}).1
        = true ∧
      ((circularManager { managers := ["runc", "crun"], maxAncestors := 11 }
        (circularFacts (.error (.errno Errno.noEntry)))).isExternallyManaged "/a/box.scope" {}).1
        = true := by
  have htells (external : ExternalManager) (facts : ProcessFacts) :
      (circularManager external facts).processes.Tells facts := ⟨fun _ _ => rfl, fun _ _ => rfl⟩
  obtain ⟨hiff, hmore⟩ := Manager.isExternallyManaged_iff_walk
    (htells {} (circularFacts (.ok "sh"))) "/a/box.scope" {}
  have hname : Path.FinalComponent "/a/box.scope" "box.scope".toList :=
    Path.fileName?_eq_some_iff.mp (by decide)
  have hmanaged := hiff.mpr
    ⟨rfl, ⟨_, hname, by decide⟩, 2, _, by decide, by decide, leadsTo_circularFacts _⟩
  refine ⟨hmanaged, hmore _ _ {} (htells _ _) ?_ hmanaged⟩
  constructor
  · rfl
  · rfl
  · rfl
  · exact List.subset_cons_self _ _
  · exact Nat.le_succ 10
  · exact keepsManagers_circularFacts _

end DeviceFilter

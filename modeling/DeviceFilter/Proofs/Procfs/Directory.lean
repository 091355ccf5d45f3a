import DeviceFilter.Proofs.Procfs.Stripped
import Mathlib

/-!
Where the directory of a device cgroup lies. Slashes in front of a mount point or a cgroup path are
left out, so that neither is taken for an absolute path, and the root under which the tables were
found always begins the directory.

Still a device cgroup can lie outside of its mount. Below the mount point the directory has what is
left of the cgroup path. A mount whose root goes up at once is refused, but a cgroup path may have a
`..` anywhere. Unless the path runs on after the root, such a path is the only way to a directory
outside.
-/
set_option autoImplicit false

namespace DeviceFilter.Procfs

open DeviceFilter.Path

theorem directory_eq_join (procRoot mountPath root : Path) :
    directory procRoot mountPath root
      = (procRoot.join (relative mountPath)).join (relative root) := rfl

/-! ## The root under which the tables were found -/

section
variable {σ : Type} {files : FileAccess (StateM σ)} {version : CgroupVersion} {procRoot dir : Path}
variable {pid : Int} {s s' : σ}

theorem directory_eq_under (procRoot mountPath root : Path) :
    directory procRoot mountPath root
      = under (under procRoot (relative mountPath)) (relative root) := by
  rw [directory_eq_join, join_eq_under (head?_relative_ne mountPath),
    join_eq_under (head?_relative_ne root)]

/-- Neither table can replace the root: it begins the directory, and the mount point comes before
the cgroup path in it. -/
theorem deviceDirectory_extends_procRoot :
    deviceDirectory files version procRoot pid s = (.ok dir, s') ↔
      ∃ mount s₁ root, deviceMount files version procRoot pid s = (.ok mount, s₁) ∧
        deviceRoot files version procRoot mount.root pid s₁ = (.ok root, s') ∧
        dir = under (under procRoot (relative mount.mountPath)) (relative root) ∧
        ∃ gap gap' : String, (gap = "" ∨ gap = "/") ∧ (gap' = "" ∨ gap' = "/") ∧
          dir = procRoot ++ gap ++ relative mount.mountPath ++ gap' ++ relative root := by
  rw [deviceDirectory_eq_ok_iff]
  simp only [directory_eq_under]
  constructor
  · intro h
    obtain ⟨mount, s₁, root, hmount, hroot, rfl⟩ := h
    obtain ⟨gap, hgap, hfirst⟩ := exists_gap procRoot (relative mount.mountPath)
    obtain ⟨gap', hgap', hsecond⟩ :=
      exists_gap (under procRoot (relative mount.mountPath)) (relative root)
    refine ⟨mount, s₁, root, hmount, hroot, rfl, gap, gap', hgap, hgap', ?_⟩
    rw [hsecond, hfirst]
  · intro h
    obtain ⟨mount, s₁, root, hmount, hroot, hdir, -⟩ := h
    exact ⟨mount, s₁, root, hmount, hroot, hdir⟩

end

/-! ## The way up in what is left of a path -/

namespace LiesBelow

variable {root path rest : String}

theorem climbs_path (h : LiesBelow root path rest) (hrest : Climbs rest) : Climbs path := by
  rcases h with rfl | ⟨rfl, hstart⟩
  · exact hrest
  · exact (climbs_append_iff hstart).mpr (.inr hrest)

theorem climbs_rest (h : LiesBelow root path rest) (hroot : ¬ Climbs root)
    (hpath : Climbs path) : Climbs rest := by
  rcases h with rfl | ⟨rfl, hstart⟩
  · exact hpath
  · exact ((climbs_append_iff hstart).mp hpath).resolve_left hroot

end LiesBelow

/-! ## The directory -/

section
variable {σ : Type} {files : FileAccess (StateM σ)} {version : CgroupVersion} {procRoot dir : Path}
variable {pid : Int} {s s' : σ}

/-- Below the mount point the directory goes up only where the cgroup path does, unless that path
runs on after the root of the mount. -/
theorem deviceDirectory_climbs
    (h : deviceDirectory files version procRoot pid s = (.ok dir, s')) :
    ∃ s₁ mounts mount cgroups e rest,
      files.readText (processFile procRoot pid "mountinfo") s = (.ok mounts, s₁) ∧
      FirstWanted MountEntry.ofLine? version.wantsMount (Text.filledLines mounts.toList) mount ∧
      ¬ ['/', '.', '.'] <+: mount.root.toList ∧
      files.readText (processFile procRoot pid "cgroup") s₁ = (.ok cgroups, s') ∧
      FirstWanted CgroupEntry.ofLine? version.wantsCgroup (Text.filledLines cgroups.toList) e ∧
      dir = (procRoot.join (relative mount.mountPoint)).join rest ∧
      rest.toList.head? ≠ some '/' ∧
      (¬ RunsOn mount.root e.path →
        (Climbs rest → Climbs e.path) ∧ (¬ Climbs mount.root → Climbs e.path → Climbs rest)) ∧
      (RunsOn mount.root e.path →
        ∃ leftover, e.path = mount.root ++ leftover ∧ (Climbs rest ↔ Climbs leftover)) := by
  obtain ⟨point, s₁, root, hmount, hroot, rfl⟩ := deviceDirectory_eq_ok_iff.mp h
  obtain ⟨mounts, mount, hmounts, hfirst, hinside, rfl⟩ := deviceMount_eq_ok_iff.mp hmount
  obtain ⟨cgroups, e, hcgroups, hentry, rfl⟩ := deviceRoot_eq_ok_iff.mp hroot
  refine ⟨s₁, mounts, mount, cgroups, e, relative (belowRoot mount.root e.path), hmounts, hfirst,
    hinside, hcgroups, hentry, directory_eq_join _ _ _, head?_relative_ne _, fun hruns => ?_,
    fun hruns => ?_⟩
  · have hlies : LiesBelow mount.root e.path (belowRoot mount.root e.path) :=
      liesBelow_belowRoot_iff.mpr hruns
    rw [climbs_relative_iff]
    exact ⟨hlies.climbs_path, hlies.climbs_rest⟩
  · exact ⟨belowRoot mount.root e.path, append_belowRoot_of_runsOn hruns, climbs_relative_iff⟩

end

/-- A container whose hierarchy is mounted from the directory of its engine. -/
def nestedFiles : FileAccess (StateM Unit) :=
  tablesOf "/host" 7 "30 22 0:26 /kubepods /sys/fs/cgroup rw - cgroup2 cgroup2 rw\n"
    "0::/kubepods/pod1/ctr\n"

theorem deviceMount_nestedFiles :
    deviceMount nestedFiles .v2 "/host" 7 () = (.ok ⟨"/kubepods", "/sys/fs/cgroup"⟩, ()) := by
  have hof (path : Path) :
      deviceMountOf .v2 path "30 22 0:26 /kubepods /sys/fs/cgroup rw - cgroup2 cgroup2 rw\n"
        = .ok ⟨"/kubepods", "/sys/fs/cgroup"⟩ := by cbv
  rw [nestedFiles, deviceMount_tablesOf, hof]

theorem deviceDirectory_climbs_nested :
    deviceDirectory nestedFiles .v2 "/host" 7 () = (.ok "/host/sys/fs/cgroup/pod1/ctr", ()) ∧
      ∃ s₁ mounts mount cgroups e rest,
        nestedFiles.readText (processFile "/host" 7 "mountinfo") () = (.ok mounts, s₁) ∧
        FirstWanted MountEntry.ofLine? (CgroupVersion.wantsMount .v2)
          (Text.filledLines mounts.toList) mount ∧
        ¬ ['/', '.', '.'] <+: mount.root.toList ∧
        nestedFiles.readText (processFile "/host" 7 "cgroup") s₁ = (.ok cgroups, ()) ∧
        FirstWanted CgroupEntry.ofLine? (CgroupVersion.wantsCgroup .v2)
          (Text.filledLines cgroups.toList) e ∧
        "/host/sys/fs/cgroup/pod1/ctr" = (Path.join "/host" (relative mount.mountPoint)).join rest ∧
        rest.toList.head? ≠ some '/' ∧
        (¬ RunsOn mount.root e.path →
          (Climbs rest → Climbs e.path) ∧ (¬ Climbs mount.root → Climbs e.path → Climbs rest)) ∧
        (RunsOn mount.root e.path →
          ∃ leftover, e.path = mount.root ++ leftover ∧ (Climbs rest ↔ Climbs leftover)) := by
  have hroot : deviceRoot nestedFiles .v2 "/host" "/kubepods" 7 () = (.ok "/pod1/ctr", ()) := by
    rw [nestedFiles, deviceRoot_tablesOf]
    rfl
  have hdir : deviceDirectory nestedFiles .v2 "/host" 7 ()
      = (.ok "/host/sys/fs/cgroup/pod1/ctr", ()) :=
    deviceDirectory_eq_ok_iff.mpr
      ⟨⟨"/kubepods", "/sys/fs/cgroup"⟩, (), "/pod1/ctr", deviceMount_nestedFiles, hroot, by decide⟩
  exact ⟨hdir, deviceDirectory_climbs hdir⟩

/-- A process whose cgroup path goes up. -/
def climbingFiles : FileAccess (StateM Unit) :=
  tablesOf "/host" 7 "30 22 0:26 / /sys/fs/cgroup rw - cgroup2 cgroup2 rw\n" "0::/../escape\n"

theorem deviceMount_climbingFiles :
    deviceMount climbingFiles .v2 "/host" 7 () = (.ok ⟨"/", "/sys/fs/cgroup"⟩, ()) := by
  have hof (path : Path) :
      deviceMountOf .v2 path "30 22 0:26 / /sys/fs/cgroup rw - cgroup2 cgroup2 rw\n"
        = .ok ⟨"/", "/sys/fs/cgroup"⟩ := by cbv
  rw [climbingFiles, deviceMount_tablesOf, hof]

/-- The directory of a process may lie outside of the mount. -/
theorem deviceDirectory_climbingFiles :
    deviceDirectory climbingFiles .v2 "/host" 7 () = (.ok "/host/sys/fs/cgroup/../escape", ()) ∧
      deviceMount climbingFiles .v2 "/host" 7 () = (.ok ⟨"/", "/sys/fs/cgroup"⟩, ()) ∧
      "/host/sys/fs/cgroup/../escape"
        = (Path.join "/host" (relative "/sys/fs/cgroup")).join "../escape" ∧
      Climbs "../escape" := by
  have hroot : deviceRoot climbingFiles .v2 "/host" "/" 7 () = (.ok "/../escape", ()) := by
    rw [climbingFiles, deviceRoot_tablesOf]
    rfl
  have hdir : deviceDirectory climbingFiles .v2 "/host" 7 ()
      = (.ok "/host/sys/fs/cgroup/../escape", ()) :=
    deviceDirectory_eq_ok_iff.mpr
      ⟨⟨"/", "/sys/fs/cgroup"⟩, (), "/../escape", deviceMount_climbingFiles, hroot, by decide⟩
  exact ⟨hdir, deviceMount_climbingFiles, by decide, by decide⟩

end DeviceFilter.Procfs

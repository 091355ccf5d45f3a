import DeviceFilter.Procfs.Lookup
import DeviceFilter.Proofs.Counted
import DeviceFilter.Proofs.Path
import DeviceFilter.Proofs.Text.Utf8

/-!
Searches in a process's tables. A search succeeds exactly when it comes to a wanted line behind
lines that can be read and are not wanted.

Nothing is assumed about the files; reading one may even change them.
-/
set_option autoImplicit false

namespace DeviceFilter

/-- Whether a mount governs devices for a version. -/
def CgroupVersion.wantsMount : CgroupVersion → MountEntry → Bool
  | v1 => MountEntry.isDevicesV1
  | v2 => MountEntry.isV2

/-- Whether a hierarchy governs devices for a version. -/
def CgroupVersion.wantsCgroup : CgroupVersion → CgroupEntry → Bool
  | v1 => CgroupEntry.hasDevices
  | v2 => CgroupEntry.isUnified

/-- The mount on a line that can be read. -/
def MountEntry.ofLine? (line : List Char) : Option MountEntry := (ofLine line).toOption

namespace Procfs

/-- `e` is on the first wanted line, and every line before it can be read. -/
inductive FirstWanted {α : Type} (read : List Char → Option α) (wanted : α → Bool) :
    List (List Char) → α → Prop
  | here {line : List Char} {lines : List (List Char)} {e : α} (hread : read line = some e)
      (hwanted : wanted e = true) : FirstWanted read wanted (line :: lines) e
  | later {line : List Char} {lines : List (List Char)} {other e : α}
      (hread : read line = some other) (hwanted : wanted other = false)
      (h : FirstWanted read wanted lines e) : FirstWanted read wanted (line :: lines) e

namespace FirstWanted

variable {α : Type} {read : List Char → Option α} {wanted : α → Bool} {line : List Char}
variable {lines : List (List Char)} {e other : α}

theorem cons_iff_of_none (h : read line = none) :
    FirstWanted read wanted (line :: lines) e ↔ False := by
  refine ⟨fun hfirst => ?_, False.elim⟩
  cases hfirst with
  | here hread => cases h.symm.trans hread
  | later hread => cases h.symm.trans hread

theorem cons_iff_of_some (h : read line = some other) :
    FirstWanted read wanted (line :: lines) e ↔
      if wanted other then e = other else FirstWanted read wanted lines e := by
  constructor
  · intro hfirst
    cases hfirst with
    | here hread hwanted =>
      cases h.symm.trans hread
      rw [if_pos hwanted]
    | later hread hwanted hrest =>
      cases h.symm.trans hread
      rwa [if_neg (by simp [hwanted])]
  · split
    · rintro rfl
      exact .here h ‹_›
    · exact fun hrest => .later h (eq_false_of_ne_true ‹_›) hrest

end FirstWanted

/-! ## Lines and texts -/

section
variable {path : Path} {root what : String} {lines : List (List Char)}

theorem mountIn_eq_ok_iff {wanted : MountEntry → Bool} {mount : MountPoint} :
    mountIn path wanted what lines = .ok mount ↔
      ∃ e, FirstWanted MountEntry.ofLine? wanted lines e ∧
        ¬ ['/', '.', '.'] <+: e.root.toList ∧ mount = ⟨e.root, e.mountPoint⟩ := by
  induction lines with
  | nil =>
    constructor
    · rintro ⟨⟩
    · rintro ⟨e, ⟨⟩, -⟩
  | cons line lines ih =>
    rw [mountIn]
    cases hread : MountEntry.ofLine line with
    | error fault =>
      have hnone : MountEntry.ofLine? line = none := congrArg Except.toOption hread
      simp [FirstWanted.cons_iff_of_none hnone]
    | ok e =>
      have hsome : MountEntry.ofLine? line = some e := congrArg Except.toOption hread
      cases hwanted : wanted e with
      | false => simpa [FirstWanted.cons_iff_of_some hsome, hwanted] using ih
      | true =>
        simp only [FirstWanted.cons_iff_of_some hsome, hwanted, Text.isSome_dropLead?_iff]
        by_cases houtside : ['/', '.', '.'] <+: e.root.toList
        · simp [houtside]
        · simp [houtside, eq_comm]

theorem rootIn_eq_ok_iff {wanted : CgroupEntry → Bool} {r : String} :
    rootIn path root wanted what lines = .ok r ↔
      ∃ e, FirstWanted CgroupEntry.ofLine? wanted lines e ∧ r = belowRoot root e.path := by
  induction lines with
  | nil =>
    constructor
    · rintro ⟨⟩
    · rintro ⟨e, ⟨⟩, -⟩
  | cons line lines ih =>
    rw [rootIn]
    cases hread : CgroupEntry.ofLine? line with
    | none => simp [FirstWanted.cons_iff_of_none hread]
    | some e =>
      cases hwanted : wanted e with
      | false => simpa [FirstWanted.cons_iff_of_some hread, hwanted] using ih
      | true => simp [FirstWanted.cons_iff_of_some hread, hwanted, eq_comm]

/-- What is left of the path of the first wanted hierarchy. -/
theorem deviceRootOf_eq_ok_iff {version : CgroupVersion} {text r : String} :
    deviceRootOf version path root text = .ok r ↔
      ∃ e, FirstWanted CgroupEntry.ofLine? version.wantsCgroup (Text.filledLines text.toList) e ∧
        r = belowRoot root e.path := by
  cases version with
  | v1 => exact rootIn_eq_ok_iff
  | v2 => exact rootIn_eq_ok_iff

theorem deviceMountOf_eq_ok_iff {version : CgroupVersion} {text : String} {mount : MountPoint} :
    deviceMountOf version path text = .ok mount ↔
      ∃ e, FirstWanted MountEntry.ofLine? version.wantsMount (Text.filledLines text.toList) e ∧
        ¬ ['/', '.', '.'] <+: e.root.toList ∧ mount = ⟨e.root, e.mountPoint⟩ := by
  cases version with
  | v1 => exact mountIn_eq_ok_iff
  | v2 => exact mountIn_eq_ok_iff

end

/-! ## Tables -/

section
variable {σ α : Type} {files : FileAccess (StateM σ)} {s s' : σ}

/-- A computation that goes on only after a success succeeds behind one. -/
theorem exists_of_bind_eq_ok {ε δ β : Type} {x : StateM σ (Except ε α)}
    {next : Except ε α → StateM σ (Except δ β)} {b : β} (h : (x >>= next) s = (.ok b, s'))
    (herror : ∀ e s₁, ∃ d, (next (.error e) s₁).1 = .error d) :
    ∃ a s₁, x s = (.ok a, s₁) ∧ next (.ok a) s₁ = (.ok b, s') := by
  rw [Counted.bind_apply] at h
  cases hx : x s with
  | mk result s₁ =>
    rw [hx] at h
    cases result with
    | error e =>
      obtain ⟨d, hd⟩ := herror e s₁
      cases hd.symm.trans (congrArg Prod.fst h)
    | ok a => exact ⟨a, s₁, rfl, h⟩

theorem readTable_eq_ok_iff {path : Path} {search : String → Except LookupError α} {a : α} :
    readTable files path search s = (.ok a, s') ↔
      ∃ text, files.readText path s = (.ok text, s') ∧ search text = .ok a := by
  constructor
  · intro h
    obtain ⟨text, s₁, hread, hsearch⟩ := exists_of_bind_eq_ok h fun _ _ => ⟨_, rfl⟩
    obtain ⟨hok, rfl⟩ := Prod.mk.inj hsearch
    exact ⟨text, hread, hok⟩
  · rintro ⟨text, hread, hsearch⟩
    rw [readTable, Counted.bind_apply, hread]
    exact congrArg (·, s') hsearch

theorem deviceRoot_eq_ok_iff {version : CgroupVersion} {procRoot : Path} {root r : String}
    {pid : Int} :
    deviceRoot files version procRoot root pid s = (.ok r, s') ↔
      ∃ text e, files.readText (processFile procRoot pid "cgroup") s = (.ok text, s') ∧
        FirstWanted CgroupEntry.ofLine? version.wantsCgroup (Text.filledLines text.toList) e ∧
        r = belowRoot root e.path := by
  rw [deviceRoot, readTable_eq_ok_iff]
  simp only [deviceRootOf_eq_ok_iff, exists_and_left]

theorem deviceMount_eq_ok_iff {version : CgroupVersion} {procRoot : Path} {mount : MountPoint}
    {pid : Int} :
    deviceMount files version procRoot pid s = (.ok mount, s') ↔
      ∃ text e, files.readText (processFile procRoot pid "mountinfo") s = (.ok text, s') ∧
        FirstWanted MountEntry.ofLine? version.wantsMount (Text.filledLines text.toList) e ∧
        ¬ ['/', '.', '.'] <+: e.root.toList ∧ mount = ⟨e.root, e.mountPoint⟩ := by
  rw [deviceMount, readTable_eq_ok_iff]
  simp only [deviceMountOf_eq_ok_iff, exists_and_left]

theorem deviceDirectory_eq_ok_iff {version : CgroupVersion} {procRoot dir : Path} {pid : Int} :
    deviceDirectory files version procRoot pid s = (.ok dir, s') ↔
      ∃ mount s₁ root, deviceMount files version procRoot pid s = (.ok mount, s₁) ∧
        deviceRoot files version procRoot mount.root pid s₁ = (.ok root, s') ∧
        dir = directory procRoot mount.mountPath root := by
  constructor
  · intro h
    obtain ⟨mount, s₁, hmount, hrest⟩ := exists_of_bind_eq_ok h fun _ _ => ⟨_, rfl⟩
    obtain ⟨root, s₂, hroot, hdir⟩ := exists_of_bind_eq_ok hrest fun _ _ => ⟨_, rfl⟩
    obtain ⟨hok, rfl⟩ := Prod.mk.inj hdir
    exact ⟨mount, s₁, root, hmount, hroot, (Except.ok.inj hok).symm⟩
  · rintro ⟨mount, s₁, root, hmount, hroot, rfl⟩
    rw [deviceDirectory, Counted.bind_apply, hmount]
    dsimp only
    rw [Counted.bind_apply, hroot]
    rfl

end

/-! ## Files with the tables of one process -/

/-- The two tables of a process, and nothing else. -/
def tablesOf (procRoot : Path) (pid : Int) (mounts cgroups : String) :
    FileAccess (StateM Unit) where
  read path :=
    pure <|
      if path = processFile procRoot pid "mountinfo" then .ok (Utf8.encode mounts.toList)
      else if path = processFile procRoot pid "cgroup" then .ok (Utf8.encode cgroups.toList)
      else .error (.errno Errno.noEntry)
  readLink _ := pure (.error (.errno Errno.noEntry))
  append _ _ := pure (.error (.errno Errno.noEntry))

section
variable (procRoot : Path) (pid : Int) (mounts cgroups : String)

theorem readText_tablesOf_mountinfo :
    (tablesOf procRoot pid mounts cgroups).readText (processFile procRoot pid "mountinfo") ()
      = (.ok mounts, ()) := by
  have hread : (tablesOf procRoot pid mounts cgroups).read (processFile procRoot pid "mountinfo")
      = pure (.ok (Utf8.encode mounts.toList)) := congrArg pure (if_pos rfl)
  rw [FileAccess.readText, hread]
  exact congrArg (·, ()) (textOf_encode mounts)

theorem readText_tablesOf_cgroup :
    (tablesOf procRoot pid mounts cgroups).readText (processFile procRoot pid "cgroup") ()
      = (.ok cgroups, ()) := by
  have hother : processFile procRoot pid "cgroup" ≠ processFile procRoot pid "mountinfo" :=
    fun h => absurd (Path.join_right_injective (by decide) (by decide) h) (by decide)
  have hread : (tablesOf procRoot pid mounts cgroups).read (processFile procRoot pid "cgroup")
      = pure (.ok (Utf8.encode cgroups.toList)) :=
    congrArg pure ((if_neg hother).trans (if_pos rfl))
  rw [FileAccess.readText, hread]
  exact congrArg (·, ()) (textOf_encode cgroups)

theorem deviceMount_tablesOf (version : CgroupVersion) :
    deviceMount (tablesOf procRoot pid mounts cgroups) version procRoot pid ()
      = (deviceMountOf version (processFile procRoot pid "mountinfo") mounts, ()) := by
  rw [deviceMount, readTable, Counted.bind_apply, readText_tablesOf_mountinfo]
  rfl

theorem deviceRoot_tablesOf (version : CgroupVersion) (root : String) :
    deviceRoot (tablesOf procRoot pid mounts cgroups) version procRoot root pid ()
      = (deviceRootOf version (processFile procRoot pid "cgroup") root cgroups, ()) := by
  rw [deviceRoot, readTable, Counted.bind_apply, readText_tablesOf_cgroup]
  rfl

end

end Procfs

end DeviceFilter

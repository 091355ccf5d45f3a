import DeviceFilter.Proofs.Procfs.Stripped

/-!
The version of a process's cgroups and the search that goes with it. Both read the same table, but
they stop at different lines: a line with the devices controller ends the one at once, while the
unified hierarchy is believed only after the last line. So a search comes to no line that could not
be read when the version was found.

Nothing is said here about tables without a version.
-/
set_option autoImplicit false

namespace DeviceFilter.Procfs

/-- Where every line can be read, a wanted one has a first before it. -/
theorem exists_firstWanted {α : Type} {read : List Char → Option α} {wanted : α → Bool}
    {lines : List (List Char)} (hread : ∀ line ∈ lines, ∃ e, read line = some e)
    (hwanted : ∃ line ∈ lines, ∃ e, read line = some e ∧ wanted e = true) :
    ∃ e, FirstWanted read wanted lines e := by
  induction lines with
  | nil =>
    obtain ⟨line, hline, -⟩ := hwanted
    cases hline
  | cons line lines ih =>
    obtain ⟨⟨e, he⟩, hlines⟩ := List.forall_mem_cons.mp hread
    cases hfirst : wanted e with
    | true => exact ⟨e, .here he hfirst⟩
    | false =>
      have hlater : ∃ line ∈ lines, ∃ e, read line = some e ∧ wanted e = true := by
        obtain ⟨other, hother, e', he', hwanted'⟩ := hwanted
        rcases List.mem_cons.mp hother with rfl | hother
        · rw [he] at he'
          cases he'
          rw [hfirst] at hwanted'
          cases hwanted'
        · exact ⟨other, hother, e', he', hwanted'⟩
      obtain ⟨found, hfound⟩ := ih hlines hlater
      exact ⟨found, .later he hfirst hfound⟩

/-! ## Lines -/

section
variable {path : Path} {lines : List (List Char)} {unified : Bool}

theorem versionIn_cons_of_none {line : List Char} (h : CgroupEntry.ofLine? line = none) :
    versionIn path unified (line :: lines) = .error (badLine path line .malformedEntry) := by
  cases unified <;> simp only [versionIn, h]

theorem versionIn_cons_of_some {line : List Char} {e : CgroupEntry}
    (h : CgroupEntry.ofLine? line = some e) :
    versionIn path unified (line :: lines)
      = if e.hasDevices then .ok .v1 else versionIn path (unified || e.isUnified) lines := by
  cases unified <;> simp only [versionIn, h]

theorem versionIn_eq_v1_iff :
    versionIn path unified lines = .ok .v1 ↔
      ∃ e, FirstWanted CgroupEntry.ofLine? CgroupEntry.hasDevices lines e := by
  induction lines generalizing unified with
  | nil =>
    constructor
    · intro h
      cases unified <;> cases h
    · rintro ⟨e, ⟨⟩⟩
  | cons line lines ih =>
    cases hread : CgroupEntry.ofLine? line with
    | none => simp [versionIn_cons_of_none hread, FirstWanted.cons_iff_of_none hread]
    | some e =>
      rw [versionIn_cons_of_some hread]
      simp only [FirstWanted.cons_iff_of_some hread]
      cases hdevices : e.hasDevices with
      | true => simp
      | false => simpa using ih

theorem versionIn_eq_v2_iff :
    versionIn path unified lines = .ok .v2 ↔
      (∀ line ∈ lines, ∃ e, CgroupEntry.ofLine? line = some e ∧ e.hasDevices = false) ∧
        (unified = true ∨
          ∃ line ∈ lines, ∃ e, CgroupEntry.ofLine? line = some e ∧ e.isUnified = true) := by
  induction lines generalizing unified with
  | nil => cases unified <;> simp [versionIn]
  | cons line lines ih =>
    cases hread : CgroupEntry.ofLine? line with
    | none => simp [versionIn_cons_of_none hread, hread]
    | some e =>
      rw [versionIn_cons_of_some hread]
      cases hdevices : e.hasDevices with
      | true => simp [hread, hdevices]
      | false =>
        simp only [Bool.false_eq_true, if_false, ih, Bool.or_eq_true, List.forall_mem_cons,
          List.exists_mem_cons_iff, hread, Option.some.injEq, exists_eq_left', hdevices, true_and,
          or_assoc]

/-- The search for the version that was found comes to an entry. -/
theorem exists_firstWanted_of_versionOf {text : String} {version : CgroupVersion}
    (h : versionOf path text = .ok version) :
    ∃ e, FirstWanted CgroupEntry.ofLine? version.wantsCgroup (Text.filledLines text.toList) e := by
  cases version with
  | v1 => exact versionIn_eq_v1_iff.mp h
  | v2 =>
    obtain ⟨hlines, hunified⟩ := versionIn_eq_v2_iff.mp h
    have hsome := hunified.resolve_left (by decide)
    apply exists_firstWanted _ hsome
    intro line hline
    obtain ⟨e, he, -⟩ := hlines line hline
    exact ⟨e, he⟩

end

/-! ## Tables -/

section
variable {σ : Type} {files : FileAccess (StateM σ)} {version : CgroupVersion} {procRoot : Path}
variable {pid : Int} {s s' : σ}

/-- Once a version is found, the search for its cgroup path in the same text succeeds below every
root. It answers with the first entry that governs devices for that version. -/
theorem deviceRoot_of_detectVersion
    (h : detectVersion files procRoot pid s = (.ok version, s')) :
    ∃ text e, files.readText (processFile procRoot pid "cgroup") s = (.ok text, s') ∧
      FirstWanted CgroupEntry.ofLine? version.wantsCgroup (Text.filledLines text.toList) e ∧
      ∀ s₁ s₂, files.readText (processFile procRoot pid "cgroup") s₁ = (.ok text, s₂) →
        deviceRoot files version procRoot "/" pid s₁ = (.ok e.path, s₂) ∧
        ∀ root, deviceRoot files version procRoot root pid s₁
          = (.ok (belowRoot root e.path), s₂) := by
  obtain ⟨text, hread, hversion⟩ := readTable_eq_ok_iff.mp h
  obtain ⟨e, hfirst⟩ := exists_firstWanted_of_versionOf hversion
  refine ⟨text, e, hread, hfirst, ?_⟩
  intro s₁ s₂ hagain
  have hroot (root : String) :
      deviceRoot files version procRoot root pid s₁ = (.ok (belowRoot root e.path), s₂) :=
    deviceRoot_eq_ok_iff.mpr ⟨text, e, hagain, hfirst, rfl⟩
  have hslash := hroot "/"
  rw [belowRoot_slash] at hslash
  exact ⟨hslash, hroot⟩

end

/-- A host with both hierarchies, whose last line cannot be read. -/
def hybridFiles : FileAccess (StateM Unit) :=
  tablesOf "/" 7 "" "0::/user\n \n3:cpu,devices:/docker/abc\nbroken\n"

/-- The devices line decides, though the unified one comes first and no search passes the end. -/
theorem deviceRoot_of_detectVersion_hybrid :
    detectVersion hybridFiles "/" 7 () = (.ok .v1, ()) ∧
      ∃ text e, hybridFiles.readText (processFile "/" 7 "cgroup") () = (.ok text, ()) ∧
        FirstWanted CgroupEntry.ofLine? (CgroupVersion.wantsCgroup .v1)
          (Text.filledLines text.toList) e ∧
        deviceRoot hybridFiles .v1 "/" "/" 7 () = (.ok e.path, ()) ∧
        deviceRoot hybridFiles .v1 "/" "/docker" 7 () = (.ok (belowRoot "/docker" e.path), ()) := by
  have hdetect : detectVersion hybridFiles "/" 7 () = (.ok .v1, ()) := by
    have hof (path : Path) :
        versionOf path "0::/user\n \n3:cpu,devices:/docker/abc\nbroken\n" = .ok .v1 := rfl
    exact readTable_eq_ok_iff.mpr ⟨_, readText_tablesOf_cgroup _ _ _ _, hof _⟩
  obtain ⟨text, e, hread, hfirst, hsearch⟩ := deviceRoot_of_detectVersion hdetect
  obtain ⟨hslash, hroot⟩ := hsearch () () hread
  exact ⟨hdetect, text, e, hread, hfirst, hslash, hroot "/docker"⟩

end DeviceFilter.Procfs

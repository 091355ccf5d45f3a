import DeviceFilter.Proofs.Procfs.Entry
import DeviceFilter.Proofs.Procfs.Version
import DeviceFilter.Proofs.Text.Lines
import DeviceFilter.Proofs.Traversal

/-!
The version of every cgroup table. Three kinds of lines count: malformed ones, ones with the devices
controller and ones without controllers. The first line of the first two kinds ends the detection;
the third kind counts only when there is none. So the order of the lines matters only where some
line is malformed.
-/
set_option autoImplicit false

namespace DeviceFilter.Procfs

open CgroupEntry

/-! ## The first of its kind -/

section
variable {α : Type} {p q : α → Prop} {xs ys : List α} {x y : α}

/-- `x` is the first member with `p`, and no member with `q` comes before it. -/
def ComesFirst (p q : α → Prop) (xs : List α) (x : α) : Prop :=
  ∃ front rest, xs = front ++ x :: rest ∧ p x ∧ ∀ y ∈ front, ¬ p y ∧ ¬ q y

theorem comesFirst_or_forall (p q : α → Prop) (xs : List α) :
    (∃ x, ComesFirst p q xs x) ∨ (∃ x, ComesFirst q p xs x) ∨ ∀ x ∈ xs, ¬ p x ∧ ¬ q x := by
  rcases exists_first_or_forall (fun x => ¬ p x ∧ ¬ q x) xs with
    ⟨front, x, rest, rfl, hfront, hx⟩ | hall
  · by_cases hp : p x
    · exact .inl ⟨x, front, rest, rfl, hp, hfront⟩
    · have hq : q x := by
        by_contra hq
        exact hx ⟨hp, hq⟩
      refine .inr (.inl ⟨x, front, rest, rfl, hq, ?_⟩)
      intro y hy
      exact (hfront y hy).symm
  · exact .inr (.inr hall)

end

/-! ## Lines -/

section
variable {path : Path} {lines front : List (List Char)} {line : List Char} {unified : Bool}

/-- Lines that end no detection are passed, and only whether one of them has no controllers is
remembered. -/
theorem versionIn_append_of_passed (path : Path)
    (h : ∀ line ∈ front, ¬ Malformed line ∧ ¬ ListsDevices line) (unified : Bool) :
    ∃ flag, (flag = true ↔ unified = true ∨ ∃ line ∈ front, ListsNothing line) ∧
      ∀ rest, versionIn path unified (front ++ rest) = versionIn path flag rest := by
  induction front generalizing unified with
  | nil => exact ⟨unified, by simp, fun _ => rfl⟩
  | cons line front ih =>
    obtain ⟨⟨hmalformed, hdevices⟩, hfront⟩ := List.forall_mem_cons.mp h
    cases hread : ofLine? line with
    | none => exact absurd (ofLine?_eq_none_iff.mp hread) hmalformed
    | some e =>
      have hother : e.hasDevices = false :=
        Bool.eq_false_iff.mpr fun h => hdevices ((hasDevices_iff hread).mp h)
      obtain ⟨flag, hflag, hrest⟩ := ih hfront (unified || e.isUnified)
      refine ⟨flag, ?_, fun rest => ?_⟩
      · rw [hflag, Bool.or_eq_true, isUnified_iff hread, or_assoc, List.exists_mem_cons_iff]
      · rw [List.cons_append, versionIn_cons_of_some hread, hother, ← hrest]
        rfl

theorem versionIn_of_devices (h : ComesFirst ListsDevices Malformed lines line) :
    versionIn path unified lines = .ok .v1 := by
  obtain ⟨front, rest, rfl, hline, hfront⟩ := h
  obtain ⟨flag, -, hrest⟩ :=
    versionIn_append_of_passed path (fun line h => (hfront line h).symm) unified
  rw [hrest]
  cases hread : ofLine? line with
  | none =>
    obtain ⟨names, hnames, -⟩ := hline
    exact absurd (ofLine?_eq_none_iff.mp hread) hnames.not_malformed
  | some e => rw [versionIn_cons_of_some hread, if_pos ((hasDevices_iff hread).mpr hline)]

theorem versionIn_of_malformed (h : ComesFirst Malformed ListsDevices lines line) :
    versionIn path unified lines = .error (badLine path line .malformedEntry) := by
  obtain ⟨front, rest, rfl, hline, hfront⟩ := h
  obtain ⟨flag, -, hrest⟩ := versionIn_append_of_passed path hfront unified
  rw [hrest, versionIn_cons_of_none (ofLine?_eq_none_iff.mpr hline)]

section
variable (h : ∀ line ∈ lines, ¬ Malformed line ∧ ¬ ListsDevices line)
include h

theorem versionIn_of_unified (hunified : ∃ line ∈ lines, ListsNothing line) :
    versionIn path unified lines = .ok .v2 := by
  obtain ⟨flag, hflag, hrest⟩ := versionIn_append_of_passed path h unified
  have hend := hrest []
  rw [List.append_nil, hflag.mpr (.inr hunified)] at hend
  exact hend

theorem versionIn_of_other (hother : ∀ line ∈ lines, ¬ ListsNothing line) :
    versionIn path false lines = .error (.notFound path "devices or unified cgroup entry") := by
  obtain ⟨flag, hflag, hrest⟩ := versionIn_append_of_passed path h false
  have hunset : flag = false := by
    rw [Bool.eq_false_iff, Ne, hflag]
    rintro (hset | ⟨line, hline, hnothing⟩)
    · cases hset
    · exact hother line hline hnothing
  have hend := hrest []
  rw [List.append_nil, hunset] at hend
  exact hend

end

/-- One of four things happens, and each has its own answer. -/
theorem versionIn_cases (path : Path) (lines : List (List Char)) :
    (∃ line, ComesFirst ListsDevices Malformed lines line ∧
        versionIn path false lines = .ok .v1) ∨
      (∃ line, ComesFirst Malformed ListsDevices lines line ∧
        versionIn path false lines = .error (badLine path line .malformedEntry)) ∨
      (∀ line ∈ lines, ¬ Malformed line ∧ ¬ ListsDevices line) ∧
        ((∃ line ∈ lines, ListsNothing line) ∧ versionIn path false lines = .ok .v2 ∨
          (∀ line ∈ lines, ¬ ListsNothing line) ∧ versionIn path false lines
            = .error (.notFound path "devices or unified cgroup entry")) := by
  rcases comesFirst_or_forall ListsDevices Malformed lines with ⟨line, h⟩ | ⟨line, h⟩ | h
  · exact .inl ⟨line, h, versionIn_of_devices h⟩
  · exact .inr (.inl ⟨line, h, versionIn_of_malformed h⟩)
  · have hpassed (line : List Char) (hline : line ∈ lines) := (h line hline).symm
    refine .inr (.inr ⟨hpassed, ?_⟩)
    by_cases hunified : ∃ line ∈ lines, ListsNothing line
    · exact .inl ⟨hunified, versionIn_of_unified hpassed hunified⟩
    · have hother (line : List Char) (hline : line ∈ lines) (hnothing : ListsNothing line) :
          False := hunified ⟨line, hline, hnothing⟩
      exact .inr ⟨hother, versionIn_of_other hpassed hother⟩

/-- What the version of the filled lines of a table is. -/
structure VersionOfLines (path : Path) (lines : List (List Char))
    (r : Except LookupError CgroupVersion) : Prop where
  v1_iff : r = .ok .v1 ↔ ∃ line, ComesFirst ListsDevices Malformed lines line
  badLine_iff : ∀ line, r = .error (badLine path line .malformedEntry) ↔
    ComesFirst Malformed ListsDevices lines line
  v2_iff : r = .ok .v2 ↔ (∀ line ∈ lines, ¬ Malformed line ∧ ¬ ListsDevices line) ∧
    ∃ line ∈ lines, ListsNothing line
  otherwise : r ≠ .ok .v1 → (∀ line, r ≠ .error (badLine path line .malformedEntry)) →
    r ≠ .ok .v2 → r = .error (.notFound path "devices or unified cgroup entry")

theorem badLine_injective {other : List Char} {fault : LineFault}
    (h : badLine path line fault = badLine path other fault) : line = other := by
  injection h with _ hline _
  rw [← String.toList_inj, String.toList_ofList, String.toList_ofList] at hline
  exact hline

theorem versionOfLines_versionIn (path : Path) (lines : List (List Char)) :
    VersionOfLines path lines (versionIn path false lines) := by
  have hcases := versionIn_cases path lines
  constructor
  · refine ⟨fun hr => ?_, fun ⟨line, h⟩ => versionIn_of_devices h⟩
    rcases hcases with ⟨line, h, -⟩ | ⟨line, -, hv⟩ | ⟨-, ⟨-, hv⟩ | ⟨-, hv⟩⟩
    · exact ⟨line, h⟩
    · cases hv.symm.trans hr
    · cases hv.symm.trans hr
    · cases hv.symm.trans hr
  · intro line
    refine ⟨fun hr => ?_, versionIn_of_malformed⟩
    rcases hcases with ⟨first, -, hv⟩ | ⟨first, h, hv⟩ | ⟨-, ⟨-, hv⟩ | ⟨-, hv⟩⟩
    · cases hv.symm.trans hr
    · rwa [← badLine_injective (Except.error.inj (hv.symm.trans hr))]
    · cases hv.symm.trans hr
    · cases hv.symm.trans hr
  · refine ⟨fun hr => ?_, fun ⟨h, hunified⟩ => versionIn_of_unified h hunified⟩
    rcases hcases with ⟨line, -, hv⟩ | ⟨line, -, hv⟩ | ⟨h, ⟨hunified, -⟩ | ⟨-, hv⟩⟩
    · cases hv.symm.trans hr
    · cases hv.symm.trans hr
    · exact ⟨h, hunified⟩
    · cases hv.symm.trans hr
  · intro hv1 hbad hv2
    rcases hcases with ⟨line, -, hv⟩ | ⟨line, -, hv⟩ | ⟨-, ⟨-, hv⟩ | ⟨-, hv⟩⟩
    · exact absurd hv hv1
    · exact absurd hv (hbad line)
    · exact absurd hv hv2
    · exact hv

/-- Without malformed lines, it only matters which of the other two kinds occur. -/
theorem versionIn_eq_of_same_kinds {others : List (List Char)}
    (hlines : ∀ line ∈ lines, ¬ Malformed line)
    (hmalformed : (∃ line ∈ others, Malformed line) ↔ ∃ line ∈ lines, Malformed line)
    (hdevices : (∃ line ∈ others, ListsDevices line) ↔ ∃ line ∈ lines, ListsDevices line)
    (hnothing : (∃ line ∈ others, ListsNothing line) ↔ ∃ line ∈ lines, ListsNothing line) :
    versionIn path false others = versionIn path false lines := by
  have hothers : ∀ line ∈ others, ¬ Malformed line := by
    intro line hline hbad
    obtain ⟨line', hline', hbad'⟩ := hmalformed.mp ⟨line, hline, hbad⟩
    exact hlines line' hline' hbad'
  rcases versionIn_cases path lines with ⟨line, h, hv⟩ | ⟨line, h, -⟩ | ⟨h, hrest⟩
  · obtain ⟨front, rest, rfl, hline, -⟩ := h
    obtain ⟨line', hline', hdevices'⟩ := hdevices.mpr ⟨line, by simp, hline⟩
    rcases versionIn_cases path others with ⟨_, -, hv'⟩ | ⟨bad, h', -⟩ | ⟨h', -⟩
    · rw [hv, hv']
    · obtain ⟨front, rest, rfl, hbad, -⟩ := h'
      exact absurd hbad (hothers bad (by simp))
    · exact absurd hdevices' (h' line' hline').2
  · obtain ⟨front, rest, rfl, hbad, -⟩ := h
    exact absurd hbad (hlines line (by simp))
  · have hpassed : ∀ line ∈ others, ¬ Malformed line ∧ ¬ ListsDevices line := by
      intro line hline
      refine ⟨hothers line hline, fun hdev => ?_⟩
      obtain ⟨line', hline', hdev'⟩ := hdevices.mp ⟨line, hline, hdev⟩
      exact (h line' hline').2 hdev'
    rcases hrest with ⟨hunified, hv⟩ | ⟨hother, hv⟩
    · rw [hv, versionIn_of_unified hpassed (hnothing.mpr hunified)]
    · rw [hv, versionIn_of_other hpassed]
      intro line hline hnone
      obtain ⟨line', hline', hnone'⟩ := hnothing.mp ⟨line, hline, hnone⟩
      exact hother line' hline' hnone'

theorem versionOf_rearranged {text other : String} (path : Path)
    (hlines : ∀ line ∈ Text.filledLines text.toList, ¬ Malformed line)
    (h : Text.Rearranged text.toList other.toList) :
    versionOf path other = versionOf path text :=
  versionIn_eq_of_same_kinds hlines (h.exists_iff fun _ => malformed_dropReturn_iff)
    (h.exists_iff fun _ => listsDevices_dropReturn_iff)
    (h.exists_iff fun _ => listsNothing_dropReturn_iff)

end

/-! ## Tables -/

/-- The detection follows the kinds of lines, and rearranging a table without malformed lines does
not change what is detected. -/
theorem detectVersion_follows_lines {σ : Type} {files : FileAccess (StateM σ)} {procRoot : Path}
    {pid : Int} {s s' : σ} {text : String}
    (hread : files.readText (processFile procRoot pid "cgroup") s = (.ok text, s')) :
    ∃ r, detectVersion files procRoot pid s = (r, s') ∧
      VersionOfLines (processFile procRoot pid "cgroup") (Text.filledLines text.toList) r ∧
      ((∀ line ∈ Text.filledLines text.toList, ¬ Malformed line) →
        ∀ (changed : FileAccess (StateM σ)) (other : String) (u u' : σ),
          Text.Rearranged text.toList other.toList →
          changed.readText (processFile procRoot pid "cgroup") u = (.ok other, u') →
          detectVersion changed procRoot pid u = (r, u')) := by
  have hversion (files : FileAccess (StateM σ)) (text : String) (s s' : σ)
      (hread : files.readText (processFile procRoot pid "cgroup") s = (.ok text, s')) :
      detectVersion files procRoot pid s
        = (versionOf (processFile procRoot pid "cgroup") text, s') := by
    rw [detectVersion, readTable, Counted.bind_apply, hread]
    rfl
  refine ⟨_, hversion files text s s' hread, versionOfLines_versionIn _ _, ?_⟩
  intro hlines changed other u u' h hother
  rw [hversion changed other u u' hother, versionOf_rearranged _ hlines h]

instance (line : List Char) : Decidable (Malformed line) :=
  inferInstanceAs (Decidable (line.count ':' < 2))

/-- The lines of a host with both hierarchies, in the other order and with a blank one. -/
theorem detectVersion_follows_lines_hybrid : ∃ r,
    detectVersion (tablesOf "/" 7 "" "0::/user\n3:cpu,devices:/docker\n") "/" 7 () = (r, ()) ∧
      VersionOfLines (processFile "/" 7 "cgroup")
        (Text.filledLines "0::/user\n3:cpu,devices:/docker\n".toList) r ∧
      detectVersion (tablesOf "/" 7 "" "3:cpu,devices:/docker\n \n0::/user\n") "/" 7 ()
        = (r, ()) := by
  obtain ⟨r, hdetect, hlines, hother⟩ := detectVersion_follows_lines
    (readText_tablesOf_cgroup "/" 7 "" "0::/user\n3:cpu,devices:/docker\n")
  refine ⟨r, hdetect, hlines, hother (by decide) _ "3:cpu,devices:/docker\n \n0::/user\n" () () ?_
    (readText_tablesOf_cgroup _ _ _ _)⟩
  exact .permuted (List.Perm.swap _ _ [])

end DeviceFilter.Procfs

import DeviceFilter.Proofs.Procfs.Search

/-!
What is left of a cgroup path below the root of its mount. The root is compared character by
character, not component by component, so it is also taken off a path that runs on after it in the
middle of a name. For these paths alone, what is left is no path below the root.
-/
set_option autoImplicit false

namespace DeviceFilter.Procfs

/-- The path begins with the root, and no slash follows. -/
def RunsOn (root path : String) : Prop :=
  root ≠ "" ∧ root ≠ "/" ∧ ∃ c rest, c ≠ '/' ∧ path.toList = root.toList ++ c :: rest

/-- `rest` is the whole path, or the components of the path that follow the root. -/
def LiesBelow (root path rest : String) : Prop :=
  rest = path ∨ path = root ++ rest ∧ (rest = "" ∨ rest.toList.head? = some '/')

instance (root path rest : String) : Decidable (LiesBelow root path rest) :=
  inferInstanceAs
    (Decidable (rest = path ∨ path = root ++ rest ∧ (rest = "" ∨ rest.toList.head? = some '/')))

/-! ## Taking the root off -/

section
variable {root path : String}

theorem belowRoot_slash (path : String) : belowRoot "/" path = path := if_pos rfl

theorem belowRoot_append (hroot : root ≠ "/") (rest : String) :
    belowRoot root (root ++ rest) = rest := by
  have hslash : root.toList ≠ ['/'] := fun h => hroot (String.toList_inj.mp h)
  have hdrop : Text.dropLead? root.toList (root ++ rest).toList = some rest.toList :=
    Text.dropLead?_eq_some_iff.mpr String.toList_append
  rw [belowRoot, if_neg hslash, hdrop]
  exact rest.ofList_toList

theorem belowRoot_of_not_prefix (h : ¬ root.toList <+: path.toList) :
    belowRoot root path = path := by
  unfold belowRoot
  split
  · rfl
  · split
    · rename_i rest hdrop
      exact absurd ⟨rest, (Text.dropLead?_eq_some_iff.mp hdrop).symm⟩ h
    · rfl

/-- The root is taken off a path that begins with it, unless it is a lone slash. -/
theorem belowRoot_cases (root path : String) :
    (root ≠ "/" ∧ ∃ rest, path = root ++ rest ∧ belowRoot root path = rest) ∨
      ((root = "/" ∨ ¬ root.toList <+: path.toList) ∧ belowRoot root path = path) := by
  by_cases hroot : root = "/"
  · subst hroot
    exact .inr ⟨.inl rfl, belowRoot_slash path⟩
  · by_cases hprefix : root.toList <+: path.toList
    · obtain ⟨rest, hrest⟩ := hprefix
      have hpath : path = root ++ String.ofList rest := by
        rw [← String.toList_inj, String.toList_append, String.toList_ofList, hrest]
      refine .inl ⟨hroot, String.ofList rest, hpath, ?_⟩
      rw [hpath]
      exact belowRoot_append hroot _
    · exact .inr ⟨.inr hprefix, belowRoot_of_not_prefix hprefix⟩

theorem append_belowRoot_of_runsOn (h : RunsOn root path) : path = root ++ belowRoot root path := by
  obtain ⟨-, hroot, c, rest, -, hpath⟩ := h
  have happend : path = root ++ String.ofList (c :: rest) := by
    rw [← String.toList_inj, String.toList_append, String.toList_ofList, hpath]
  rw [happend, belowRoot_append hroot]

theorem liesBelow_belowRoot_iff :
    LiesBelow root path (belowRoot root path) ↔ ¬ RunsOn root path := by
  rcases belowRoot_cases root path with ⟨hroot, rest, rfl, hbelow⟩ | ⟨hwhole, hbelow⟩
  · rw [hbelow]
    constructor
    · rintro hlies ⟨hempty, -, c, cs, hc, hpath⟩
      have hrest : rest.toList = c :: cs := by
        rw [String.toList_append] at hpath
        exact List.append_cancel_left hpath
      rcases hlies with hself | ⟨-, rfl | hhead⟩
      · exact hempty (String.append_eq_right_iff.mp hself.symm)
      · cases hrest
      · rw [hrest] at hhead
        exact hc (Option.some.inj hhead)
    · intro hruns
      by_cases hempty : root = ""
      · exact .inl (by rw [hempty, String.empty_append])
      · refine .inr ⟨rfl, ?_⟩
        cases hrest : rest.toList with
        | nil => exact .inl (String.toList_eq_nil_iff.mp hrest)
        | cons c cs =>
          refine .inr (congrArg some (by_contra fun hc => hruns ⟨hempty, hroot, c, cs, hc, ?_⟩))
          rw [String.toList_append, hrest]
  · rw [hbelow]
    refine ⟨fun _ => ?_, fun _ => .inl rfl⟩
    rintro ⟨-, hroot, c, cs, -, hpath⟩
    rcases hwhole with hslash | hprefix
    · exact hroot hslash
    · exact hprefix ⟨c :: cs, hpath.symm⟩

end

/-! ## The answer of a search -/

section
variable {σ : Type} {files : FileAccess (StateM σ)} {version : CgroupVersion} {procRoot : Path}
variable {root r : String} {pid : Int} {s s' : σ}

/-- An answer lies below the root of the mount unless the wanted entry's path runs on after the
root; then it is the text that follows. -/
theorem deviceRoot_liesBelow_iff
    (h : deviceRoot files version procRoot root pid s = (.ok r, s')) :
    ∃ text e, files.readText (processFile procRoot pid "cgroup") s = (.ok text, s') ∧
      FirstWanted CgroupEntry.ofLine? version.wantsCgroup (Text.filledLines text.toList) e ∧
      (LiesBelow root e.path r ↔ ¬ RunsOn root e.path) ∧
      (RunsOn root e.path → e.path = root ++ r) := by
  obtain ⟨text, e, hread, hfirst, rfl⟩ := deviceRoot_eq_ok_iff.mp h
  exact ⟨text, e, hread, hfirst, liesBelow_belowRoot_iff, append_belowRoot_of_runsOn⟩

end

/-- A container's path below the root that it is mounted from. -/
theorem deviceRoot_liesBelow_iff_nested :
    deviceRoot (tablesOf "/" 7 "" "0::/kubepods/pod1/ctr\n") .v2 "/" "/kubepods" 7 ()
        = (.ok "/pod1/ctr", ()) ∧
      ∃ text e,
        (tablesOf "/" 7 "" "0::/kubepods/pod1/ctr\n").readText (processFile "/" 7 "cgroup") ()
            = (.ok text, ()) ∧
          FirstWanted CgroupEntry.ofLine? (CgroupVersion.wantsCgroup .v2)
            (Text.filledLines text.toList) e ∧
          (LiesBelow "/kubepods" e.path "/pod1/ctr" ↔ ¬ RunsOn "/kubepods" e.path) ∧
          (RunsOn "/kubepods" e.path → e.path = "/kubepods" ++ "/pod1/ctr") := by
  have hroot : deviceRoot (tablesOf "/" 7 "" "0::/kubepods/pod1/ctr\n") .v2 "/" "/kubepods" 7 ()
      = (.ok "/pod1/ctr", ()) := by
    have hof (path : Path) :
        deviceRootOf .v2 path "/kubepods" "0::/kubepods/pod1/ctr\n" = .ok "/pod1/ctr" := rfl
    rw [deviceRoot_tablesOf, hof]
  exact ⟨hroot, deviceRoot_liesBelow_iff hroot⟩

/-- The path of a sibling whose name goes on after the root's is cut within that name. -/
theorem deviceRoot_sibling :
    deviceRoot (tablesOf "/" 7 "" "0::/docker-evil/abc\n") .v2 "/" "/docker" 7 ()
        = (.ok "-evil/abc", ()) ∧
      FirstWanted CgroupEntry.ofLine? (CgroupVersion.wantsCgroup .v2)
        (Text.filledLines "0::/docker-evil/abc\n".toList) ⟨"0", [], "/docker-evil/abc"⟩ ∧
      ¬ LiesBelow "/docker" "/docker-evil/abc" "-evil/abc" := by
  refine ⟨?_, ?_, by decide⟩
  · have hof (path : Path) :
        deviceRootOf .v2 path "/docker" "0::/docker-evil/abc\n" = .ok "-evil/abc" := rfl
    rw [deviceRoot_tablesOf, hof]
  · have hlines : Text.filledLines "0::/docker-evil/abc\n".toList
        = ["0::/docker-evil/abc".toList] := by decide
    rw [hlines]
    exact .here (by decide) rfl

end DeviceFilter.Procfs

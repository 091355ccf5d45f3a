import DeviceFilter.Procfs.CgroupEntry
import DeviceFilter.Proofs.Text.Fields
import DeviceFilter.Text.Blank

/-!
Lines of a cgroup table without the reader. A line has two colons or it is malformed; between the
first two stand the names of controllers. Reading a line gives just these parts, and a carriage
return at its end belongs to the path. An entry comes back from its own line unless a separator
stands where it would cut one of the parts.
-/
set_option autoImplicit false

namespace DeviceFilter

namespace CgroupEntry

variable {line names : List Char}

/-- The line does not have the three parts of an entry. -/
def Malformed (line : List Char) : Prop := line.count ':' < 2

/-- `names` stands between the first two colons of the line. -/
def HasControllers (line names : List Char) : Prop :=
  ∃ hierarchy path, line = hierarchy ++ ':' :: (names ++ ':' :: path) ∧
    ':' ∉ hierarchy ∧ ':' ∉ names

/-- One of the names between commas is that of the devices controller. -/
def ListsDevices (line : List Char) : Prop :=
  ∃ names, HasControllers line names ∧ "devices".toList ∈ Text.split ',' names

/-- Nothing stands between the commas. -/
def ListsNothing (line : List Char) : Prop :=
  ∃ names, HasControllers line names ∧ ∀ name ∈ Text.split ',' names, name = []

/-! ## Reading -/

theorem HasControllers.not_malformed (h : HasControllers line names) : ¬ Malformed line := by
  obtain ⟨hierarchy, path, rfl, -, -⟩ := h
  simp only [Malformed, List.count_append, List.count_cons_self]
  omega

theorem HasControllers.eq {other : List Char} (h : HasControllers line names)
    (hother : HasControllers line other) : names = other := by
  obtain ⟨hierarchy, path, rfl, hhierarchy, hnames⟩ := h
  obtain ⟨hierarchy', path', heq, hhierarchy', hother⟩ := hother
  have hfirst := congrArg (Text.cutAt ':') heq
  rw [Text.cutAt_append_sep hhierarchy, Text.cutAt_append_sep hhierarchy'] at hfirst
  obtain ⟨-, hrest⟩ := Prod.mk.inj (Option.some.inj hfirst)
  have hsecond := congrArg (Text.cutAt ':') hrest
  rw [Text.cutAt_append_sep hnames, Text.cutAt_append_sep hother] at hsecond
  exact (Prod.mk.inj (Option.some.inj hsecond)).1

theorem ofLine?_eq_some_iff {e : CgroupEntry} :
    ofLine? line = some e ↔ ∃ hierarchy names path,
      line = hierarchy ++ ':' :: (names ++ ':' :: path) ∧ ':' ∉ hierarchy ∧ ':' ∉ names ∧
        e = ⟨String.ofList hierarchy, controllerNames names, String.ofList path⟩ := by
  constructor
  · intro h
    unfold ofLine? at h
    split at h
    · cases h
    · rename_i hierarchy rest hfirst
      split at h
      · cases h
      · rename_i names path hsecond
        obtain ⟨rfl, hhierarchy⟩ := Text.cutAt_eq_some hfirst
        obtain ⟨rfl, hnames⟩ := Text.cutAt_eq_some hsecond
        exact ⟨hierarchy, names, path, rfl, hhierarchy, hnames, (Option.some.inj h).symm⟩
  · rintro ⟨hierarchy, names, path, rfl, hhierarchy, hnames, rfl⟩
    simp only [ofLine?, Text.cutAt_append_sep hhierarchy, Text.cutAt_append_sep hnames]

theorem ofLine?_eq_none_iff : ofLine? line = none ↔ Malformed line := by
  constructor
  · intro h
    unfold ofLine? at h
    split at h
    · rename_i hnone
      rw [Malformed, List.count_eq_zero_of_not_mem (Text.cutAt_eq_none_iff.mp hnone)]
      decide
    · rename_i hierarchy rest hfirst
      split at h
      · rename_i hnone
        obtain ⟨rfl, hhierarchy⟩ := Text.cutAt_eq_some hfirst
        rw [Malformed, List.count_append, List.count_eq_zero_of_not_mem hhierarchy,
          List.count_cons_self, List.count_eq_zero_of_not_mem (Text.cutAt_eq_none_iff.mp hnone)]
        decide
      · cases h
  · intro h
    cases hread : ofLine? line with
    | none => rfl
    | some e =>
      obtain ⟨hierarchy, names, path, hline, hhierarchy, hnames, -⟩ := ofLine?_eq_some_iff.mp hread
      exact absurd h (HasControllers.not_malformed ⟨hierarchy, path, hline, hhierarchy, hnames⟩)

/-- What was read is what stands between the colons. -/
theorem exists_hasControllers {e : CgroupEntry} (h : ofLine? line = some e) :
    ∃ names, HasControllers line names ∧ e.controllers = controllerNames names := by
  obtain ⟨hierarchy, names, path, hline, hhierarchy, hnames, rfl⟩ := ofLine?_eq_some_iff.mp h
  exact ⟨names, ⟨hierarchy, path, hline, hhierarchy, hnames⟩, rfl⟩

theorem mem_controllerNames_iff {name : String} :
    name ∈ controllerNames names ↔ name.toList ∈ Text.split ',' names ∧ name ≠ "" := by
  simp only [controllerNames, List.mem_map, List.mem_filter, decide_eq_true_eq]
  constructor
  · rintro ⟨field, ⟨hfield, hne⟩, rfl⟩
    rw [String.toList_ofList]
    exact ⟨hfield, fun h => hne (String.ofList_eq_empty_iff.mp h)⟩
  · rintro ⟨hfield, hne⟩
    exact ⟨name.toList, ⟨hfield, fun h => hne (String.toList_eq_nil_iff.mp h)⟩,
      String.ofList_toList⟩

theorem controllerNames_eq_nil_iff :
    controllerNames names = [] ↔ ∀ name ∈ Text.split ',' names, name = [] := by
  simp [controllerNames]

theorem hasDevices_iff {e : CgroupEntry} (h : ofLine? line = some e) :
    e.hasDevices = true ↔ ListsDevices line := by
  obtain ⟨names, hnames, hcontrollers⟩ := exists_hasControllers h
  have hread : e.hasDevices = true ↔ "devices".toList ∈ Text.split ',' names := by
    rw [hasDevices, List.contains_iff_mem, hcontrollers, mem_controllerNames_iff]
    exact and_iff_left (by decide)
  rw [hread]
  constructor
  · exact fun hmem => ⟨names, hnames, hmem⟩
  · rintro ⟨other, hother, hmem⟩
    rwa [hnames.eq hother]

theorem isUnified_iff {e : CgroupEntry} (h : ofLine? line = some e) :
    e.isUnified = true ↔ ListsNothing line := by
  obtain ⟨names, hnames, hcontrollers⟩ := exists_hasControllers h
  have hread : e.isUnified = true ↔ ∀ name ∈ Text.split ',' names, name = [] := by
    rw [isUnified, List.isEmpty_iff, hcontrollers, controllerNames_eq_nil_iff]
  rw [hread]
  constructor
  · exact fun hempty => ⟨names, hnames, hempty⟩
  · rintro ⟨other, hother, hempty⟩
    rwa [hnames.eq hother]

/-! ## Writing -/

def toLine (e : CgroupEntry) : List Char :=
  e.hierarchy.toList ++ ':' :: (Text.joined ',' e.controllers ++ ':' :: e.path.toList)

/-- The parts of the entry can be told apart on its line; the path may hold any characters. -/
structure Writable (e : CgroupEntry) : Prop where
  hierarchy : ':' ∉ e.hierarchy.toList
  controllers : ∀ name ∈ e.controllers, name ≠ "" ∧ ':' ∉ name.toList ∧ ',' ∉ name.toList

theorem controllerNames_joined {controllers : List String}
    (h : ∀ name ∈ controllers, name ≠ "" ∧ ',' ∉ name.toList) :
    controllerNames (Text.joined ',' controllers) = controllers := by
  by_cases hnone : controllers = []
  · rw [hnone]
    rfl
  · have hkept : ∀ field ∈ controllers.map String.toList, decide (field ≠ []) = true := by
      intro field hfield
      obtain ⟨name, hname, rfl⟩ := List.mem_map.mp hfield
      apply decide_eq_true
      intro hnil
      exact (h name hname).1 (String.toList_eq_nil_iff.mp hnil)
    rw [controllerNames, Text.split_joined hnone fun name hname => (h name hname).2,
      List.filter_eq_self.mpr hkept, Text.map_ofList_toList]

theorem ofLine?_toLine {e : CgroupEntry} (h : e.Writable) : ofLine? e.toLine = some e := by
  have hnames : ':' ∉ Text.joined ',' e.controllers := by
    apply Text.not_mem_joined (by decide)
    intro name hname
    exact (h.controllers name hname).2.1
  have hcontrollers : controllerNames (Text.joined ',' e.controllers) = e.controllers := by
    apply controllerNames_joined
    intro name hname
    exact ⟨(h.controllers name hname).1, (h.controllers name hname).2.2⟩
  apply ofLine?_eq_some_iff.mpr
  refine ⟨_, _, _, rfl, h.hierarchy, hnames, ?_⟩
  rw [hcontrollers, String.ofList_toList, String.ofList_toList]

theorem reading_gives_parts :
    (∀ e : CgroupEntry, e.Writable → ofLine? e.toLine = some e ∧
      (e.isUnified = true ↔ e.controllers = []) ∧
      (e.hasDevices = true ↔ "devices" ∈ e.controllers)) ∧
    ∀ line : List Char, (ofLine? line = none ↔ line.count ':' < 2) ∧
      ∀ e, ofLine? line = some e → ∃ before between,
        line = before ++ ':' :: (between ++ ':' :: e.path.toList) ∧
          ':' ∉ before ∧ ':' ∉ between := by
  constructor
  · intro e h
    exact ⟨ofLine?_toLine h, List.isEmpty_iff, List.contains_iff_mem⟩
  · intro line
    refine ⟨ofLine?_eq_none_iff, ?_⟩
    intro e hread
    obtain ⟨before, between, path, rfl, hbefore, hbetween, rfl⟩ := ofLine?_eq_some_iff.mp hread
    exact ⟨before, between, by rw [String.toList_ofList], hbefore, hbetween⟩

/-- A name that begins like another, and a path with a colon of its own. -/
theorem reading_gives_parts_colons :
    Writable ⟨"4", ["devices2", "cpu"], "/docker:a"⟩ ∧
      ofLine? "4:devices2,cpu:/docker:a".toList = some ⟨"4", ["devices2", "cpu"], "/docker:a"⟩ ∧
      hasDevices ⟨"4", ["devices2", "cpu"], "/docker:a"⟩ = false ∧
      ∃ before between, "4:devices2,cpu:/docker:a".toList
          = before ++ ':' :: (between ++ ':' :: "/docker:a".toList) ∧
        ':' ∉ before ∧ ':' ∉ between := by
  have hwritable : Writable ⟨"4", ["devices2", "cpu"], "/docker:a"⟩ := ⟨by decide, by decide⟩
  have hline : toLine ⟨"4", ["devices2", "cpu"], "/docker:a"⟩
      = "4:devices2,cpu:/docker:a".toList := by decide
  obtain ⟨hwritten, hlines⟩ := reading_gives_parts
  obtain ⟨hread, -, hdevices⟩ := hwritten _ hwritable
  rw [hline] at hread
  refine ⟨hwritable, hread, ?_, (hlines _).2 _ hread⟩
  apply eq_false_of_ne_true
  intro hcontains
  exact absurd (hdevices.mp hcontains) (by decide)

/-! ## Carriage returns -/

theorem malformed_dropReturn_iff : Malformed (Text.dropReturn line) ↔ Malformed line := by
  unfold Text.dropReturn
  split
  · rename_i h
    obtain ⟨before, rfl⟩ := List.getLast?_eq_some_iff.mp h
    rw [List.dropLast_concat, Malformed, Malformed, List.count_append]
    rfl
  · rfl

theorem hasControllers_append_return_iff :
    HasControllers (line ++ ['\r']) names ↔ HasControllers line names := by
  constructor
  · rintro ⟨hierarchy, path, heq, hhierarchy, hnames⟩
    have hsplit : line ++ ['\r'] = (hierarchy ++ ':' :: names) ++ [':'] ++ path := by
      simpa using heq
    rcases List.eq_nil_or_concat path with rfl | ⟨kept, last, rfl⟩
    · rw [List.append_nil] at hsplit
      obtain ⟨-, hlast⟩ := List.append_inj' hsplit rfl
      cases hlast
    · rw [List.concat_eq_append, ← List.append_assoc] at hsplit
      obtain ⟨hline, -⟩ := List.append_inj' hsplit rfl
      exact ⟨hierarchy, kept, by simpa using hline, hhierarchy, hnames⟩
  · rintro ⟨hierarchy, path, rfl, hhierarchy, hnames⟩
    exact ⟨hierarchy, path ++ ['\r'], by simp, hhierarchy, hnames⟩

theorem hasControllers_dropReturn_iff :
    HasControllers (Text.dropReturn line) names ↔ HasControllers line names := by
  unfold Text.dropReturn
  split
  · rename_i h
    obtain ⟨before, rfl⟩ := List.getLast?_eq_some_iff.mp h
    rw [List.dropLast_concat, hasControllers_append_return_iff]
  · rfl

theorem listsDevices_dropReturn_iff :
    ListsDevices (Text.dropReturn line) ↔ ListsDevices line := by
  simp only [ListsDevices, hasControllers_dropReturn_iff]

theorem listsNothing_dropReturn_iff :
    ListsNothing (Text.dropReturn line) ↔ ListsNothing line := by
  simp only [ListsNothing, hasControllers_dropReturn_iff]

end CgroupEntry

end DeviceFilter

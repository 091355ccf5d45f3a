import DeviceFilter.Files.Tree

/-!
What appending does to a file tree. One append lengthens one file, so after any number of them the
tree differs from the first one only in the bytes added at each place, and every path leads where it
led before.
-/
set_option autoImplicit false

namespace DeviceFilter

/-- The entry with bytes added to its end, if it is a file. -/
def FileNode.grow (added : List UInt8) : FileNode → FileNode
  | file bytes => .file (bytes ++ added)
  | directory => .directory
  | link target => .link target

theorem FileNode.grow_nil (node : FileNode) : node.grow [] = node := by
  cases node with
  | file bytes => rw [grow, List.append_nil]
  | directory => rfl
  | link target => rfl

theorem FileNode.grow_grow (a b : List UInt8) (node : FileNode) :
    (node.grow a).grow b = node.grow (a ++ b) := by
  cases node with
  | file bytes => rw [grow, grow, grow, List.append_assoc]
  | directory => rfl
  | link target => rfl

namespace FileTree

variable {t u v : FileTree} {place : Place} {old new : List UInt8} {added : Place → List UInt8}

/-! ## Entries -/

theorem lookup_filter_of_ne {q : Place} (h : q ≠ place) (entries : List (Place × FileNode)) :
    (entries.filter (·.1 != place)).lookup q = entries.lookup q := by
  induction entries with
  | nil => rfl
  | cons entry entries ih =>
    obtain ⟨p, node⟩ := entry
    by_cases hp : p = place
    · rw [List.filter_cons_of_neg (by simpa using hp), ih, List.lookup_cons, hp,
        beq_false_of_ne h]
    · rw [List.filter_cons_of_pos (by simpa using hp), List.lookup_cons, List.lookup_cons, ih]

theorem node?_put (h : place ≠ []) (t : FileTree) (node : FileNode) (q : Place) :
    (t.put place node).node? q = if q = place then some node else t.node? q := by
  by_cases hq : q = place
  · subst hq
    rw [if_pos rfl, node?, if_neg h, put, List.lookup_cons_self]
  · rw [if_neg hq, node?, node?, put, List.lookup_cons, beq_false_of_ne hq]
    dsimp only
    rw [lookup_filter_of_ne hq]

/-- `u` is `t` with bytes added to its files, place by place. -/
def Grown (added : Place → List UInt8) (t u : FileTree) : Prop :=
  ∀ place, u.node? place = (t.node? place).map (.grow (added place))

theorem Grown.node?_of_some {node : FileNode} (h : Grown added t u)
    (hnode : t.node? place = some node) : u.node? place = some (node.grow (added place)) := by
  rw [h, hnode, Option.map_some]

theorem Grown.refl (t : FileTree) : Grown (fun _ => []) t t := by
  intro place
  cases t.node? place with
  | none => rfl
  | some node => rw [Option.map_some, FileNode.grow_nil]

theorem Grown.trans {added' : Place → List UInt8} (h : Grown added t u) (h' : Grown added' u v) :
    Grown (fun place => added place ++ added' place) t v := by
  intro place
  rw [h', h]
  cases t.node? place with
  | none => rfl
  | some node => rw [Option.map_some, Option.map_some, Option.map_some, FileNode.grow_grow]

theorem grown_put (h : t.node? place = some (.file old)) (new : List UInt8) :
    Grown (fun q => if place = q then new else []) t (t.put place (.file (old ++ new))) := by
  have hplace : place ≠ [] := by
    rintro rfl
    cases h
  intro q
  rw [node?_put hplace]
  by_cases hq : q = place
  · subst hq
    simp only [if_true, h, Option.map_some, FileNode.grow]
  · simp only [if_neg hq, if_neg (Ne.symm hq)]
    exact Grown.refl t q

/-! ## Paths -/

/-- Directories and links stay what they are, so a path is followed through the same places. -/
theorem Grown.walk_eq (h : Grown added t u) (last : Bool) (links : Nat) (here : Place)
    (todo : List (List Char)) :
    u.walk last links here todo =
      (t.walk last links here todo).map fun (place, node) => (place, node.grow (added place)) := by
  -- Only at the end of a way is a file looked at, so `added` shows in the result alone.
  fun_induction t.walk last links here todo with
  | case1 =>
    rw [walk]
    rfl
  | case2 links here rest ih => rw [walk, if_pos rfl, ih]
  | case3 links here rest hempty ih => rw [walk, if_neg hempty, if_pos rfl, ih]
  | case4 links here part rest hempty hup hlong =>
    rw [walk, if_neg hempty, if_neg hup, if_pos hlong, Except.map]
  | case5 links here part rest hempty hup hlong hnode =>
    rw [walk, if_neg hempty, if_neg hup, if_neg hlong, h, hnode, Option.map_none, Except.map]
  | case6 links here part rest hempty hup hlong hnode ih =>
    rw [walk, if_neg hempty, if_neg hup, if_neg hlong, h.node?_of_some hnode]
    exact ih
  | case7 links here part hempty hup hlong bytes hnode =>
    rw [walk, if_neg hempty, if_neg hup, if_neg hlong, h.node?_of_some hnode]
    rfl
  | case8 links here part rest hempty hup hlong bytes hnode hrest =>
    rw [walk, if_neg hempty, if_neg hup, if_neg hlong, h.node?_of_some hnode]
    exact if_neg hrest
  | case9 links here part rest hempty hup hlong target hnode hstop =>
    rw [walk, if_neg hempty, if_neg hup, if_neg hlong, h.node?_of_some hnode]
    exact if_pos hstop
  | case10 here part rest hempty hup hlong target hnode hstop =>
    rw [walk, if_neg hempty, if_neg hup, if_neg hlong, h.node?_of_some hnode]
    exact if_neg hstop
  | case11 here part rest hempty hup hlong target hnode hstop links start ih =>
    rw [walk, if_neg hempty, if_neg hup, if_neg hlong, h.node?_of_some hnode]
    exact (if_neg hstop).trans ih

/-- What a path finds as a file is the file at that place. -/
theorem node?_of_walk {last : Bool} {links : Nat} {here : Place} {todo : List (List Char)}
    (h : t.walk last links here todo = .ok (place, .file old)) :
    t.node? place = some (.file old) := by
  fun_induction t.walk last links here todo with
  | case1 => cases h
  | case2 links here rest ih => exact ih h
  | case3 links here rest hempty ih => exact ih h
  | case4 => cases h
  | case5 => cases h
  | case6 links here part rest hempty hup hlong hnode ih => exact ih h
  | case7 links here part hempty hup hlong bytes hnode =>
    cases h
    exact hnode
  | case8 => cases h
  | case9 => cases h
  | case10 => cases h
  | case11 here part rest hempty hup hlong target hnode hstop links start ih => exact ih h

/-- Whether a path is followed at all is up to its text. -/
theorem find_eq_error_or_walk (path : Path) (last : Bool) :
    (∃ e, ∀ t : FileTree, t.find path last = .error e) ∨
      ∀ t : FileTree, t.find path last =
        (t.walk last linkLimit [] (parts path)).mapError .errno := by
  unfold find
  split
  · exact .inl ⟨_, fun _ => rfl⟩
  · split
    · exact .inl ⟨_, fun _ => rfl⟩
    · split
      · exact .inl ⟨_, fun _ => rfl⟩
      · exact .inr fun _ => rfl

theorem Grown.find_eq (h : Grown added t u) (path : Path) (last : Bool) :
    u.find path last =
      (t.find path last).map fun (place, node) => (place, node.grow (added place)) := by
  rcases find_eq_error_or_walk path last with ⟨e, hfind⟩ | hfind
  · rw [hfind, hfind, Except.map]
  · rw [hfind, hfind, h.walk_eq]
    cases t.walk last linkLimit [] (parts path) with
    | ok found => rfl
    | error e => rfl

theorem node?_of_find {path : Path} {last : Bool} (h : t.find path last = .ok (place, .file old)) :
    t.node? place = some (.file old) := by
  rcases find_eq_error_or_walk path last with ⟨e, hfind⟩ | hfind
  · rw [hfind] at h
    cases h
  · rw [hfind] at h
    cases hwalk : t.walk last linkLimit [] (parts path) with
    | ok found =>
      rw [hwalk] at h
      cases h
      exact node?_of_walk hwalk
    | error e =>
      rw [hwalk] at h
      cases h

/-! ## Files -/

/-- The file that a path leads to, by its place and with its bytes. -/
def openFile (t : FileTree) (path : Path) : Except SystemError (Place × List UInt8) :=
  match t.find path true with
  | .ok (place, .file bytes) => .ok (place, bytes)
  | .ok (_, _) => .error (.errno Errno.isDirectory)
  | .error e => .error e

theorem read_eq (t : FileTree) (path : Path) : t.read path = (t.openFile path).map Prod.snd := by
  unfold read openFile
  rcases t.find path true with e | ⟨place, _ | _ | _⟩ <;> rfl

theorem append_eq (t : FileTree) (path : Path) (new : List UInt8) :
    t.append path new =
      (t.openFile path).map fun (place, old) => t.put place (.file (old ++ new)) := by
  unfold append openFile
  rcases t.find path true with e | ⟨place, _ | _ | _⟩ <;> rfl

theorem node?_of_openFile {path : Path} (h : t.openFile path = .ok (place, old)) :
    t.node? place = some (.file old) := by
  unfold openFile at h
  split at h
  · cases h
    exact node?_of_find ‹_›
  · cases h
  · cases h

theorem Grown.openFile_eq (h : Grown added t u) (path : Path) :
    u.openFile path =
      (t.openFile path).map fun (place, bytes) => (place, bytes ++ added place) := by
  unfold openFile
  rw [h.find_eq]
  rcases t.find path true with e | ⟨place, _ | _ | _⟩ <;> rfl

theorem Grown.exists_openFile {path : Path} {file : Place × List UInt8} (h : Grown added t u)
    (hfile : u.openFile path = .ok file) : ∃ old, t.openFile path = .ok old := by
  rw [h.openFile_eq] at hfile
  cases hopen : t.openFile path with
  | ok old => exact ⟨old, rfl⟩
  | error e =>
    rw [hopen] at hfile
    cases hfile

theorem Grown.openFile_eq_error {path : Path} {e : SystemError} (h : Grown added t u)
    (hfile : u.openFile path = .error e) : t.openFile path = .error e := by
  rw [h.openFile_eq] at hfile
  cases hopen : t.openFile path with
  | ok old =>
    rw [hopen] at hfile
    cases hfile
  | error e' =>
    rw [hopen] at hfile
    cases hfile
    rfl

end FileTree

end DeviceFilter

import DeviceFilter.Path
import Mathlib.Data.List.Basic

/-!
Joined paths, final components and the way up. A relative path keeps its text when it is joined to
another one. Every part between slashes that is neither empty nor a lone dot is a component; the
last of them is the final one, and slashes in front of a path hide no `..`.
-/
set_option autoImplicit false

namespace DeviceFilter.Path

open Text

/-! ## Joining -/

/-- The path without its leading slashes. -/
def relative (path : Path) : Path := String.ofList (dropSlashes path.toList)

theorem toList_relative (path : Path) : (relative path).toList = dropSlashes path.toList :=
  String.toList_ofList

theorem head?_dropSlashes_ne (cs : List Char) : (dropSlashes cs).head? ≠ some '/' := by
  intro h
  have hfirst := List.head?_dropWhile_not (· == '/') cs
  rw [← dropSlashes, h] at hfirst
  cases hfirst

theorem head?_relative_ne (path : Path) : (relative path).toList.head? ≠ some '/' := by
  rw [toList_relative]
  exact head?_dropSlashes_ne path.toList

/-- The text in front of a relative path that is joined to `path`. -/
def opened (path : Path) : List Char :=
  if path.toList = [] ∨ path.toList.getLast? = some '/' then path.toList
  else path.toList ++ ['/']

theorem toList_join {a b : Path} (h : b.toList.head? ≠ some '/') :
    (join a b).toList = opened a ++ b.toList := by
  rw [join, String.toList_ofList, joinChars, if_neg h, opened]
  split
  · rfl
  · rw [List.append_assoc, List.singleton_append]

/-- `b` behind `a`, with one slash between them unless `a` is empty or ends in one; an absolute `b`
does not matter here. -/
def under (a b : Path) : Path :=
  if a = "" ∨ a.toList.getLast? = some '/' then a ++ b else a ++ "/" ++ b

theorem join_eq_under {a b : Path} (h : b.toList.head? ≠ some '/') : join a b = under a b := by
  rw [← String.toList_inj, toList_join h, opened, under]
  simp only [String.toList_eq_nil_iff]
  split
  · exact String.toList_append.symm
  · simp

theorem exists_gap (a b : Path) :
    ∃ gap : String, (gap = "" ∨ gap = "/") ∧ under a b = a ++ gap ++ b := by
  unfold under
  split
  · exact ⟨"", .inl rfl, by rw [String.append_empty]⟩
  · exact ⟨"/", .inr rfl, rfl⟩

theorem join_right_injective {a b c : Path} (hb : b.toList.head? ≠ some '/')
    (hc : c.toList.head? ≠ some '/') (h : join a b = join a c) : b = c := by
  have hlist := congrArg String.toList h
  rw [toList_join hb, toList_join hc] at hlist
  exact String.toList_inj.mp (List.append_cancel_left hlist)

/-! ## Components -/

section
variable {part cs : List Char}

theorem mem_components_iff (hempty : part ≠ []) (hdot : part ≠ ['.']) :
    part ∈ components cs ↔ part ∈ split '/' cs := by
  unfold components
  cases hsplit : split '/' cs with
  | nil => exact absurd hsplit (split_ne_nil '/' cs)
  | cons first rest =>
    by_cases hfirst : first = []
    · simp [hfirst, hempty, hdot]
    · simp [hfirst, hempty, hdot]

theorem mem_split_dropSlashes_iff (hempty : part ≠ []) :
    part ∈ split '/' (dropSlashes cs) ↔ part ∈ split '/' cs := by
  induction cs with
  | nil => rfl
  | cons c cs ih =>
    by_cases hc : c = '/'
    · subst hc
      have hsplit : split '/' ('/' :: cs) = [] :: split '/' cs := if_pos rfl
      have hdrop : dropSlashes ('/' :: cs) = dropSlashes cs := rfl
      rw [hdrop, ih, hsplit, List.mem_cons, or_iff_right hempty]
    · have hdrop : dropSlashes (c :: cs) = c :: cs :=
        List.dropWhile_cons_of_neg (by simpa using hc)
      rw [hdrop]

end

/-! ## The final component -/

/-- `name` is the last part of the path that is neither empty nor a lone dot, and not `..`. -/
def FinalComponent (path : Path) (name : List Char) : Prop :=
  ∃ front rest, split '/' path.toList = front ++ name :: rest ∧
    (name ≠ [] ∧ name ≠ ['.'] ∧ name ≠ ['.', '.']) ∧ ∀ part ∈ rest, part = [] ∨ part = ['.']

theorem getLast?_filter_eq_some_iff {α : Type} {p : α → Bool} {xs : List α} {x : α} :
    (xs.filter p).getLast? = some x ↔
      ∃ front rest, xs = front ++ x :: rest ∧ p x = true ∧ ∀ y ∈ rest, p y = false := by
  rw [List.getLast?_filter, List.find?_eq_some_iff_append]
  constructor
  · rintro ⟨hx, before, behind, hxs, hbefore⟩
    refine ⟨behind.reverse, before.reverse, ?_, hx, fun y hy => ?_⟩
    · rw [← List.reverse_reverse xs, hxs]
      simp
    · simpa using hbefore y (List.mem_reverse.mp hy)
  · rintro ⟨front, rest, rfl, hx, hrest⟩
    refine ⟨hx, rest.reverse, front.reverse, by simp, fun y hy => ?_⟩
    rw [hrest y (List.mem_reverse.mp hy)]
    rfl

/-- A part between slashes that can be a component anywhere in a path. -/
def isPart (part : List Char) : Bool := part ≠ [] && part ≠ ['.']

theorem isPart_iff {part : List Char} : isPart part = true ↔ part ≠ [] ∧ part ≠ ['.'] := by
  simp [isPart]

theorem select_eq_some_iff {last name : List Char} (h : last ≠ ['.']) :
    (if last = ['.'] ∨ last = ['.', '.'] then none else some last) = some name ↔
      some last = some name ∧ name ≠ ['.', '.'] := by
  by_cases hup : last = ['.', '.']
  · simp [hup, eq_comm]
  · simp only [h, hup, or_self, if_false, Option.some.injEq]
    exact (and_iff_left_of_imp fun heq => heq ▸ hup).symm

/-- A dot that opens a relative path is a component, but no name. -/
theorem fileName?_eq_some_iff_getLast? {cs name : List Char} :
    fileName? cs = some name ↔
      ((split '/' cs).filter isPart).getLast? = some name ∧ name ≠ ['.', '.'] := by
  cases hsplit : split '/' cs with
  | nil => exact absurd hsplit (split_ne_nil '/' cs)
  | cons first rest =>
    have hparts : components cs
        = if first = [] then rest.filter isPart else first :: rest.filter isPart := by
      rw [components, hsplit]
      rfl
    rw [fileName?, hparts]
    cases hkept : (rest.filter isPart).getLast? with
    | none =>
      have hnil : rest.filter isPart = [] := List.getLast?_eq_none_iff.mp hkept
      by_cases hfirst : isPart first = true
      · obtain ⟨hempty, hdot⟩ := isPart_iff.mp hfirst
        rw [if_neg hempty, List.filter_cons_of_pos hfirst, hnil]
        exact select_eq_some_iff hdot
      · rw [List.filter_cons_of_neg hfirst, hnil]
        rw [isPart_iff, not_and_or, not_not, not_not] at hfirst
        rcases hfirst with rfl | rfl
        · simp
        · simp
    | some last =>
      obtain ⟨-, -, -, hlast, -⟩ := getLast?_filter_eq_some_iff.mp hkept
      have hall : ((first :: rest).filter isPart).getLast? = some last := by
        rw [List.filter_cons]
        split
        · rw [List.getLast?_cons, hkept]
          rfl
        · exact hkept
      have hcomponents : (if first = [] then rest.filter isPart
          else first :: rest.filter isPart).getLast? = some last := by
        split
        · exact hkept
        · rw [List.getLast?_cons, hkept]
          rfl
      rw [hcomponents, hall]
      exact select_eq_some_iff (isPart_iff.mp hlast).2

theorem fileName?_eq_some_iff {path : Path} {name : List Char} :
    fileName? path.toList = some name ↔ FinalComponent path name := by
  have hpart (part : List Char) : isPart part = false ↔ part = [] ∨ part = ['.'] := by
    rw [← Bool.not_eq_true, isPart_iff, not_and_or, not_not, not_not]
  rw [fileName?_eq_some_iff_getLast?, getLast?_filter_eq_some_iff]
  constructor
  · rintro ⟨⟨front, rest, hsplit, hname, hrest⟩, hup⟩
    obtain ⟨hempty, hdot⟩ := isPart_iff.mp hname
    exact ⟨front, rest, hsplit, ⟨hempty, hdot, hup⟩, fun part h => (hpart part).mp (hrest part h)⟩
  · rintro ⟨front, rest, hsplit, ⟨hempty, hdot, hup⟩, hrest⟩
    exact ⟨⟨front, rest, hsplit, isPart_iff.mpr ⟨hempty, hdot⟩,
      fun part h => (hpart part).mpr (hrest part h)⟩, hup⟩

/-! ## The way up -/

/-- Some component of the path is `..`. -/
def Climbs (path : Path) : Prop := ['.', '.'] ∈ components path.toList

instance (path : Path) : Decidable (Climbs path) :=
  inferInstanceAs (Decidable (['.', '.'] ∈ components path.toList))

theorem climbs_iff {path : Path} : Climbs path ↔ ['.', '.'] ∈ split '/' path.toList :=
  mem_components_iff (by decide) (by decide)

theorem climbs_relative_iff {path : Path} : Climbs (relative path) ↔ Climbs path := by
  rw [climbs_iff, climbs_iff, toList_relative, mem_split_dropSlashes_iff (by decide)]

/-- Where a slash lies between two paths, each keeps its components. -/
theorem climbs_append_iff {front rest : Path} (h : rest = "" ∨ rest.toList.head? = some '/') :
    Climbs (front ++ rest) ↔ Climbs front ∨ Climbs rest := by
  simp only [climbs_iff, String.toList_append]
  rcases h with rfl | hslash
  · simp [split]
  · obtain ⟨cs, hcs⟩ := List.head?_eq_some_iff.mp hslash
    have hsplit : split '/' ('/' :: cs) = [] :: split '/' cs := if_pos rfl
    rw [hcs, split_append_sep, hsplit]
    simp

end DeviceFilter.Path

import DeviceFilter.CgroupVersion

/-!
Counters of what was done. A counter is present once it was counted on, even by nothing. They are
shown in the text format that metric collectors read, sorted by name.
-/
set_option autoImplicit false

namespace DeviceFilter

/-- How an application of rules ended. -/
inductive AppliedAs where
  | written
  | replaced
  | externallyManaged
  | error
deriving DecidableEq, Repr

def AppliedAs.label : AppliedAs → String
  | written => "written"
  | replaced => "replaced"
  | externallyManaged => "externally_managed"
  | error => "error"

inductive Counter where
  | applied (backend : CgroupVersion) (outcome : AppliedAs)
  | attached
  | detached
  | loaded
  | skipped
  | retries
  | rulesCompiled
deriving DecidableEq, Repr

structure Metrics where
  count? : Counter → Option Nat

namespace Metrics

def empty : Metrics := ⟨fun _ => none⟩

/-- How far a counter has moved. -/
def count (m : Metrics) (c : Counter) : Nat := (m.count? c).getD 0

def add (m : Metrics) (c : Counter) (n : Nat) : Metrics :=
  let total := m.count c + n
  ⟨fun d => if d = c then some total else m.count? d⟩

theorem count_add (m : Metrics) (c d : Counter) (n : Nat) :
    (m.add c n).count d = if d = c then m.count c + n else m.count d := by
  by_cases h : d = c <;> simp [add, count, h]

/-- One named counter with its explanation, and the label sets it is kept for. -/
structure Family where
  name : String
  help : String
  samples : List (String × Counter)

/-- Ascending by name. -/
def families : List Family :=
  let labels (v : CgroupVersion) (o : AppliedAs) : String × Counter :=
    ("\x7bbackend=\"" ++ v.name ++ "\",outcome=\"" ++ o.label ++ "\"\x7d", .applied v o)
  [ { name := "devcgroup_apply_total"
      help := "Device rule applications by backend and outcome"
      samples := [ labels .v1 .error, labels .v1 .written, labels .v2 .error,
        labels .v2 .externallyManaged, labels .v2 .replaced ] },
    { name := "devcgroup_programs_attached_total"
      help := "Device filter programs attached to a cgroup"
      samples := [("", .attached)] },
    { name := "devcgroup_programs_detached_total"
      help := "Device filter programs detached from a cgroup"
      samples := [("", .detached)] },
    { name := "devcgroup_programs_loaded_total"
      help := "Device filter programs loaded with BPF_PROG_LOAD"
      samples := [("", .loaded)] },
    { name := "devcgroup_programs_skipped_total"
      help := "Attached programs skipped because opening them was not permitted"
      samples := [("", .skipped)] },
    { name := "devcgroup_query_retries_total"
      help := "BPF_PROG_QUERY retries after ENOSPC"
      samples := [("", .retries)] },
    { name := "devcgroup_rules_compiled_total"
      help := "Device rules compiled into filter programs"
      samples := [("", .rulesCompiled)] } ]

/-- A family's text, empty when none of its counters is present. -/
def familyText (m : Metrics) (f : Family) : String :=
  let lines := f.samples.filterMap fun (labels, c) =>
    (m.count? c).map fun n => f.name ++ labels ++ " " ++ toString n ++ "\n"
  if lines = [] then ""
  else "# HELP " ++ f.name ++ " " ++ f.help ++ "\n# TYPE " ++ f.name ++ " counter\n"
    ++ String.join lines

def exposition (m : Metrics) : String := String.join (families.map m.familyText)

end Metrics

/-- Computations in `m` that count and may fail; what was counted before a failure stays so. -/
abbrev Counted (ε : Type) (m : Type → Type) := ExceptT ε (StateT Metrics m)

namespace Counted

variable {ε δ α : Type} {m : Type → Type} [Monad m]

def count (c : Counter) (n : Nat) : Counted ε m Unit := modify (·.add c n)

/-- A computation that counts nothing, with its failures. -/
def ofExcept (action : m (Except ε α)) : Counted ε m α := ExceptT.mk (liftM action)

/-- The same with failures of another kind, made by `f`. -/
def ofExceptWith (f : δ → ε) (action : m (Except δ α)) : Counted ε m α :=
  ofExcept ((·.mapError f) <$> action)

end Counted

end DeviceFilter

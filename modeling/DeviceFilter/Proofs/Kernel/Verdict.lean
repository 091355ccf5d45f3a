import DeviceFilter.Proofs.Kernel.Faithful
import DeviceFilter.Proofs.Program.Meaning
import DeviceFilter.Proofs.Traversal
import Mathlib.Tactic.Choose

/-!
What a cgroup decides. Its programs decide an event together: it is allowed when all of them allow
it.
-/
set_option autoImplicit false

namespace DeviceFilter

open Machine

/-! ## Programs -/

/-- A program that can be read back and put behind rules, with its results. -/
structure Program.Means (p : Program) (result : Event → UInt64) : Prop where
  ne_nil : p ≠ []
  encodable : p.Encodable
  forward : p.Forward
  answers : p.Answers .native result

theorem Program.Means.compile {tail p : Program} {result : Event → UInt64}
    {rules : List DeviceRule} (h : tail.Means result) (hp : Program.compile tail rules = .ok p) :
    p.Means (overridden result rules) where
  ne_nil := compile_ne_nil h.ne_nil hp
  encodable := encodable_compile h.encodable hp
  forward := forward_compile h.ne_nil h.forward hp
  answers := h.answers.compile h.ne_nil h.forward hp

theorem Program.means_constant (fallback : Bool) :
    (Program.constant fallback).Means fun _ => verdict fallback where
  ne_nil := Program.constant_ne_nil fallback
  encodable := Program.encodable_constant fallback
  forward := Program.forward_constant fallback
  answers := Program.answers_constant fallback

theorem Program.Means.allows_eq {p : Program} {f : Event → UInt64} {e : Event} (h : p.Means f)
    (hshort : p.length < stepLimit) (he : e.access.bits.toNat < 65536) :
    p.allows e = .ok (f e != 0) := by
  have hrun : p.run e = .ok (f e) :=
    Program.runOn_of_ends h.forward hshort (h.answers e he _ clean_initial)
  rw [Program.allows, hrun]
  rfl

/-- A program with one answer to each event, whatever registers 2 to 6 hold at its start. -/
structure Program.Settled (p : Program) : Prop where
  encodable : p.Encodable
  forward : p.Forward
  answers : ∀ e : Event, e.access.bits.toNat < 65536 → ∃ value, ∀ rs, Clean rs →
    runFrom .native (e.context .native) p.toArray stepLimit ⟨0, rs⟩ = .ok value

theorem Program.Settled.ne_nil {p : Program} (h : p.Settled) : p ≠ [] := by
  rintro rfl
  obtain ⟨value, hvalue⟩ := h.answers ⟨.character, ⟨0⟩, 0, 0⟩ (by decide)
  cases hvalue initial.registers clean_initial

theorem Program.settled_iff {p : Program} (hshort : p.length < stepLimit) :
    p.Settled ↔ ∃ result, p.Means result := by
  constructor
  · intro h
    choose! result hresult using h.answers
    refine ⟨result, h.ne_nil, h.encodable, h.forward, ?_⟩
    intro e he rs hrs
    rw [← hresult e he rs hrs]
    exact ends_of_runFrom h.forward hshort
  · rintro ⟨result, h⟩
    refine ⟨h.encodable, h.forward, fun e he => ⟨result e, fun rs hrs => ?_⟩⟩
    exact runFrom_of_ends h.forward (h.answers e he rs hrs) (by decide) (by simpa using hshort)

/-! ## Cgroups -/

namespace KernelStore

variable {Cgroup : Type} (v : KernelStore Cgroup) (c : Cgroup)

def instructionsOf : List Program :=
  (v.attached c).filterMap fun id => (v.program? id).map (·.instructions)

/-- A cgroup allows what all of its programs allow. -/
def verdict (e : Event) : Except Fault Bool := do
  let answers ← (v.instructionsOf c).mapM (·.allows e)
  return answers.all id

/-- The programs of a cgroup that can be put behind rules, with their results. -/
structure Means (results : List (Event → UInt64)) : Prop where
  nodup : (v.attached c).Nodup
  permitted : ∀ id, v.refusal? id = none
  programs : ∃ ps : List KeptProgram, (v.attached c).map v.program? = ps.map some ∧
    List.Forall₂ (fun p f => p.instructions.Means f) ps results

/-- Any programs that may be opened and decide by themselves. -/
structure Settled : Prop where
  nodup : (v.attached c).Nodup
  permitted : ∀ id, v.refusal? id = none
  programs : ∀ p ∈ v.instructionsOf c, p.Settled

variable {v c}

theorem instructionsOf_eq {ps : List KeptProgram} (h : (v.attached c).map v.program? = ps.map some) :
    v.instructionsOf c = ps.map (·.instructions) := by
  have hsplit : v.instructionsOf c
      = ((v.attached c).map v.program?).filterMap (Option.map (·.instructions)) := by
    rw [List.filterMap_map]
    rfl
  rw [hsplit, h, List.filterMap_map]
  exact congrFun List.filterMap_eq_map ps

theorem mapM_allows {ps : List Program} {results : List (Event → UInt64)} {e : Event}
    (h : List.Forall₂ Program.Means ps results) (hshort : ∀ p ∈ ps, p.length < stepLimit)
    (he : e.access.bits.toNat < 65536) :
    ps.mapM (·.allows e) = .ok (results.map fun f => f e != 0) := by
  have hboth : List.Forall₂ (fun p f => p.length < stepLimit ∧ p.Means f) ps results :=
    (List.forall₂_and_left ps results).mpr ⟨hshort, h⟩
  refine mapM_eq_ok_iff.mpr (List.forall₂_map_right_iff.mpr (hboth.imp ?_))
  intro p f hp
  exact hp.2.allows_eq hp.1 he

theorem Means.accessible_eq {results : List (Event → UInt64)} (h : v.Means c results) :
    v.accessible c = v.attached c :=
  List.filter_eq_self.mpr fun id _ => by rw [h.permitted]; rfl

theorem Means.length_attached {results : List (Event → UInt64)} (h : v.Means c results) :
    (v.attached c).length = results.length := by
  obtain ⟨ps, hps, hmeans⟩ := h.programs
  rw [← hmeans.length_eq]
  simpa using congrArg List.length hps

theorem Means.verdict_eq {results : List (Event → UInt64)} (h : v.Means c results)
    (hshort : ∀ p ∈ v.instructionsOf c, p.length < stepLimit) {e : Event}
    (he : e.access.bits.toNat < 65536) :
    v.verdict c e = .ok (results.all fun f => f e != 0) := by
  obtain ⟨ps, hps, hmeans⟩ := h.programs
  rw [instructionsOf_eq hps] at hshort
  have hall : List.Forall₂ Program.Means (ps.map (·.instructions)) results :=
    List.forall₂_map_left_iff.mpr hmeans
  rw [verdict, instructionsOf_eq hps, mapM_allows hall hshort he]
  change Except.ok ((results.map fun f => f e != 0).all id) = _
  rw [List.all_map]
  rfl

theorem exists_map_some {ids : List UInt32} (h : ∀ id ∈ ids, (v.program? id).isSome) :
    ∃ ps : List KeptProgram, ids.map v.program? = ps.map some := by
  induction ids with
  | nil => exact ⟨[], rfl⟩
  | cons id ids ih =>
    obtain ⟨hid, hids⟩ := List.forall_mem_cons.mp h
    obtain ⟨p, hp⟩ := Option.isSome_iff_exists.mp hid
    obtain ⟨ps, hps⟩ := ih hids
    exact ⟨p :: ps, by rw [List.map_cons, List.map_cons, hp, hps]⟩

theorem Settled.means (h : v.Settled c) (hheld : ∀ id ∈ v.attached c, (v.program? id).isSome)
    (hshort : ∀ p ∈ v.instructionsOf c, p.length < stepLimit) : ∃ results, v.Means c results := by
  obtain ⟨ps, hps⟩ := exists_map_some hheld
  have hsettled := h.programs
  rw [instructionsOf_eq hps] at hsettled hshort
  have hmeans : ∀ p ∈ ps, ∃ result, p.instructions.Means result := fun p hp =>
    (Program.settled_iff (hshort _ (List.mem_map_of_mem hp))).mp (hsettled _ (List.mem_map_of_mem hp))
  choose! result hresult using hmeans
  exact ⟨ps.map result, h.nodup, h.permitted, ps, hps,
    List.forall₂_map_right_iff.mpr (List.forall₂_same.mpr hresult)⟩

end KernelStore

end DeviceFilter

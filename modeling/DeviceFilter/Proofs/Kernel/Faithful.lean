import DeviceFilter.Kernel.Attached
import DeviceFilter.Kernel.DecodedProgram
import DeviceFilter.Proofs.Counted
import DeviceFilter.Proofs.Instruction.Codec
import Mathlib.Logic.Function.Basic

/-!
Faithful kernels. A store is what a kernel keeps of programs and cgroups. A kernel is faithful when
each call does to the store what it is asked for and replies truly.

Ids have 32 bits, so no kernel can load programs under fresh ids forever. A store says how many more
it has room for.
-/
set_option autoImplicit false

namespace DeviceFilter

theorem QueryReply.idsIn_of_length_le {ids : List UInt32} {capacity : Nat}
    (hlength : ids.length < 2 ^ 32) (hfits : ids.length ≤ capacity) :
    QueryReply.idsIn ⟨.ofNat ids.length, ids⟩ capacity = ids := by
  have hcount : (UInt32.ofNat ids.length).toNat = ids.length :=
    UInt32.toNat_ofNat_of_lt' hlength
  rw [idsIn, hcount, Nat.min_eq_left hfits]
  simp

/-- The caller's buffer for translated instructions after a reply; what was not written is zero. -/
def InfoReply.buffer (r : InfoReply) (buffers : InfoBuffers) : List UInt8 :=
  Layout.fit buffers.translated r.translated

/-- Two replies that are true of a program. -/
theorem Kernel.decodedProgram_of_truthful {p : Program} {sized : ProgramInfo} {filled : InfoReply}
    (hencodable : p.Encodable) (hlength : 8 * p.length < 2 ^ 32)
    (hsized : sized.translatedLength = .ofNat (8 * p.length))
    (hfilled : filled.info.translatedLength = .ofNat (8 * p.length))
    (hbytes : filled.translated = (p.encode .native).take (InfoBuffers.sizedFor sized).translated)
    (otherLicense : String) :
    decodedProgram sized filled otherLicense
      = .ok ⟨p, if filled.info.gplCompatible then gplLicense else otherLicense, filled.info⟩ := by
  have hroom : (InfoBuffers.sizedFor sized).translated = (p.encode .native).length := by
    change sized.translatedLength.toNat = _
    rw [hsized, Program.length_encode]
    exact UInt32.toNat_ofNat_of_lt' hlength
  have hbuffer : Layout.fit (InfoBuffers.sizedFor sized).translated filled.translated
      = p.encode .native := by
    rw [hbytes, hroom, List.take_length, Layout.fit, List.take_length, Nat.sub_self,
      List.replicate_zero, List.append_nil]
  have hlengths : ¬ filled.info.translatedLength ≠ sized.translatedLength :=
    not_not.mpr (hfilled.trans hsized.symm)
  simp only [decodedProgram, if_neg hlengths, hbuffer,
    Program.decode_encode_of_encodable .native hencodable]

structure KeptProgram where
  instructions : Program
  license : String
  name : String
  gplCompatible : Bool

structure KernelStore (Cgroup : Type) where
  program? : UInt32 → Option KeptProgram
  attached : Cgroup → List UInt32
  /-- Why a program may not be opened. -/
  refusal? : UInt32 → Option SystemError
  room : Nat

namespace KernelStore

variable {Cgroup : Type} [DecidableEq Cgroup] (v : KernelStore Cgroup)

def load (id : UInt32) (p : KeptProgram) : KernelStore Cgroup :=
  { v with program? := Function.update v.program? id (some p), room := v.room - 1 }

def setAttached (c : Cgroup) (ids : List UInt32) : KernelStore Cgroup :=
  { v with attached := Function.update v.attached c ids }

@[simp] theorem setAttached_self (c : Cgroup) : v.setAttached c (v.attached c) = v := by
  rw [setAttached, Function.update_eq_self]

@[simp] theorem setAttached_setAttached (c : Cgroup) (ids later : List UInt32) :
    (v.setAttached c ids).setAttached c later = v.setAttached c later := by
  simp only [setAttached, Function.update_idem]

@[simp] theorem attached_setAttached (c : Cgroup) (ids : List UInt32) :
    (v.setAttached c ids).attached c = ids := Function.update_self ..

def attach (c : Cgroup) (id : UInt32) : KernelStore Cgroup :=
  v.setAttached c (v.attached c ++ [id])

def detach (c : Cgroup) (id : UInt32) : KernelStore Cgroup :=
  v.setAttached c ((v.attached c).erase id)

/-- The programs of a cgroup that may be opened. -/
def accessible (c : Cgroup) : List UInt32 :=
  (v.attached c).filter fun id => (v.refusal? id).isNone

/-- The answer to a listing with room for `capacity` ids. -/
def queryReply (c : Cgroup) (capacity : Nat) : Except QueryError QueryReply :=
  let count := UInt32.ofNat (v.attached c).length
  if capacity < (v.attached c).length then .error (.noSpace count)
  else .ok ⟨count, v.attached c⟩

end KernelStore

/-- How the states of a kernel are seen as stores. -/
structure KernelView (σ Handle Cgroup : Type) where
  Valid : σ → Prop
  store : σ → KernelStore Cgroup
  idOf : Handle → UInt32
  cgroupAt : Path → Cgroup
  /-- The licenses that are compatible with the GPL. -/
  isGpl : String → Bool

namespace KernelView

variable {σ Handle Cgroup : Type}

def Shows (view : KernelView σ Handle Cgroup) (s : σ) (v : KernelStore Cgroup) : Prop :=
  view.Valid s ∧ view.store s = v

structure Faithful [DecidableEq Cgroup] (view : KernelView σ Handle Cgroup)
    (k : Kernel (StateM σ) Handle Cgroup) : Prop where
  held : ∀ s v, view.Shows s v → ∀ c, ∀ id ∈ v.attached c, (v.program? id).isSome
  openCgroup : ∀ s v, view.Shows s v → ∀ path, ∃ s',
    k.openCgroup path s = (.ok (view.cgroupAt path), s') ∧ view.Shows s' v
  query : ∀ s v, view.Shows s v → ∀ c capacity, (v.attached c).length < 2 ^ 32 → ∃ s',
    k.query c capacity s = (v.queryReply c capacity, s') ∧ view.Shows s' v
  opens : ∀ s v, view.Shows s v → ∀ id, (v.program? id).isSome → v.refusal? id = none →
    ∃ handle s', k.openProgram id s = (.ok handle, s') ∧ view.idOf handle = id ∧ view.Shows s' v
  refuses : ∀ s v, view.Shows s v → ∀ id cause, v.refusal? id = some cause →
    ∃ s', k.openProgram id s = (.error cause, s') ∧ view.Shows s' v
  info : ∀ s v, view.Shows s v → ∀ handle p, v.program? (view.idOf handle) = some p →
    ∀ generation buffers, ∃ reply s', k.info handle generation buffers s = (.ok reply, s') ∧
      view.Shows s' v ∧ reply.info.translatedLength = .ofNat (8 * p.instructions.length) ∧
      reply.translated = (p.instructions.encode .native).take buffers.translated ∧
      reply.info.gplCompatible = p.gplCompatible
  load : ∀ s v, view.Shows s v → 0 < v.room → ∀ instructions license name,
    Program.Encodable instructions → ∃ handle s',
      k.load instructions license name s = (.ok handle, s') ∧
      v.program? (view.idOf handle) = none ∧
      view.Shows s' (v.load (view.idOf handle) ⟨instructions, license, name, view.isGpl license⟩)
  attach : ∀ s v, view.Shows s v → ∀ handle c flags, (v.program? (view.idOf handle)).isSome →
    ∃ s', k.attach handle c flags s = (.ok (), s') ∧
      view.Shows s' (v.attach c (view.idOf handle))
  detach : ∀ s v, view.Shows s v → ∀ handle c, view.idOf handle ∈ v.attached c →
    ∃ s', k.detach handle c s = (.ok (), s') ∧ view.Shows s' (v.detach c (view.idOf handle))
  raiseMemlock : ∀ s v, view.Shows s v → ∃ reply s',
    k.raiseMemlock s = (reply, s') ∧ view.Shows s' v

namespace Faithful

variable [DecidableEq Cgroup] {view : KernelView σ Handle Cgroup}
variable {k : Kernel (StateM σ) Handle Cgroup} (h : view.Faithful k)
variable {s : σ} {v : KernelStore Cgroup} (μ : Metrics)
include h

/-! ## Enumerating -/

theorem queryOnce (hs : view.Shows s v) (c : Cgroup) (capacity : Nat)
    (hlength : (v.attached c).length < 2 ^ 32) : ∃ s', view.Shows s' v ∧
      k.queryOnce c capacity s = (.ok (if capacity < (v.attached c).length then
        .insufficient (v.attached c).length else .complete (v.attached c)), s') := by
  obtain ⟨s', hquery, hs'⟩ := h.query s v hs c capacity hlength
  refine ⟨s', hs', ?_⟩
  rw [Kernel.queryOnce, Counted.bind_apply, hquery]
  unfold KernelStore.queryReply
  split
  · change (Except.ok (QueryOutcome.insufficient (UInt32.ofNat _).toNat), s') = _
    rw [UInt32.toNat_ofNat_of_lt' hlength]
  · rename_i hfits
    change (Except.ok (QueryOutcome.complete (QueryReply.idsIn _ _)), s') = _
    rw [QueryReply.idsIn_of_length_le hlength (Nat.le_of_not_lt hfits)]

theorem idsWithin_of_le (hs : view.Shows s v) (c : Cgroup) (attempts : Nat) {capacity : Nat}
    (hlength : (v.attached c).length < 2 ^ 32) (hfits : (v.attached c).length ≤ capacity) :
    ∃ s', view.Shows s' v ∧
      (k.idsWithin c (attempts + 1) capacity).exec μ s = (.ok (v.attached c), μ, s') := by
  obtain ⟨s', hs', hquery⟩ := h.queryOnce hs c capacity hlength
  rw [if_neg (Nat.not_lt.mpr hfits)] at hquery
  refine ⟨s', hs', ?_⟩
  rw [Kernel.idsWithin, Counted.exec_bind, Counted.exec_ofExcept, hquery]
  rfl

/-- One more attempt is enough when nothing is attached meanwhile. -/
theorem attachedIds (hs : view.Shows s v) (c : Cgroup)
    (hlength : (v.attached c).length < 2 ^ 32) : ∃ μ' s', view.Shows s' v ∧
      (k.attachedIds c).exec μ s = (.ok (v.attached c), μ', s') := by
  by_cases hfits : (v.attached c).length ≤ Kernel.firstCapacity
  · obtain ⟨s', hs', hrun⟩ := h.idsWithin_of_le μ hs c 9 hlength hfits
    exact ⟨μ, s', hs', hrun⟩
  · obtain ⟨s', hs', hquery⟩ := h.queryOnce hs c Kernel.firstCapacity hlength
    rw [if_pos (Nat.lt_of_not_le hfits)] at hquery
    obtain ⟨s'', hs'', hrun⟩ :=
      h.idsWithin_of_le (μ.add .retries 1) hs' c 8 hlength (Nat.le_refl _)
    have hnext : Kernel.nextCapacity Kernel.firstCapacity (v.attached c).length
        = (v.attached c).length := if_pos (Nat.lt_of_not_le hfits)
    refine ⟨μ.add .retries 1, s'', hs'', ?_⟩
    change (k.idsWithin c (9 + 1) Kernel.firstCapacity).exec μ s = _
    rw [Kernel.idsWithin, Counted.exec_bind, Counted.exec_ofExcept, hquery]
    change (k.idsWithin c 9 (Kernel.nextCapacity _ _)).exec (μ.add .retries 1) s' = _
    rw [hnext]
    exact hrun

/-! ## Opening -/

theorem openAll (hs : view.Shows s v) {ids : List UInt32}
    (hheld : ∀ id ∈ ids, (v.program? id).isSome)
    (hrefused : ∀ id ∈ ids, ∀ cause, v.refusal? id = some cause → cause.isPermissionDenied) :
    ∃ olds μ' s', view.Shows s' v ∧ (k.openAll ids).exec μ s = (.ok olds, μ', s') ∧
      olds.map (·.id) = ids.filter (fun id => (v.refusal? id).isNone) ∧
      ∀ old ∈ olds, view.idOf old.handle = old.id := by
  induction ids generalizing μ s with
  | nil => exact ⟨[], μ, s, hs, rfl, rfl, List.forall_mem_nil _⟩
  | cons id ids ih =>
    obtain ⟨hid, hids⟩ := List.forall_mem_cons.mp hheld
    obtain ⟨hcause, hcauses⟩ := List.forall_mem_cons.mp hrefused
    cases hrefusal : v.refusal? id with
    | none =>
      obtain ⟨handle, s', hopen, hhandle, hs'⟩ := h.opens s v hs id hid hrefusal
      obtain ⟨olds, μ', s'', hs'', hrest, holds, hhandles⟩ := ih μ hs' hids hcauses
      refine ⟨⟨id, handle⟩ :: olds, μ', s'', hs'', ?_, ?_, ?_⟩
      · rw [Kernel.openAll, Counted.exec_bind, Counted.exec_lift, hopen]
        change (k.openAll ids >>= _).exec μ s' = _
        rw [Counted.exec_bind, hrest]
        rfl
      · simp [hrefusal, holds]
      · exact List.forall_mem_cons.mpr ⟨hhandle, hhandles⟩
    | some cause =>
      obtain ⟨s', hopen, hs'⟩ := h.refuses s v hs id cause hrefusal
      obtain ⟨olds, μ', s'', hs'', hrest, holds, hhandles⟩ := ih (μ.add .skipped 1) hs' hids hcauses
      refine ⟨olds, μ', s'', hs'', ?_, ?_, hhandles⟩
      · rw [Kernel.openAll, Counted.exec_bind, Counted.exec_lift, hopen]
        dsimp only
        rw [if_pos (hcause cause hrefusal), Counted.exec_bind, Counted.exec_count]
        exact hrest
      · simp [hrefusal, holds]

theorem listAttached (hs : view.Shows s v) (c : Cgroup) (hlength : (v.attached c).length < 2 ^ 32)
    (hrefused : ∀ id ∈ v.attached c, ∀ cause, v.refusal? id = some cause →
      cause.isPermissionDenied) :
    ∃ olds μ' s', view.Shows s' v ∧ (k.listAttached c).exec μ s = (.ok olds, μ', s') ∧
      olds.map (·.id) = v.accessible c ∧ ∀ old ∈ olds, view.idOf old.handle = old.id := by
  obtain ⟨μ', s', hs', hids⟩ := h.attachedIds μ hs c hlength
  obtain ⟨olds, μ'', s'', hs'', hopen, holds, hhandles⟩ :=
    h.openAll μ' hs' (h.held s' v hs' c) hrefused
  refine ⟨olds, μ'', s'', hs'', ?_, holds, hhandles⟩
  rw [Kernel.listAttached, Counted.exec_bind, hids]
  exact hopen

/-! ## Reading -/

theorem readProgram (hs : view.Shows s v) {handle : Handle} {p : KeptProgram}
    (hp : v.program? (view.idOf handle) = some p) (hencodable : p.instructions.Encodable)
    (hlength : 8 * p.instructions.length < 2 ^ 32) (generation : Generation)
    (otherLicense : String) : ∃ program s', view.Shows s' v ∧
      k.readProgram handle generation otherLicense s = (.ok program, s') ∧
      program.instructions = p.instructions ∧
      program.license = if p.gplCompatible then Kernel.gplLicense else otherLicense := by
  obtain ⟨sized, s', hsized, hs', hsize, -, -⟩ := h.info s v hs handle p hp generation {}
  obtain ⟨filled, s'', hfilled, hs'', hsame, hbytes, hgpl⟩ :=
    h.info s' v hs' handle p hp generation (.sizedFor sized.info)
  refine ⟨⟨p.instructions, if p.gplCompatible then Kernel.gplLicense else otherLicense,
    filled.info⟩, s'', hs'', ?_, rfl, rfl⟩
  rw [Kernel.readProgram, Counted.bind_apply, hsized]
  change (k.info handle generation (.sizedFor sized.info) >>= _) s' = _
  rw [Counted.bind_apply, hfilled]
  change (Kernel.decodedProgram _ _ _, s'') = _
  rw [Kernel.decodedProgram_of_truthful hencodable hlength hsize hsame hbytes, hgpl]

end Faithful

end KernelView

end DeviceFilter

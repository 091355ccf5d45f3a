import DeviceFilter.Proofs.Kernel.Trace
import DeviceFilter.Proofs.Simulation.Faithful
import Mathlib.Data.List.Chain

/-!
Enumerating the programs of a cgroup, whatever the kernel replies. An enumeration is known by its
listings: the room each had and the reply to it. There are few of them, each has more room than the
one before, and the first that is not refused for want of room decides the result.
-/
set_option autoImplicit false

namespace DeviceFilter

/-! ## Buffers -/

/-- The caller's buffer after a reply; what was not written is zero. -/
def QueryReply.buffer (r : QueryReply) (capacity : Nat) : List UInt32 :=
  (r.ids ++ List.replicate capacity 0).take capacity

theorem QueryReply.idsIn_eq_take_buffer (r : QueryReply) (capacity : Nat) :
    r.idsIn capacity = (r.buffer capacity).take (min r.count.toNat capacity) := by
  rw [idsIn, buffer, List.take_take, Nat.min_eq_left (Nat.min_le_right _ _), List.take_append,
    List.take_replicate]
  congr 2
  omega

/-- One listing: the room for ids and the reply. -/
structure Listing where
  capacity : Nat
  reply : Except QueryError QueryReply

def Listing.record {Handle Cgroup : Type} (cgroup : Cgroup) (l : Listing) :
    KernelRecord Handle Cgroup :=
  .query cgroup l.capacity l.reply

/-- There was less room than was needed. -/
def Listing.Refused (l : Listing) : Prop := ∃ required, l.reply = .error (.noSpace required)

namespace Kernel

/-! ## Room -/

theorem lt_nextCapacity {capacity : Nat} (h : 0 < capacity) (required : Nat) :
    capacity < nextCapacity capacity required := by
  unfold nextCapacity
  split
  · assumption
  · omega

theorem required_le_nextCapacity (capacity required : Nat) :
    required ≤ nextCapacity capacity required := by
  unfold nextCapacity
  split
  · exact Nat.le_refl _
  · omega

theorem nextCapacity_le {capacity required bound : Nat} (hcapacity : capacity * 2 ≤ bound)
    (hrequired : required ≤ bound) : nextCapacity capacity required ≤ bound := by
  unfold nextCapacity
  split
  · exact hrequired
  · exact hcapacity

/-! ## Enumerations -/

/-- An enumeration with so many attempts left and room for so many ids at the next one: its result
and its listings. -/
inductive Enumerates :
    Nat → Nat → Except BpfError (List UInt32) → List Listing → Prop
  | exhausted (capacity : Nat) : Enumerates 0 capacity (.error (.queryExhausted queryAttempts)) []
  | complete (attempts capacity : Nat) (reply : QueryReply) :
      Enumerates (attempts + 1) capacity (.ok (reply.idsIn capacity)) [⟨capacity, .ok reply⟩]
  | failed (attempts capacity : Nat) (cause : SystemError) :
      Enumerates (attempts + 1) capacity (.error (.queryFailed .query cause))
        [⟨capacity, .error (.system cause)⟩]
  | again {attempts capacity : Nat} {r : Except BpfError (List UInt32)} {ls : List Listing}
      (required : UInt32) (h : Enumerates attempts (nextCapacity capacity required.toNat) r ls) :
      Enumerates (attempts + 1) capacity r (⟨capacity, .error (.noSpace required)⟩ :: ls)

namespace Enumerates

variable {attempts capacity : Nat} {r : Except BpfError (List UInt32)} {ls : List Listing}

theorem length_le (h : Enumerates attempts capacity r ls) : ls.length ≤ attempts := by
  induction h with
  | exhausted => exact Nat.le_refl 0
  | complete | failed => exact Nat.succ_le_succ (Nat.zero_le _)
  | again _ _ ih => exact Nat.succ_le_succ ih

theorem capacity_of_mem_head? (h : Enumerates attempts capacity r ls) :
    ∀ l ∈ ls.head?, l.capacity = capacity := by
  cases h with
  | exhausted => simp
  | complete | failed | again => simp

theorem ne_nil (h : Enumerates (attempts + 1) capacity r ls) : ls ≠ [] := by
  cases h with
  | complete | failed | again => exact List.cons_ne_nil _ _

/-- A listing with its successor. -/
def Grows (l next : Listing) : Prop :=
  l.capacity < next.capacity ∧
    ∃ required, l.reply = .error (.noSpace required) ∧ required.toNat ≤ next.capacity

theorem grows (h : Enumerates attempts capacity r ls) (hpositive : 0 < capacity) :
    ls.IsChain Grows := by
  induction h with
  | exhausted => exact .nil
  | complete | failed => exact .singleton _
  | again required h ih =>
    have hlt := lt_nextCapacity hpositive required.toNat
    refine List.isChain_cons.mpr ⟨fun next hnext => ?_, ih (Nat.lt_trans hpositive hlt)⟩
    rw [Grows, h.capacity_of_mem_head? next hnext]
    exact ⟨hlt, required, rfl, required_le_nextCapacity _ _⟩

/-- Room at most doubles or is what a reply asked for, which has 32 bits. -/
theorem nextCapacity_mul_le (h : Enumerates attempts capacity r ls) (bound : Nat)
    (hcapacity : capacity * 2 ≤ bound) (hword : 2 ^ 32 - 1 ≤ bound) :
    ∀ l ∈ ls, ∀ required : UInt32,
      nextCapacity l.capacity required.toNat * 2 ≤ bound * 2 ^ attempts := by
  have hfirst {capacity bound : Nat} (hcapacity : capacity * 2 ≤ bound) (hword : 2 ^ 32 - 1 ≤ bound)
      (attempts : Nat) (required : UInt32) :
      nextCapacity capacity required.toNat * 2 ≤ bound * 2 ^ (attempts + 1) := by
    have hrequired : required.toNat ≤ bound := by
      have := required.toNat_lt
      omega
    calc nextCapacity capacity required.toNat * 2
      _ ≤ bound * 2 := Nat.mul_le_mul_right 2 (nextCapacity_le hcapacity hrequired)
      _ ≤ bound * 2 ^ (attempts + 1) :=
        Nat.mul_le_mul_left bound (Nat.le_self_pow (Nat.succ_ne_zero attempts) 2)
  induction h generalizing bound with
  | exhausted => exact List.forall_mem_nil _
  | complete attempts | failed attempts =>
    exact List.forall_mem_singleton.mpr (hfirst hcapacity hword attempts)
  | @again attempts capacity _ _ required _ ih =>
    refine List.forall_mem_cons.mpr ⟨hfirst hcapacity hword attempts, ?_⟩
    have hrequired : required.toNat ≤ bound := by
      have := required.toNat_lt
      omega
    have hrest := ih (bound * 2)
      (Nat.mul_le_mul_right 2 (nextCapacity_le hcapacity hrequired)) (by omega)
    rwa [Nat.mul_assoc, ← Nat.pow_succ'] at hrest

end Enumerates

/-! ## Results -/

/-- All listings are refused, or all before the last one, which decides. -/
inductive Decided (attempts : Nat) : Except BpfError (List UInt32) → List Listing → Prop
  | complete {refused : List Listing} (h : ∀ l ∈ refused, l.Refused) (capacity : Nat)
      (reply : QueryReply) :
      Decided attempts (.ok ((reply.buffer capacity).take (min reply.count.toNat capacity)))
        (refused ++ [⟨capacity, .ok reply⟩])
  | failed {refused : List Listing} (h : ∀ l ∈ refused, l.Refused) (capacity : Nat)
      (cause : SystemError) :
      Decided attempts (.error (.queryFailed .query cause))
        (refused ++ [⟨capacity, .error (.system cause)⟩])
  | exhausted {refused : List Listing} (h : ∀ l ∈ refused, l.Refused)
      (hlength : refused.length = attempts) :
      Decided attempts (.error (.queryExhausted queryAttempts)) refused

section
variable {attempts capacity : Nat} {r : Except BpfError (List UInt32)} {ls : List Listing}

theorem Decided.cons {l : Listing} (hl : l.Refused) (h : Decided attempts r ls) :
    Decided (attempts + 1) r (l :: ls) := by
  cases h with
  | complete hrefused capacity reply =>
    exact .complete (List.forall_mem_cons.mpr ⟨hl, hrefused⟩) capacity reply
  | failed hrefused capacity cause =>
    exact .failed (List.forall_mem_cons.mpr ⟨hl, hrefused⟩) capacity cause
  | exhausted hrefused hlength =>
    exact .exhausted (List.forall_mem_cons.mpr ⟨hl, hrefused⟩) (congrArg Nat.succ hlength)

theorem Enumerates.decided (h : Enumerates attempts capacity r ls) : Decided attempts r ls := by
  induction h with
  | exhausted => exact .exhausted (List.forall_mem_nil _) rfl
  | complete attempts capacity reply =>
    rw [reply.idsIn_eq_take_buffer]
    exact .complete (List.forall_mem_nil _) capacity reply
  | failed attempts capacity cause => exact .failed (List.forall_mem_nil _) capacity cause
  | again required _ ih => exact ih.cons ⟨required, rfl⟩

/-- Nothing but as many refusals as there were attempts exhausts an enumeration. -/
theorem Decided.eq_exhausted_iff (h : Decided attempts r ls) :
    r = .error (.queryExhausted queryAttempts) ↔
      ls.length = attempts ∧ ∀ l ∈ ls, l.Refused := by
  cases h with
  | complete hrefused capacity reply =>
    constructor
    · rintro ⟨⟩
    · rintro ⟨-, hall⟩
      obtain ⟨required, hlast⟩ := hall _ List.mem_concat_self
      cases hlast
  | failed hrefused capacity cause =>
    constructor
    · rintro ⟨⟩
    · rintro ⟨-, hall⟩
      obtain ⟨required, hlast⟩ := hall _ List.mem_concat_self
      cases hlast
  | exhausted hrefused hlength => exact ⟨fun _ => ⟨hlength, hrefused⟩, fun _ => rfl⟩

/-! ## Programs that stay the same -/

variable {Cgroup : Type} {v : KernelStore Cgroup} {c : Cgroup}

theorem Enumerates.eq_attached_of_fits (h : Enumerates (attempts + 1) capacity r ls)
    (hlength : (v.attached c).length < 2 ^ 32)
    (hreplies : ∀ l ∈ ls, l.reply = v.queryReply c l.capacity)
    (hfits : (v.attached c).length ≤ capacity) : r = .ok (v.attached c) ∧ ls.length = 1 := by
  have hreply : v.queryReply c capacity
      = .ok ⟨.ofNat (v.attached c).length, v.attached c⟩ := if_neg (Nat.not_lt.mpr hfits)
  cases h with
  | complete _ _ reply =>
    have hok := (hreplies _ List.mem_cons_self).trans hreply
    cases hok
    exact ⟨congrArg Except.ok (QueryReply.idsIn_of_length_le hlength hfits), rfl⟩
  | failed _ _ cause => cases (hreplies _ List.mem_cons_self).trans hreply
  | again required _ => cases (hreplies _ List.mem_cons_self).trans hreply

/-- The second listing has exactly the room that is needed. -/
theorem Enumerates.eq_attached (h : Enumerates (attempts + 2) capacity r ls)
    (hlength : (v.attached c).length < 2 ^ 32)
    (hreplies : ∀ l ∈ ls, l.reply = v.queryReply c l.capacity) :
    r = .ok (v.attached c) ∧ ls.length ≤ 2 := by
  by_cases hfits : (v.attached c).length ≤ capacity
  · obtain ⟨hr, hone⟩ := h.eq_attached_of_fits hlength hreplies hfits
    exact ⟨hr, by omega⟩
  · have hlt := Nat.lt_of_not_le hfits
    have hreply : v.queryReply c capacity = .error (.noSpace (.ofNat (v.attached c).length)) :=
      if_pos hlt
    cases h with
    | complete _ _ reply => cases (hreplies _ List.mem_cons_self).trans hreply
    | failed _ _ cause => cases (hreplies _ List.mem_cons_self).trans hreply
    | again required hrest =>
      have hrequired := (hreplies _ List.mem_cons_self).trans hreply
      cases hrequired
      have hroom : nextCapacity capacity (UInt32.ofNat (v.attached c).length).toNat
          = (v.attached c).length := by
        rw [UInt32.toNat_ofNat_of_lt' hlength]
        exact if_pos hlt
      rw [hroom] at hrest
      obtain ⟨hr, hone⟩ := hrest.eq_attached_of_fits hlength
        (List.forall_mem_cons.mp hreplies).2 (Nat.le_refl _)
      exact ⟨hr, Nat.le_of_eq (congrArg Nat.succ hone)⟩

end

/-! ## Runs -/

section
variable {σ Handle Cgroup : Type} (k : Kernel (StateM σ) Handle Cgroup)

/-- What a reply to a listing with room for `capacity` ids means. -/
def outcomeOf (capacity : Nat) : Except QueryError QueryReply → Except BpfError QueryOutcome
  | .ok reply => .ok (.complete (reply.idsIn capacity))
  | .error (.noSpace attached) => .ok (.insufficient attached.toNat)
  | .error (.system cause) => .error (.queryFailed .query cause)

theorem records_queryOnce_reply (cgroup : Cgroup) (capacity : Nat) :
    Records (k.recorded.queryOnce cgroup capacity) (k.queryOnce cgroup capacity)
      fun r t => ∃ reply, r = outcomeOf capacity reply ∧ t = [.query cgroup capacity reply] := by
  refine (records_recording _ (k.query cgroup capacity)).bind fun reply t ht => ?_
  subst ht
  rcases reply with (attached | cause) | reply
  · exact .pure ⟨_, rfl, rfl⟩
  · exact .pure ⟨_, rfl, rfl⟩
  · exact .pure ⟨_, rfl, rfl⟩

theorem records_idsWithin_listings (cgroup : Cgroup) (attempts capacity : Nat) :
    CountedRecords (k.recorded.idsWithin cgroup attempts capacity)
      (k.idsWithin cgroup attempts capacity)
      fun r t _ => ∃ ls, Enumerates attempts capacity r ls ∧ t = ls.map (·.record cgroup) := by
  induction attempts generalizing capacity with
  | zero => exact .throw ⟨[], .exhausted capacity, rfl⟩
  | succ attempts ih =>
    have hquery : CountedRecords (Counted.ofExcept (k.recorded.queryOnce cgroup capacity))
        (Counted.ofExcept (k.queryOnce cgroup capacity)) fun r t _ =>
          ∃ reply, r = outcomeOf capacity reply ∧ t = [.query cgroup capacity reply] :=
      .ofExcept (k.records_queryOnce_reply cgroup capacity) fun _ _ h => h
    refine hquery.bind ?_ ?_
    · rintro e t _ ⟨(attached | cause) | reply, hr, rfl⟩
      · cases hr
      · cases hr
        exact ⟨_, .failed attempts capacity cause, rfl⟩
      · cases hr
    · rintro outcome t _ ⟨(attached | cause) | reply, hr, rfl⟩
      · cases hr
        refine .count_bind ((ih _).mono ?_)
        rintro r t _ ⟨ls, hls, rfl⟩
        exact ⟨_, .again attached hls, rfl⟩
      · cases hr
      · cases hr
        exact .pure ⟨_, .complete attempts capacity reply, rfl⟩

/-- What holds of an enumeration, whatever the replies were. The room never comes near 64 bits, not
even what would have been asked for after the last reply. -/
structure Protocol (r : Except BpfError (List UInt32)) (ls : List Listing) : Prop where
  length_le : ls.length ≤ 10
  first : ls.head?.map (·.capacity) = some 64
  grows : ls.IsChain Enumerates.Grows
  capacity_le : ∀ l ∈ ls, l.capacity ≤ (2 ^ 32 - 1) * 2 ^ 9
  next_le : ∀ l ∈ ls, ∀ required : UInt32,
    nextCapacity l.capacity required.toNat ≤ (2 ^ 32 - 1) * 2 ^ 9
  next_lt : ∀ l ∈ ls, ∀ required : UInt32, nextCapacity l.capacity required.toNat < 2 ^ 64
  decided : Decided 10 r ls
  exhausted_iff : r = .error (.queryExhausted 10) ↔ ls.length = 10 ∧ ∀ l ∈ ls, l.Refused

theorem Enumerates.protocol {r : Except BpfError (List UInt32)} {ls : List Listing}
    (h : Enumerates queryAttempts firstCapacity r ls) : Protocol r ls := by
  have hnext : ∀ l ∈ ls, ∀ required : UInt32,
      nextCapacity l.capacity required.toNat ≤ (2 ^ 32 - 1) * 2 ^ 9 := by
    intro l hl required
    have hdouble := h.nextCapacity_mul_le (2 ^ 32 - 1) (by decide) (Nat.le_refl _) l hl
      required
    have hpower : (2 ^ 32 - 1) * 2 ^ queryAttempts = (2 ^ 32 - 1) * 2 ^ 9 * 2 := rfl
    omega
  constructor
  · exact h.length_le
  · cases ls with
    | nil => exact absurd rfl h.ne_nil
    | cons l ls => exact congrArg some (h.capacity_of_mem_head? l rfl)
  · exact h.grows (by decide)
  · intro l hl
    have hgrown := hnext l hl 0
    have hdouble : nextCapacity l.capacity (0 : UInt32).toNat = l.capacity * 2 := rfl
    omega
  · exact hnext
  · intro l hl required
    exact Nat.lt_of_le_of_lt (hnext l hl required) (by decide)
  · exact h.decided
  · exact h.decided.eq_exhausted_iff

/-- Whatever the kernel replies, an enumeration follows the protocol; and when the replies are those
of a cgroup whose programs stay the same, it finds these programs at the second listing at the
latest. -/
theorem attachedIds_protocol (cgroup : Cgroup) (μ : Metrics) (s : σ) :
    ∃ r μ' s' ls, (k.attachedIds cgroup).exec μ s = (r, μ', s') ∧
      (k.recorded.attachedIds cgroup).exec μ ([], s)
        = (r, μ', ls.map (·.record cgroup), s') ∧
      Protocol r ls ∧
      ∀ v : KernelStore Cgroup, (v.attached cgroup).length < 2 ^ 32 →
        (∀ l ∈ ls, l.reply = v.queryReply cgroup l.capacity) →
          r = .ok (v.attached cgroup) ∧ ls.length ≤ 2 := by
  obtain ⟨t, _, hrun, -, ls, hls, rfl⟩ :=
    k.records_idsWithin_listings cgroup queryAttempts firstCapacity μ [] s _ _ _ rfl
  refine ⟨_, _, _, ls, rfl, hrun, hls.protocol, fun v hlength hreplies => ?_⟩
  exact hls.eq_attached hlength hreplies

end

theorem record_injective {Handle Cgroup : Type} (cgroup : Cgroup) :
    Function.Injective (Listing.record cgroup : Listing → KernelRecord Handle Cgroup) := by
  rintro ⟨capacity, reply⟩ ⟨capacity', reply'⟩ h
  cases h
  rfl

open Simulation

/-- A cgroup with more programs than the first listing has room for. -/
def crowdedState : KernelState :=
  ({} : KernelState).setAttached "/box" ((List.range 66).map UInt32.ofNat)

/-- The second listing has the room that the first reply asked for. -/
theorem attachedIds_protocol_crowded : ∃ r μ' s' ls,
    (SimulatedKernel.kernel.attachedIds "/box").exec .empty crowdedState = (r, μ', s') ∧
      r = .ok (crowdedState.attachedTo "/box") ∧ ls.map Listing.capacity = [64, 66] ∧
      Protocol r ls := by
  obtain ⟨r, μ', s', ls, hrun, hrecorded, hprotocol, hsettled⟩ :=
    SimulatedKernel.kernel.attachedIds_protocol "/box" .empty crowdedState
  have hlistings : ls = [⟨64, .error (.noSpace 66)⟩,
      ⟨66, .ok ⟨66, crowdedState.attachedTo "/box"⟩⟩] :=
    List.map_injective_iff.mpr (record_injective "/box")
      (congrArg (fun e => e.2.2.1) hrecorded).symm
  have hreplies : ∀ l ∈ ls, l.reply = crowdedState.store.queryReply "/box" l.capacity := by
    rw [hlistings]
    exact List.forall_mem_cons.mpr ⟨rfl, List.forall_mem_singleton.mpr rfl⟩
  refine ⟨r, μ', s', ls, hrun, (hsettled _ (by decide) hreplies).1, ?_, hprotocol⟩
  rw [hlistings]
  rfl

end Kernel

end DeviceFilter

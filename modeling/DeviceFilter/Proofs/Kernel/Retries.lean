import DeviceFilter.Proofs.Kernel.Enumeration
import DeviceFilter.Proofs.Kernel.Tally

/-!
How often an enumeration is counted as repeated. Every refused listing is counted, and every one of
them is followed by another listing, except the last one of an enumeration that gives up.
-/
set_option autoImplicit false

namespace DeviceFilter.Kernel

section
variable {Handle Cgroup : Type} (cgroup : Cgroup)

theorem counter?_of_refused {l : Listing} (h : l.Refused) :
    (l.record cgroup : KernelRecord Handle Cgroup).counter? = some .retries := by
  obtain ⟨capacity, reply⟩ := l
  obtain ⟨required, rfl⟩ := h
  rfl

theorem counter?_of_not_refused {l : Listing} (h : ¬ l.Refused) :
    (l.record cgroup : KernelRecord Handle Cgroup).counter? = none := by
  obtain ⟨capacity, (required | cause) | reply⟩ := l
  · exact absurd ⟨required, rfl⟩ h
  · rfl
  · rfl

theorem tally_refused {refused : List Listing} (h : ∀ l ∈ refused, l.Refused) :
    Trace.tally (refused.map (·.record cgroup) : Trace Handle Cgroup) .retries
      = refused.length := by
  rw [Trace.tally, List.countP_map]
  refine List.countP_eq_length.mpr fun l hl => ?_
  simp [counter?_of_refused cgroup (h l hl)]

variable {attempts : Nat} {r : Except BpfError (List UInt32)} {ls : List Listing}

/-- The listing that decides is not counted. -/
theorem Decided.tally_retries (h : Decided attempts r ls) :
    Trace.tally (ls.map (·.record cgroup) : Trace Handle Cgroup) .retries
      = if r = .error (.queryExhausted queryAttempts) then ls.length else ls.length - 1 := by
  have hlast {refused : List Listing} {l : Listing} (hrefused : ∀ l ∈ refused, l.Refused)
      (hl : ¬ l.Refused) :
      Trace.tally ((refused ++ [l]).map (·.record cgroup) : Trace Handle Cgroup) .retries
        = (refused ++ [l]).length - 1 := by
    have hdeciding : Trace.tally [(l.record cgroup : KernelRecord Handle Cgroup)] = 0 :=
      Trace.tally_singleton_of_none (counter?_of_not_refused cgroup hl)
    rw [List.map_append, Trace.tally_append, Pi.add_apply, tally_refused cgroup hrefused,
      List.map_singleton, hdeciding, List.length_append]
    rfl
  cases h with
  | complete hrefused capacity reply =>
    rw [if_neg nofun]
    exact hlast hrefused nofun
  | failed hrefused capacity cause =>
    rw [if_neg nofun]
    exact hlast hrefused nofun
  | exhausted hrefused hlength =>
    rw [if_pos rfl]
    exact tally_refused cgroup hrefused

end

section
variable {σ Handle Cgroup : Type} (k : Kernel (StateM σ) Handle Cgroup)

theorem tallies_idsWithin (cgroup : Cgroup) (attempts capacity : Nat) :
    Tallies 0 (k.recorded.idsWithin cgroup attempts capacity)
      (k.idsWithin cgroup attempts capacity) := by
  induction attempts generalizing capacity with
  | zero => exact .throw
  | succ attempts ih =>
    have hquery : CountedRecords (Counted.ofExcept (k.recorded.queryOnce cgroup capacity))
        (Counted.ofExcept (k.queryOnce cgroup capacity)) fun r t moved =>
          (∃ reply, r = outcomeOf capacity reply ∧ t = [.query cgroup capacity reply]) ∧
            moved = 0 :=
      .ofExcept (k.records_queryOnce_reply cgroup capacity) fun _ _ h => ⟨h, rfl⟩
    refine .bind_due hquery ?_ ?_
    · rintro e t ⟨(required | cause) | reply, hr, rfl⟩
      · cases hr
      · exact Trace.tally_singleton_of_none rfl
      · cases hr
    · rintro outcome t ⟨(required | cause) | reply, hr, rfl⟩
      · cases hr
        rw [Trace.tally_singleton_of_some rfl]
        exact .count_bind (ih _)
      · cases hr
      · cases hr
        rw [Trace.tally_singleton_of_none rfl]
        exact .pure

/-- An enumeration by its listings, with its counters. -/
theorem records_attachedIds (cgroup : Cgroup) :
    CountedRecords (k.recorded.attachedIds cgroup) (k.attachedIds cgroup) fun r t moved =>
      (∃ ls, Enumerates queryAttempts firstCapacity r ls ∧ t = ls.map (·.record cgroup)) ∧
        moved = t.tally := by
  refine ((k.records_idsWithin_listings cgroup _ _).and (k.tallies_idsWithin cgroup _ _)).mono ?_
  rintro r t moved ⟨hlistings, hmoved⟩
  exact ⟨hlistings, hmoved.trans (zero_add _)⟩

/-- An enumeration counts one less than its listings, which is how often it was repeated, except
that one which gives up counts every listing. -/
theorem attachedIds_retries (cgroup : Cgroup) (μ : Metrics) (s : σ) :
    ∃ r μ' s' ls, (k.attachedIds cgroup).exec μ s = (r, μ', s') ∧
      (k.recorded.attachedIds cgroup).exec μ ([], s)
        = (r, μ', ls.map (·.record cgroup), s') ∧
      Protocol r ls ∧
      μ'.count .retries = μ.count .retries +
        if r = .error (.queryExhausted 10) then ls.length else ls.length - 1 := by
  obtain ⟨r, μ', s', hids⟩ : ∃ r μ' s', (k.attachedIds cgroup).exec μ s = (r, μ', s') :=
    ⟨_, _, _, rfl⟩
  obtain ⟨t, moved, hrun, hmoved, ⟨ls, hls, rfl⟩, rfl⟩ :=
    k.records_attachedIds cgroup μ [] s r μ' s' hids
  refine ⟨r, μ', s', ls, hids, hrun, hls.protocol, ?_⟩
  rw [hmoved]
  exact congrArg _ (hls.decided.tally_retries cgroup)

end

open Simulation

/-- Another program is attached before every listing. -/
def growingState : KernelState where
  plannedReplies := (List.range 10).map fun n => .error (.noSpace (.ofNat (65 + n)))

def growingListings : List Listing :=
  (List.range 10).map fun n => ⟨64 + n, .error (.noSpace (.ofNat (65 + n)))⟩

/-- Ten listings are nine repetitions, but ten are counted. -/
theorem attachedIds_retries_exhausted : ∃ μ' s',
    (SimulatedKernel.kernel.recorded.attachedIds "/box").exec .empty ([], growingState)
        = (.error (.queryExhausted 10), μ', growingListings.map (·.record "/box"), s') ∧
      growingListings.length = 10 ∧ μ'.count .retries = 10 ∧
      μ'.count .retries ≠ growingListings.length - 1 := by
  have hresult : ((SimulatedKernel.kernel.recorded.attachedIds "/box").exec .empty
      ([], growingState)).1 = .error (.queryExhausted 10) := by decide +kernel
  have hcalls : ((SimulatedKernel.kernel.recorded.attachedIds "/box").exec .empty
      ([], growingState)).2.2.1 = growingListings.map (·.record "/box") := by rfl
  have hcount : ((SimulatedKernel.kernel.recorded.attachedIds "/box").exec .empty
      ([], growingState)).2.1.count .retries = 10 := by decide +kernel
  refine ⟨_, _, Prod.ext hresult (Prod.ext rfl (Prod.ext hcalls rfl)), rfl, hcount, ?_⟩
  intro hless
  exact absurd (hcount.symm.trans hless) (by decide)

end DeviceFilter.Kernel

import DeviceFilter.Proofs.Machine.Control

/-!
The records that a run carries out. A run that keeps its trail has the result of the run and, in
order, the positions at which it found a record. Where no branch goes backwards, each step goes on
behind all that it has read, so the trail ascends, and the run ends before its steps are used up.
-/
set_option autoImplicit false

namespace DeviceFilter

namespace Instruction

/-- How many records an instruction takes up. -/
def span (i : Instruction) : Nat := if i.isWideLoad then 2 else 1

theorem span_pos (i : Instruction) : 0 < i.span := by
  unfold span
  split
  · exact Nat.two_pos
  · exact Nat.one_pos

theorem span_le_two (i : Instruction) : i.span ≤ 2 := by
  unfold span
  split
  · exact Nat.le_refl 2
  · exact (Nat.le_succ 1)

theorem span_of_control_ne {i : Instruction} (h : i.control ≠ .wide) : i.span = 1 := by
  unfold span
  apply if_neg
  intro hwide
  exact h (control_of_isWideLoad hwide)

end Instruction

theorem Program.add_span_le_of_mem_successors {position : Nat} {i : Instruction} {n : Int}
    (hforward : i.isJump = true → 0 ≤ i.offset.toInt) (hn : n ∈ successors position i) :
    ((position + i.span : Nat) : Int) ≤ n := by
  have htarget (hjump : i.isJump = true) : (position : Int) + 1 ≤ branchTarget position i := by
    have hoffset := hforward hjump
    rw [branchTarget]
    omega
  have hspan (hne : i.control ≠ .wide) : i.span = 1 := Instruction.span_of_control_ne hne
  unfold successors at hn
  cases hcontrol : i.control with
  | stop => simp [hcontrol] at hn
  | goto =>
    have hlow := htarget (i.isJump_iff_control.mpr (.inl hcontrol))
    have hone := hspan (by simp [hcontrol])
    simp only [hcontrol, List.mem_singleton] at hn
    omega
  | branch =>
    have hlow := htarget (i.isJump_iff_control.mpr (.inr hcontrol))
    have hone := hspan (by simp [hcontrol])
    simp only [hcontrol, List.mem_cons, List.not_mem_nil, or_false] at hn
    omega
  | wide =>
    have htwo := i.span_le_two
    simp only [hcontrol, List.mem_singleton] at hn
    omega
  | next =>
    have hone := hspan (by simp [hcontrol])
    simp only [hcontrol, List.mem_singleton] at hn
    omega

namespace Machine

section
variable (order : ByteOrder) (context : List UInt8) (code : Array Instruction)

/-- At most `fuel` steps from `s`, with the positions at which they found a record. -/
def traced : Nat → State → List Nat × Except Fault UInt64
  | 0, _ => ([], .error .stepLimit)
  | fuel + 1, s =>
    let here := if s.position < code.size then [s.position] else []
    match step order context code s with
    | .next s' => (here ++ (traced fuel s').1, (traced fuel s').2)
    | .answer value => (here, .ok value)
    | .fault f => (here, .error f)

end

variable {order : ByteOrder} {context : List UInt8} {code : Array Instruction}
variable {s s' : State} {fuel : Nat}

theorem traced_snd (fuel : Nat) (s : State) :
    (traced order context code fuel s).2 = runFrom order context code fuel s := by
  induction fuel generalizing s with
  | zero => rfl
  | succ fuel ih =>
    rw [traced, runFrom]
    cases step order context code s with
    | next s' => exact ih s'
    | answer value => rfl
    | fault f => rfl

theorem mem_traced_succ {n : Nat} (hn : n ∈ (traced order context code (fuel + 1) s).1) :
    n = s.position ∧ s.position < code.size ∨
      ∃ s', step order context code s = .next s' ∧ n ∈ (traced order context code fuel s').1 := by
  have hhere (h : n ∈ if s.position < code.size then [s.position] else []) :
      n = s.position ∧ s.position < code.size := by
    split at h
    · exact ⟨List.mem_singleton.mp h, ‹_›⟩
    · cases h
  rw [traced] at hn
  cases hstep : step order context code s with
  | next s' =>
    simp only [hstep, List.mem_append] at hn
    rcases hn with hn | hn
    · exact .inl (hhere hn)
    · exact .inr ⟨s', rfl, hn⟩
  | answer value =>
    simp only [hstep] at hn
    exact .inl (hhere hn)
  | fault f =>
    simp only [hstep] at hn
    exact .inl (hhere hn)

theorem lt_size_of_mem_traced {n : Nat} (hn : n ∈ (traced order context code fuel s).1) :
    n < code.size := by
  induction fuel generalizing s with
  | zero => cases hn
  | succ fuel ih =>
    rcases mem_traced_succ hn with ⟨rfl, hlt⟩ | ⟨s', -, hn⟩
    · exact hlt
    · exact ih hn

/-! ## Steps go on behind what they have read -/

/-- What is at `m` comes behind all records of the instruction at `n`. -/
def Behind (code : Array Instruction) (n m : Nat) : Prop :=
  ∃ i, code[n]? = some i ∧ n + i.span ≤ m

theorem Behind.lt {n m : Nat} (h : Behind code n m) : n < m := by
  obtain ⟨i, -, hle⟩ := h
  have hpos := i.span_pos
  omega

theorem Behind.trans_le {n m k : Nat} (h : Behind code n m) (hk : m ≤ k) : Behind code n k := by
  obtain ⟨i, hi, hle⟩ := h
  exact ⟨i, hi, Nat.le_trans hle hk⟩

/-- In an ascending list what is greater comes later. -/
theorem behind_of_mem {ns : List Nat} (h : ns.Pairwise (Behind code)) {n m : Nat} (hn : n ∈ ns)
    (hm : m ∈ ns) (hlt : n < m) : Behind code n m := by
  induction h with
  | nil => cases hn
  | @cons k ns hk _ ih =>
    rcases List.mem_cons.mp hn with rfl | hn'
    · rcases List.mem_cons.mp hm with rfl | hm'
      · omega
      · exact hk m hm'
    · rcases List.mem_cons.mp hm with rfl | hm'
      · have hback := (hk n hn').lt
        omega
      · exact ih hn' hm'

variable (hf : Program.Forward code.toList)
include hf

theorem step_behind (h : step order context code s = .next s') :
    Behind code s.position s'.position := by
  obtain ⟨i, hi, -⟩ := step_moves h
  have hfollows := step_follows order context hi
  rw [h] at hfollows
  have hmem : i ∈ code.toList := Array.mem_toList_iff.mpr (Array.mem_of_getElem? hi)
  have hpast := Program.add_span_le_of_mem_successors (hf i hmem) hfollows
  exact ⟨i, hi, by omega⟩

theorem le_of_mem_traced {n : Nat} (hn : n ∈ (traced order context code fuel s).1) :
    s.position ≤ n := by
  induction fuel generalizing s with
  | zero => cases hn
  | succ fuel ih =>
    rcases mem_traced_succ hn with ⟨rfl, -⟩ | ⟨s', hstep, hn⟩
    · exact Nat.le_refl _
    · have hlt := (step_behind hf hstep).lt
      exact Nat.le_trans (Nat.le_of_lt hlt) (ih hn)

theorem traced_pairwise_behind (fuel : Nat) (s : State) :
    (traced order context code fuel s).1.Pairwise (Behind code) := by
  have hhere (s : State) :
      (if s.position < code.size then [s.position] else []).Pairwise (Behind code) := by
    split
    · exact List.pairwise_singleton _ _
    · exact .nil
  induction fuel generalizing s with
  | zero => exact .nil
  | succ fuel ih =>
    rw [traced]
    cases hstep : step order context code s with
    | next s' =>
      refine List.pairwise_append.mpr ⟨hhere s, ih s', ?_⟩
      intro n hn m hm
      have hle := le_of_mem_traced hf hm
      split at hn
      · obtain rfl := List.mem_singleton.mp hn
        exact (step_behind hf hstep).trans_le hle
      · cases hn
    | answer value => exact hhere s
    | fault f => exact hhere s

/-! ## Runs end by themselves -/

omit hf in
theorem step_ne_stepLimit : step order context code s ≠ .fault .stepLimit := by
  intro h
  cases hi : code[s.position]? with
  | none =>
    rw [step_of_none hi] at h
    cases h
  | some i =>
    have hdoes : Does code s i (step order context code s) := step_does hi
    rw [h] at hdoes
    cases hdoes

theorem runFrom_ne_stepLimit (hpos : 0 < fuel) (hfuel : code.size < fuel + s.position) :
    runFrom order context code fuel s ≠ .error .stepLimit := by
  have hends : Ends order context code s (runFrom order context code fuel s) :=
    ends_runFrom hf hpos hfuel
  generalize runFrom order context code fuel s = r at hends
  clear hpos hfuel
  induction hends with
  | answer => simp
  | fault h =>
    rintro ⟨rfl⟩
    exact step_ne_stepLimit h
  | next _ _ ih => exact ih

end Machine

namespace Program

open Machine

/-- The run of a program on an event, with the positions of the records that it carries out. -/
def tracedOn (order : ByteOrder) (p : Program) (e : Event) : List Nat × Except Fault UInt64 :=
  traced order (e.context order) p.toArray stepLimit initial

/-- A short program without backward branches carries out each record at most once and upwards, the
second record of a wide load not on its own, and ends by itself. -/
theorem tracedOn_ascends {p : Program}
    (hforward : ∀ i ∈ p, i.isJump = true → 0 ≤ i.offset.toInt) (hshort : p.length < stepLimit)
    (order : ByteOrder) (e : Event) :
    (p.tracedOn order e).2 = p.runOn order e ∧
      p.runOn order e ≠ .error .stepLimit ∧
      (∀ n ∈ (p.tracedOn order e).1, n < p.length) ∧
      (p.tracedOn order e).1.Pairwise (· < ·) ∧
      ∀ n ∈ (p.tracedOn order e).1, ∀ i, p[n]? = some i → i.isWideLoad = true →
        n + 1 ∉ (p.tracedOn order e).1 := by
  have hpairwise : (p.tracedOn order e).1.Pairwise (Behind p.toArray) :=
    traced_pairwise_behind hforward stepLimit initial
  refine ⟨traced_snd stepLimit initial, ?_, ?_, ?_, ?_⟩
  · apply runFrom_ne_stepLimit hforward (by decide)
    rw [List.size_toArray]
    exact Nat.lt_add_right _ hshort
  · intro n hn
    have hlt := lt_size_of_mem_traced hn
    rwa [List.size_toArray] at hlt
  · apply hpairwise.imp
    intro n m h
    exact h.lt
  · intro n hn i hi hwide hnext
    obtain ⟨j, hj, hle⟩ := behind_of_mem hpairwise hn hnext (Nat.lt_add_one n)
    rw [List.getElem?_toArray, hi] at hj
    obtain rfl := Option.some.inj hj
    have hspan : i.span = 2 := if_pos hwide
    omega

/-- A branch over a return, to a wide load. -/
def skipping : Program :=
  [.jumpAlways 1, .exit, ⟨0x18, 0, 0, 0, 7⟩, ⟨0, 0, 0, 0, 1⟩, .exit]

theorem tracedOn_ascends_skipping :
    (∀ i ∈ skipping, i.isJump = true → 0 ≤ i.offset.toInt) ∧ skipping.length < stepLimit ∧
      skipping.tracedOn .native ⟨.block, .read, 8, 0⟩ = ([0, 2, 4], .ok 4294967303) ∧
      skipping.run ⟨.block, .read, 8, 0⟩ = .ok 4294967303 ∧ [0, 2, 4].Pairwise (· < ·) ∧
      skipping[2]? = some ⟨0x18, 0, 0, 0, 7⟩ ∧ 2 + 1 ∉ [0, 2, 4] := by
  have hforward : ∀ i ∈ skipping, i.isJump = true → 0 ≤ i.offset.toInt := by decide
  have hshort : skipping.length < stepLimit := by decide
  have htraced : skipping.tracedOn .native ⟨.block, .read, 8, 0⟩ = ([0, 2, 4], .ok 4294967303) := by
    rfl
  obtain ⟨hrun, -, -, hascends, hwide⟩ :=
    tracedOn_ascends hforward hshort .native ⟨.block, .read, 8, 0⟩
  rw [htraced] at hrun hascends hwide
  exact ⟨hforward, hshort, htraced, hrun.symm, hascends, rfl, hwide 2 (by decide) _ rfl rfl⟩

end Program

end DeviceFilter

import DeviceFilter.Proofs.Machine.Strict

/-!
Loads from the event. Register and offset add up to an address of 64 bits, round the end of the
number range if need be, so the test of addresses must hold for every address there is. It lets
through what lies within the event; of that, eight bytes are more than the machine reads.
-/
set_option autoImplicit false

namespace DeviceFilter

namespace Machine

/-- The `width` bytes from `address` on lie within the event. -/
def Readable (address : UInt64) (width : Nat) : Prop :=
  contextBase.toNat ≤ address.toNat ∧ address.toNat + width ≤ contextBase.toNat + contextSize

theorem readable_iff {address : UInt64} {width : Nat} :
    Readable address width ↔
      ¬ (address < contextBase ∨ contextSize < (address - contextBase).toNat + width) := by
  unfold Readable
  by_cases hbelow : address < contextBase
  · have hlt := UInt64.lt_iff_toNat_lt.mp hbelow
    constructor
    · intro h
      exact absurd hlt (Nat.not_lt.mpr h.1)
    · intro h
      exact absurd (.inl hbelow) h
  · have hle : contextBase ≤ address := UInt64.not_lt.mp hbelow
    have hle' := UInt64.le_iff_toNat_le.mp hle
    rw [UInt64.toNat_sub_of_le _ _ hle]
    constructor
    · rintro ⟨-, hend⟩ (hlt | hlt)
      · exact hbelow hlt
      · omega
    · intro h
      have hend : ¬ contextSize < address.toNat - contextBase.toNat + width := by
        intro hlt
        exact h (.inr hlt)
      omega

/-- The address of a load, from the register that it names. -/
def loadAddress (s : State) (i : Instruction) (src : Fin registerCount) : UInt64 :=
  s.registers.get src + i.offset.toInt64.toUInt64

theorem toNat_toUInt64 (x : Int64) : (x.toUInt64.toNat : Int) = x.toInt % 18446744073709551616 := by
  have hbits := BitVec.toInt_eq_toNat_cond x.toBitVec
  have hlt := x.toBitVec.isLt
  change (x.toBitVec.toNat : Int) = x.toBitVec.toInt % 18446744073709551616
  rw [hbits]
  split <;> omega

theorem toNat_loadAddress (s : State) (i : Instruction) (src : Fin registerCount) :
    ((loadAddress s i src).toNat : Int)
      = ((s.registers.get src).toNat + i.offset.toInt) % 18446744073709551616 := by
  have hoffset := toNat_toUInt64 i.offset.toInt64
  rw [Int16.toInt_toInt64] at hoffset
  rw [loadAddress, UInt64.toNat_add]
  omega

/-- The number that a load reads. -/
def loaded (order : ByteOrder) (context : List UInt8) (address : UInt64) (width : Nat) : UInt64 :=
  UInt64.ofNat (order.value ((context.drop (address.toNat - contextBase.toNat)).take width))

theorem width_eq_eight {size : AccessSize} : size.width = 8 ↔ size = .double := by
  cases size <;> decide

theorem width_cases (size : AccessSize) :
    size.width = 1 ∨ size.width = 2 ∨ size.width = 4 ∨ size.width = 8 := by
  cases size <;> decide

section
variable {order : ByteOrder} {context : List UInt8} {s : State} {i : Instruction}
variable {dst src : Fin registerCount}

theorem stepLoad_of_not_readable (h : ¬ Readable (loadAddress s i src) i.size.width) :
    stepLoad s i dst src order context
      = .fault (.badAccess s.position (loadAddress s i src)) := by
  rw [readable_iff, not_not] at h
  exact if_pos h

theorem stepLoad_of_readable (h : Readable (loadAddress s i src) i.size.width) :
    stepLoad s i dst src order context =
      if i.size.width = 8 then .fault (.unsupported s.position i.code)
      else .next (s.write dst (loaded order context (loadAddress s i src) i.size.width) 1) := by
  have hbase : contextBase ≤ loadAddress s i src := UInt64.le_iff_toNat_le.mpr h.1
  have hplace := UInt64.toNat_sub_of_le _ _ hbase
  rw [readable_iff] at h
  have hinside : stepLoad s i dst src order context =
      if i.size = .double then .fault (.unsupported s.position i.code)
      else .next (s.write dst (UInt64.ofNat (order.value
        ((context.drop (loadAddress s i src - contextBase).toNat).take i.size.width))) 1) :=
    if_neg h
  simp only [hinside, hplace, width_eq_eight, loaded]

end

/-- The load `i` into the register `dst` reads at `address`, within the event or not at all. -/
structure LoadsAt (order : ByteOrder) (context : List UInt8) (code : Array Instruction) (s : State)
    (i : Instruction) (dst : Fin registerCount) (address : UInt64) : Prop where
  inside : ∀ s', step order context code s = .next s' →
    Readable address i.size.width ∧ i.size.width ∈ [1, 2, 4]
  value : Readable address i.size.width → i.size.width ∈ [1, 2, 4] →
    step order context code s
      = .next (s.write dst (loaded order context address i.size.width) 1)
  outside : ¬ Readable address i.size.width →
    step order context code s = .fault (.badAccess s.position address)
  tooWide : Readable address i.size.width → i.size.width = 8 →
    step order context code s = .fault (.unsupported s.position i.code)

theorem loadsAt_loadAddress {order : ByteOrder} {context : List UInt8} {code : Array Instruction}
    {s : State} {i : Instruction} {dst src : Fin registerCount} (hi : code[s.position]? = some i)
    (hclass : i.opClass = .loadContext) (hmode : i.modeBits = Instruction.memoryMode)
    (hd : register? i.dst = some dst) (hr : register? i.src = some src) :
    LoadsAt order context code s i dst (loadAddress s i src) := by
  have hstep : step order context code s = stepLoad s i dst src order context := by
    simp only [step, hi, hd, hr, hclass, hmode, if_true]
  constructor
  · intro s' hnext
    rw [hstep] at hnext
    by_cases hread : Readable (loadAddress s i src) i.size.width
    · refine ⟨hread, ?_⟩
      rw [stepLoad_of_readable hread] at hnext
      have height : i.size.width ≠ 8 := by
        intro hwidth
        rw [if_pos hwidth] at hnext
        cases hnext
      rcases width_cases i.size with hwidth | hwidth | hwidth | hwidth
      · simp [hwidth]
      · simp [hwidth]
      · simp [hwidth]
      · exact absurd hwidth height
    · rw [stepLoad_of_not_readable hread] at hnext
      cases hnext
  · intro hread hwidth
    have height : i.size.width ≠ 8 := by
      intro heq
      rw [heq] at hwidth
      exact absurd hwidth (by decide)
    rw [hstep, stepLoad_of_readable hread, if_neg height]
  · intro hread
    rw [hstep, stepLoad_of_not_readable hread]
  · intro hread hwidth
    rw [hstep, stepLoad_of_readable hread, if_pos hwidth]

/-- No program and no event stop the machine, and a load reads within the event or is a fault. -/
theorem strict_run_and_loads (order : ByteOrder) (p : Program) (e : Event) :
    Strict.run order p e = some (p.runOn order e) ∧
      ∀ (s : State) (i : Instruction) (dst src : Fin registerCount), p[s.position]? = some i →
        i.opClass = .loadContext → i.modeBits = Instruction.memoryMode →
        register? i.dst = some dst → register? i.src = some src →
        ∃ address : UInt64,
          (address.toNat : Int)
            = ((s.registers.get src).toNat + i.offset.toInt) % 18446744073709551616 ∧
          LoadsAt order (e.context order) p.toArray s i dst address := by
  constructor
  · exact Strict.run_eq order p e
  · intro s i dst src hi hclass hmode hd hr
    have hcode : p.toArray[s.position]? = some i := by rwa [List.getElem?_toArray]
    exact ⟨loadAddress s i src, toNat_loadAddress s i src,
      loadsAt_loadAddress hcode hclass hmode hd hr⟩

/-- A byte in front of address zero: register 3 holds zero, and the address comes round. -/
def aroundZero : Program := [.loadFrom .byte 2 3 (-1), .exit]

theorem strict_run_and_loads_aroundZero :
    Strict.run .big aroundZero ⟨.block, ⟨0⟩, 8, 0⟩
        = some (.error (.badAccess 0 18446744073709551615)) ∧
      ∃ address : UInt64, (address.toNat : Int) = (0 + -1) % 18446744073709551616 ∧
        LoadsAt .big (Event.context .big ⟨.block, ⟨0⟩, 8, 0⟩) aroundZero.toArray initial
          (.loadFrom .byte 2 3 (-1)) ⟨2, by decide⟩ address := by
  obtain ⟨hrun, hloads⟩ := strict_run_and_loads .big aroundZero ⟨.block, ⟨0⟩, 8, 0⟩
  have hfault : aroundZero.runOn .big ⟨.block, ⟨0⟩, 8, 0⟩
      = .error (.badAccess 0 18446744073709551615) := by decide
  rw [hfault] at hrun
  exact ⟨hrun, hloads initial (.loadFrom .byte 2 3 (-1)) ⟨2, by decide⟩ ⟨3, by decide⟩ rfl
    (by decide) (by decide) (by decide) (by decide)⟩

end Machine

end DeviceFilter

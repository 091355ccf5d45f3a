import DeviceFilter.Proofs.Machine.Run
import Mathlib.Data.UInt

/-!
Single steps of the instructions that compiled programs are built from. Registers mostly hold
32-bit words; on these the machine computes as on words, and a comparison with an immediate operand
is one of words if it is made in 32 bits or the operand has no sign to extend.
-/
set_option autoImplicit false

namespace DeviceFilter.Machine

instance : NeZero registerCount := ⟨by decide⟩

/-! ## Words in registers -/

@[simp] theorem low32_toUInt64 (c : UInt32) : low32 c.toUInt64 = c.toUInt64 := by
  simp [low32]

@[simp] theorem unsigned_toInt32 (v : UInt32) : unsigned v.toInt32 = v.toUInt64 := by
  simp [unsigned]

theorem ofNat_toNat_word (v : UInt32) : UInt64.ofNat v.toNat = v.toUInt64 := by
  apply UInt64.toNat_inj.mp
  have hv := v.toNat_lt
  rw [UInt64.toNat_ofNat', UInt32.toNat_toUInt64]
  omega

theorem low32_and (a b : UInt32) : low32 (a.toUInt64 &&& b.toUInt64) = (a &&& b).toUInt64 := by
  rw [← UInt32.toUInt64_and, low32_toUInt64]

theorem toNat_extended (v : UInt32) :
    (extended v.toInt32).toNat
      = v.toNat + if 2147483648 ≤ v.toNat then 18446744069414584320 else 0 := by
  have h := BitVec.toNat_signExtend v.toBitVec (v := 64)
  have hv : v.toBitVec.toNat = v.toNat := rfl
  have hlt := v.toNat_lt
  have hmsb : v.toBitVec.msb = decide (2147483648 ≤ v.toNat) := by
    rw [BitVec.msb_eq_decide]
    rfl
  rw [BitVec.toNat_setWidth_of_le (by omega), hmsb, hv] at h
  refine Eq.trans ?_ (h.trans ?_)
  · rfl
  · by_cases hs : 2147483648 ≤ v.toNat <;> simp [hs]

theorem extended_toInt32 {v : UInt32} (h : v.toNat < 2147483648) :
    extended v.toInt32 = v.toUInt64 := by
  apply UInt64.toNat_inj.mp
  rw [toNat_extended, if_neg (by omega)]
  simp

theorem low32_extended (v : UInt32) : low32 (extended v.toInt32) = v.toUInt64 := by
  apply UInt64.toNat_inj.mp
  have hlt := v.toNat_lt
  simp only [low32, UInt32.toNat_toUInt64, UInt64.toNat_toUInt32, toNat_extended]
  split <;> omega

theorem compares_ne_words (c v : UInt32) :
    compares .ne c.toUInt64 v.toUInt64 true = some (decide (c ≠ v)) := by
  have h : c.toUInt64 = v.toUInt64 ↔ c = v := UInt32.toUInt64_inj
  by_cases hcv : c = v <;> simp [compares, bne, h, hcv]

/-- In 64 bits the operand must not have its sign bit set. -/
theorem compares_ne_wide {v : UInt32} (h : v.toNat < 2147483648) (c : UInt32) :
    compares .ne c.toUInt64 (extended v.toInt32) true = some (decide (c ≠ v)) := by
  rw [extended_toInt32 h, compares_ne_words]

theorem compares_ne_narrow (c v : UInt32) :
    compares .ne c.toUInt64 (extended v.toInt32) false = some (decide (c ≠ v)) := by
  have h := compares_ne_words c v
  simp only [compares, if_true] at h
  simp only [compares, Bool.false_eq_true, if_false, low32_toUInt64, low32_extended]
  exact h

/-! ## Steps -/

section
variable (order : ByteOrder) (context : List UInt8) {code : Array Instruction} {s : State}
variable {dst src : UInt8} {d : Fin registerCount}

/-- The bits of a code of 32-bit arithmetic with an immediate operand. -/
theorem alu32_bits (op : AluOp) :
    InstructionClass.ofBits ((InstructionClass.alu32.bits ||| op.bits) &&& 0x07) = .alu32 ∧
      AluOp.ofBits? ((InstructionClass.alu32.bits ||| op.bits) &&& 0xF0) = some op ∧
      ((InstructionClass.alu32.bits ||| op.bits) &&& 0x08 == 0x08) = false := by
  cases op <;> decide

theorem opClass_alu32Imm (op : AluOp) (dst : UInt8) (imm : Int32) :
    (Instruction.alu32Imm op dst imm).opClass = .alu32 := (alu32_bits op).1

theorem opClass_mov32Reg (dst src : UInt8) : (Instruction.mov32Reg dst src).opClass = .alu32 := by
  have h : InstructionClass.ofBits ((InstructionClass.alu32.bits ||| AluOp.mov.bits ||| 0x08)
      &&& 0x07) = .alu32 := by decide
  exact h

theorem isJump_alu32Imm (op : AluOp) (dst : UInt8) (imm : Int32) :
    (Instruction.alu32Imm op dst imm).isJump = false := by
  simp [Instruction.isJump, opClass_alu32Imm]

theorem isJump_mov32Reg (dst src : UInt8) : (Instruction.mov32Reg dst src).isJump = false := by
  simp [Instruction.isJump, opClass_mov32Reg]

theorem step_alu32Imm {op : AluOp} {imm : Int32}
    (hi : code[s.position]? = some (.alu32Imm op dst imm)) (hd : register? dst = some d) :
    step order context code s = .next (s.write d
      (low32 (arithmetic op (low32 (s.registers.get d)) (low32 (unsigned imm)) false)) 1) := by
  obtain ⟨-, ho, hs⟩ := alu32_bits op
  have hclass := opClass_alu32Imm op dst imm
  have hop : (Instruction.alu32Imm op dst imm).aluOp? = some op := ho
  have hsource : (Instruction.alu32Imm op dst imm).usesRegister = false := hs
  have hdst : register? (Instruction.alu32Imm op dst imm).dst = some d := hd
  have hsrc : register? (Instruction.alu32Imm op dst imm).src = some 0 := by
    change register? 0 = some 0
    decide
  have himm : (Instruction.alu32Imm op dst imm).imm = imm := rfl
  simp only [step, hi, hdst, hsrc, hclass, stepAlu, hop, hsource, Bool.false_eq_true, if_false,
    himm]
  rfl

theorem step_mov32Imm {imm : Int32} (hi : code[s.position]? = some (.mov32Imm dst imm))
    (hd : register? dst = some d) :
    step order context code s = .next (s.write d (low32 (low32 (unsigned imm))) 1) := by
  rw [Instruction.mov32Imm] at hi
  rw [step_alu32Imm order context hi hd]
  rfl

theorem step_and32Imm {v mask : UInt32} (hi : code[s.position]? = some (.and32Imm dst mask.toInt32))
    (hd : register? dst = some d) (hv : s.registers.get d = v.toUInt64) :
    step order context code s = .next (s.write d (v &&& mask).toUInt64 1) := by
  have h := step_alu32Imm order context hi hd
  simp only [arithmetic, hv, low32_toUInt64, unsigned_toInt32, low32_and] at h
  exact h

theorem step_rsh32Imm_sixteen {v : UInt32} (hi : code[s.position]? = some (.rsh32Imm dst 16))
    (hd : register? dst = some d) (hv : s.registers.get d = v.toUInt64) :
    step order context code s = .next (s.write d (v >>> 16).toUInt64 1) := by
  have hamount : low32 (unsigned 16) &&& 31 = (16 : UInt32).toUInt64 := by decide
  have hshift : v.toUInt64 >>> (16 : UInt32).toUInt64 = (v >>> 16).toUInt64 := by
    apply UInt64.toNat_inj.mp
    simp
  have h := step_alu32Imm order context hi hd
  simp only [arithmetic, hv, low32_toUInt64, Bool.false_eq_true, if_false, hamount, hshift] at h
  exact h

theorem step_mov32Reg {r : Fin registerCount} {v : UInt32}
    (hi : code[s.position]? = some (.mov32Reg dst src)) (hd : register? dst = some d)
    (hr : register? src = some r) (hv : s.registers.get r = v.toUInt64) :
    step order context code s = .next (s.write d v.toUInt64 1) := by
  have hdst : register? (Instruction.mov32Reg dst src).dst = some d := hd
  have hsrc : register? (Instruction.mov32Reg dst src).src = some r := hr
  have hbits : AluOp.ofBits? ((InstructionClass.alu32.bits ||| AluOp.mov.bits ||| 0x08) &&& 0xF0)
        = some .mov ∧
      ((InstructionClass.alu32.bits ||| AluOp.mov.bits ||| 0x08) &&& 0x08 == 0x08) = true := by
    decide
  have hclass := opClass_mov32Reg dst src
  have hop : (Instruction.mov32Reg dst src).aluOp? = some .mov := hbits.1
  have hsource : (Instruction.mov32Reg dst src).usesRegister = true := hbits.2
  have hread : s.registers[r] = v.toUInt64 := hv
  simp only [step, hi, hdst, hsrc, hclass, stepAlu, hop, hsource, Bool.false_eq_true, if_false,
    if_true, arithmetic, hread, low32_toUInt64]

theorem step_exit (hi : code[s.position]? = some .exit) :
    step order context code s = .answer s.registers[0] := by
  have hdst : register? Instruction.exit.dst = some 0 := by decide
  have hsrc : register? Instruction.exit.src = some 0 := by decide
  have hclass : Instruction.exit.opClass = .jump := by decide
  have hop : Instruction.exit.jumpOp? = some .exit := by decide
  simp only [step, hi, hdst, hsrc, hclass, stepJump, hop]

/-- A word of the event record, `n` bytes from its start. -/
theorem step_loadWord {offset : Int16} {r : Fin registerCount} {n : Nat} {v : UInt32}
    (hi : code[s.position]? = some (.loadWord dst src offset)) (hd : register? dst = some d)
    (hr : register? src = some r) (hbase : s.registers.get r = contextBase)
    (hoffset : offset.toInt64.toUInt64.toNat = n) (hn : n + 4 ≤ contextSize)
    (hv : order.value ((context.drop n).take 4) = v.toNat) :
    step order context code s = .next (s.write d v.toUInt64 1) := by
  have hdst : register? (Instruction.loadWord dst src offset).dst = some d := hd
  have hsrc : register? (Instruction.loadWord dst src offset).src = some r := hr
  have hbits : InstructionClass.ofBits ((InstructionClass.loadContext.bits |||
        Instruction.memoryMode ||| AccessSize.word.bits) &&& 0x07) = .loadContext ∧
      (InstructionClass.loadContext.bits ||| Instruction.memoryMode ||| AccessSize.word.bits)
        &&& 0xE0 = Instruction.memoryMode ∧
      AccessSize.ofBits ((InstructionClass.loadContext.bits ||| Instruction.memoryMode |||
        AccessSize.word.bits) &&& 0x18) = .word := by
    decide
  have hclass : (Instruction.loadWord dst src offset).opClass = .loadContext := hbits.1
  have hmode : (Instruction.loadWord dst src offset).modeBits = Instruction.memoryMode :=
    hbits.2.1
  have hsize : (Instruction.loadWord dst src offset).size = .word := hbits.2.2
  have hoff : (Instruction.loadWord dst src offset).offset = offset := rfl
  have hread : s.registers[r] = contextBase := hbase
  have hplace : contextBase + offset.toInt64.toUInt64 - contextBase = offset.toInt64.toUInt64 := by
    rw [UInt64.add_comm, UInt64.add_sub_cancel]
  have habove : ¬ (contextBase + offset.toInt64.toUInt64 < contextBase) := by
    have hbaseNat : contextBase.toNat = 268435456 := rfl
    have hsizeNat : contextSize = 12 := rfl
    rw [UInt64.lt_iff_toNat_lt, UInt64.toNat_add, hoffset, hbaseNat]
    omega
  have hwithin : ¬ (contextSize < n + 4) := by omega
  simp only [step, hi, hdst, hsrc, hclass, hmode, if_true, stepLoad, hread, hoff, hplace, hoffset,
    habove, hsize, hwithin, false_or, if_false, reduceCtorEq, AccessSize.width, hv,
    ofNat_toNat_word]

/-- A branch, given how its comparison comes out. -/
theorem step_of_compares {i : Instruction} {op : JumpOp} {r : Fin registerCount} {wide taken : Bool}
    (hi : code[s.position]? = some i) (hd : register? i.dst = some d)
    (hr : register? i.src = some r) (hclass : i.opClass = if wide then .jump else .jump32)
    (hop : i.jumpOp? = some op)
    (htaken : compares op (s.registers.get d) (jumpOperand s i r) wide = some taken) :
    step order context code s = jumpTo s i taken := by
  obtain ⟨-, hne⟩ := ne_of_compares htaken
  cases wide with
  | true =>
    simp only [if_true] at hclass
    simp only [step, hi, hd, hr, hclass, stepJump_eq hop hne, htaken]
  | false =>
    simp only [Bool.false_eq_true, if_false] at hclass
    simp only [step, hi, hd, hr, hclass, stepJump_eq hop hne, htaken]

end

/-! ## Branches on a difference -/

/-- Branches where a register differs from the immediate operand, in 64 bits or in 32. -/
structure ComparesImm (i : Instruction) (wide : Bool) : Prop where
  source : register? i.src = some 0
  opClass : i.opClass = if wide then .jump else .jump32
  op : i.jumpOp? = some .ne
  immediate : i.usesRegister = false

theorem comparesImm_jumpNeImm (dst : UInt8) (imm : Int32) (offset : Int16) :
    ComparesImm (.jumpNeImm dst imm offset) true := by
  have hbits : InstructionClass.ofBits ((InstructionClass.jump.bits ||| JumpOp.ne.bits) &&& 0x07)
        = .jump ∧
      JumpOp.ofBits? ((InstructionClass.jump.bits ||| JumpOp.ne.bits) &&& 0xF0) = some .ne ∧
      ((InstructionClass.jump.bits ||| JumpOp.ne.bits) &&& 0x08 == 0x08) = false := by
    decide
  have hsource : register? 0 = some 0 := by decide
  exact ⟨hsource, hbits.1, hbits.2.1, hbits.2.2⟩

theorem comparesImm_jumpNe32Imm (dst : UInt8) (imm : Int32) (offset : Int16) :
    ComparesImm (.jumpNe32Imm dst imm offset) false := by
  have hbits : InstructionClass.ofBits ((InstructionClass.jump32.bits ||| JumpOp.ne.bits) &&& 0x07)
        = .jump32 ∧
      JumpOp.ofBits? ((InstructionClass.jump32.bits ||| JumpOp.ne.bits) &&& 0xF0) = some .ne ∧
      ((InstructionClass.jump32.bits ||| JumpOp.ne.bits) &&& 0x08 == 0x08) = false := by
    decide
  have hsource : register? 0 = some 0 := by decide
  exact ⟨hsource, hbits.1, hbits.2.1, hbits.2.2⟩

theorem ComparesImm.jumpOperand_eq {i : Instruction} {wide : Bool} (h : ComparesImm i wide)
    (s : State) : jumpOperand s i 0 = extended i.imm := by
  rw [jumpOperand, h.immediate]
  rfl

section
variable (reg : UInt8) (v : UInt32)

theorem imm_jumpUnless : (Compile.jumpUnless reg v).imm = v.toInt32 := by
  unfold Compile.jumpUnless
  split
  · rfl
  · rfl

theorem dst_jumpUnless : (Compile.jumpUnless reg v).dst = reg := by
  unfold Compile.jumpUnless
  split
  · rfl
  · rfl

/-- Words without the sign bit are compared in 64 bits, others in 32. -/
theorem comparesImm_jumpUnless :
    ComparesImm (Compile.jumpUnless reg v) (v.toNat < 2147483648) := by
  unfold Compile.jumpUnless
  split
  · rename_i h
    rw [decide_eq_true h]
    exact comparesImm_jumpNeImm reg _ 0
  · rename_i h
    rw [decide_eq_false h]
    exact comparesImm_jumpNe32Imm reg _ 0

/-- Compared like that, a word that is extended to 64 bits differs from the words it differs
from. -/
theorem compares_ne_extended (c : UInt32) :
    compares .ne c.toUInt64 (extended v.toInt32) (v.toNat < 2147483648)
      = some (decide (c ≠ v)) := by
  by_cases h : v.toNat < 2147483648
  · rw [decide_eq_true h, compares_ne_wide h]
  · rw [decide_eq_false h, compares_ne_narrow]

end

end DeviceFilter.Machine

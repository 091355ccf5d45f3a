import DeviceFilter.Machine
import DeviceFilter.Program.Compile
import Mathlib.Logic.Relation

/-!
Runs without a step limit. `Reaches` is a finite path of steps and `Ends` such a path up to an
answer or a fault. In a program without backward branches every step moves on, so the limited run
of a short program is the unlimited one.
-/
set_option autoImplicit false

namespace DeviceFilter

/-- No branch goes backwards. -/
def Program.Forward (p : Program) : Prop :=
  ∀ i ∈ p, i.isJump = true → 0 ≤ i.offset.toInt

namespace Machine

section
variable (order : ByteOrder) (context : List UInt8) (code : Array Instruction)

def Reaches : State → State → Prop :=
  Relation.ReflTransGen fun s s' => step order context code s = .next s'

inductive Ends : State → Except Fault UInt64 → Prop where
  | answer {s : State} {value : UInt64} :
      step order context code s = .answer value → Ends s (.ok value)
  | fault {s : State} {f : Fault} : step order context code s = .fault f → Ends s (.error f)
  | next {s s' : State} {r : Except Fault UInt64} :
      step order context code s = .next s' → Ends s' r → Ends s r

end

variable {order : ByteOrder} {context : List UInt8} {code : Array Instruction}

theorem Reaches.single {s s' : State} (h : step order context code s = .next s') :
    Reaches order context code s s' :=
  Relation.ReflTransGen.single h

theorem Reaches.trans {s t u : State} (hst : Reaches order context code s t)
    (htu : Reaches order context code t u) : Reaches order context code s u :=
  Relation.ReflTransGen.trans hst htu

theorem Reaches.ends {s t : State} {r : Except Fault UInt64}
    (hst : Reaches order context code s t) (ht : Ends order context code t r) :
    Ends order context code s r := by
  induction hst using Relation.ReflTransGen.head_induction_on with
  | refl => exact ht
  | head h _ ih => exact .next h ih

/-! ## What a step can do -/

theorem lt_of_register? {n : UInt8} {r : Fin registerCount} (h : register? n = some r) :
    n.toNat < registerCount ∧ r.val = n.toNat := by
  unfold register? at h
  split at h
  · cases h
    exact ⟨‹_›, rfl⟩
  · cases h

/-- An operation other than a call and a return belongs to a branch. -/
theorem isJump_of_jumpOp {i : Instruction} {op : JumpOp}
    (hclass : i.opClass = .jump ∨ i.opClass = .jump32) (hop : i.jumpOp? = some op)
    (hcall : op ≠ .call) (hexit : op ≠ .exit) : i.isJump = true := by
  have hbits : i.opBits ≠ JumpOp.call.bits ∧ i.opBits ≠ JumpOp.exit.bits := by
    constructor
    · intro h
      rw [Instruction.jumpOp?, h] at hop
      exact hcall (Option.some.inj hop).symm
    · intro h
      rw [Instruction.jumpOp?, h] at hop
      exact hexit (Option.some.inj hop).symm
  rcases hclass with h | h <;> simp [Instruction.isJump, h, hbits]

theorem ne_of_compares {op : JumpOp} {a b : UInt64} {wide taken : Bool}
    (h : compares op a b wide = some taken) : op ≠ .call ∧ op ≠ .exit := by
  constructor
  · rintro rfl
    simp [compares] at h
  · rintro rfl
    simp [compares] at h

/-- Only branches compare. -/
theorem isJump_of_compares {i : Instruction} {op : JumpOp} {a b : UInt64} {wide taken : Bool}
    (hclass : i.opClass = .jump ∨ i.opClass = .jump32) (hop : i.jumpOp? = some op)
    (h : compares op a b wide = some taken) : i.isJump = true := by
  obtain ⟨hcall, hexit⟩ := ne_of_compares h
  exact isJump_of_jumpOp hclass hop hcall hexit

/-- A step goes to the next record, past the second record of a wide load, or along a branch. -/
inductive Moves (code : Array Instruction) (i : Instruction) : Nat → Nat → Prop where
  | succ (p : Nat) : Moves code i p (p + 1)
  | wide {p : Nat} : i.isWideLoad = true → p + 1 < code.size → Moves code i p (p + 2)
  | branch {p q : Nat} : i.isJump = true → (q : Int) = Program.branchTarget p i → Moves code i p q

theorem bits_of_ofBits? {b : UInt8} {op : JumpOp} (h : JumpOp.ofBits? b = some op) :
    b = op.bits := by
  unfold JumpOp.ofBits? at h
  split at h <;> cases h <;> rfl

/-- What the record `i` can do in the state `s`. -/
inductive Does (code : Array Instruction) (s : State) (i : Instruction) : Outcome → Prop where
  | write {d : Fin registerCount} (value : UInt64) : register? i.dst = some d →
      i.opClass = .alu32 ∨ i.opClass = .alu64 ∨ i.opClass = .loadContext →
      Does code s i (.next (s.write d value 1))
  | wide {d : Fin registerCount} (value : UInt64) : register? i.dst = some d →
      i.isWideLoad = true → s.position + 1 < code.size → Does code s i (.next (s.write d value 2))
  | pass : i.isJump = true → i.opBits ≠ JumpOp.always.bits →
      Does code s i (.next { s with position := s.position + 1 })
  | branch {target : Nat} : i.isJump = true →
      (target : Int) = Program.branchTarget s.position i →
      Does code s i (.next { s with position := target })
  | answer : Does code s i (.answer s.registers[0])
  | unsupported : Does code s i (.fault (.unsupported s.position i.code))
  | badAccess (address : UInt64) : Does code s i (.fault (.badAccess s.position address))
  | cutOff : i.isWideLoad = true → code[s.position + 1]? = none →
      Does code s i (.fault (.outOfBounds (s.position + 1)))
  | backward : i.isJump = true → Program.branchTarget s.position i < 0 →
      Does code s i (.fault (.outOfBounds s.position))

section
variable {s s' : State} {i : Instruction} {dst src : Fin registerCount}

theorem stepAlu_does {wide : Bool} (hd : register? i.dst = some dst)
    (hclass : i.opClass = .alu32 ∨ i.opClass = .alu64) :
    Does code s i (stepAlu s i dst src wide) := by
  have hwrite : i.opClass = .alu32 ∨ i.opClass = .alu64 ∨ i.opClass = .loadContext := by
    rcases hclass with h | h
    · exact .inl h
    · exact .inr (.inl h)
  unfold stepAlu
  cases i.aluOp? with
  | none => exact .unsupported
  | some op =>
    cases wide with
    | true => exact .write _ hd hwrite
    | false => exact .write _ hd hwrite

theorem stepLoad_does (hd : register? i.dst = some dst) (hclass : i.opClass = .loadContext) :
    Does code s i (stepLoad s i dst src order context) := by
  simp only [stepLoad]
  split
  · exact .badAccess _
  · split
    · exact .unsupported
    · exact .write _ hd (.inr (.inr hclass))

theorem stepWideLoad_does (hd : register? i.dst = some dst) (hwide : i.isWideLoad = true) :
    Does code s i (stepWideLoad s i dst code) := by
  unfold stepWideLoad
  cases hsecond : code[s.position + 1]? with
  | none => exact .cutOff hwide hsecond
  | some high => exact .wide _ hd hwide (Array.getElem?_eq_some_iff.mp hsecond).1

/-- The second operand of a comparison. -/
def jumpOperand (s : State) (i : Instruction) (src : Fin registerCount) : UInt64 :=
  if i.usesRegister then s.registers.get src else extended i.imm

/-- Going on after a comparison. -/
def jumpTo (s : State) (i : Instruction) (taken : Bool) : Outcome :=
  let target : Int := (s.position : Int) + 1 + (if taken then i.offset.toInt else 0)
  if target < 0 then .fault (.outOfBounds s.position)
  else .next { s with position := target.toNat }

theorem jumpTo_false (s : State) (i : Instruction) :
    jumpTo s i false = .next { s with position := s.position + 1 } := by
  have hge : ¬ ((s.position : Int) + 1 + 0 < 0) := by omega
  have hnat : ((s.position : Int) + 1 + 0).toNat = s.position + 1 := by omega
  simp only [jumpTo, Bool.false_eq_true, if_false, hge, hnat]

theorem jumpTo_true {s : State} {i : Instruction} {target : Nat}
    (h : (target : Int) = Program.branchTarget s.position i) :
    jumpTo s i true = .next { s with position := target } := by
  have hge : ¬ (Program.branchTarget s.position i < 0) := by omega
  have hnat : (Program.branchTarget s.position i).toNat = target := by omega
  rw [Program.branchTarget] at hge hnat
  simp only [jumpTo, if_true, hge, if_false, hnat]

theorem jumpTo_does {taken : Bool} (hjump : i.isJump = true)
    (hpass : taken = false → i.opBits ≠ JumpOp.always.bits) : Does code s i (jumpTo s i taken) := by
  cases taken with
  | false =>
    rw [jumpTo_false]
    exact .pass hjump (hpass rfl)
  | true =>
    by_cases hneg : Program.branchTarget s.position i < 0
    · have hfault : jumpTo s i true = .fault (.outOfBounds s.position) := if_pos hneg
      rw [hfault]
      exact .backward hjump hneg
    · have htarget := Int.toNat_of_nonneg (Int.not_lt.mp hneg)
      rw [jumpTo_true htarget]
      exact .branch hjump htarget

theorem stepJump_eq {op : JumpOp} (hop : i.jumpOp? = some op) (hexit : op ≠ .exit) (wide : Bool) :
    stepJump s i dst src wide =
      match compares op (s.registers.get dst) (jumpOperand s i src) wide with
      | none => .fault (.unsupported s.position i.code)
      | some taken => jumpTo s i taken := by
  cases op <;> first | exact absurd rfl hexit | (simp only [stepJump, hop]; rfl)

theorem stepJump_does {wide : Bool} (hclass : i.opClass = .jump ∨ i.opClass = .jump32) :
    Does code s i (stepJump s i dst src wide) := by
  cases hop : i.jumpOp? with
  | none =>
    simp only [stepJump, hop]
    exact .unsupported
  | some op =>
    by_cases hexit : op = .exit
    · subst hexit
      simp only [stepJump, hop]
      exact .answer
    · rw [stepJump_eq hop hexit]
      cases htaken : compares op (s.registers.get dst) (jumpOperand s i src) wide with
      | none => exact .unsupported
      | some taken =>
        apply jumpTo_does (isJump_of_compares hclass hop htaken)
        rintro rfl
        rw [bits_of_ofBits? hop]
        -- Only an operation that compares can come out false.
        cases op <;> simp_all [JumpOp.bits, compares]

end

theorem step_does {s : State} {i : Instruction} (hi : code[s.position]? = some i) :
    Does code s i (step order context code s) := by
  unfold step
  rw [hi]
  dsimp only
  split
  · rename_i dst src hd hr
    split
    · exact stepAlu_does hd (.inl ‹_›)
    · exact stepAlu_does hd (.inr ‹_›)
    · exact stepJump_does (.inl ‹_›)
    · exact stepJump_does (.inr ‹_›)
    · split
      · exact stepLoad_does hd ‹_›
      · exact .unsupported
    · split
      · exact stepWideLoad_does hd ‹_›
      · exact .unsupported
    · exact .unsupported
    · exact .unsupported
  · exact .unsupported

theorem step_of_none {s : State} (hi : code[s.position]? = none) :
    step order context code s = .fault (.outOfBounds s.position) := by
  simp only [step, hi]

theorem step_moves {s s' : State} (h : step order context code s = .next s') :
    ∃ i, code[s.position]? = some i ∧ Moves code i s.position s'.position := by
  cases hi : code[s.position]? with
  | none =>
    rw [step_of_none hi] at h
    cases h
  | some i =>
    have hdoes : Does code s i (step order context code s) := step_does hi
    rw [h] at hdoes
    refine ⟨i, rfl, ?_⟩
    cases hdoes with
    | write => exact .succ _
    | wide value hd hwide hsize => exact .wide hwide hsize
    | pass => exact .succ _
    | branch hjump htarget => exact .branch hjump htarget

/-! ## Programs without backward branches -/

theorem Moves.lt {i : Instruction} {p q : Nat} (h : Moves code i p q)
    (hf : i.isJump = true → 0 ≤ i.offset.toInt) : p < q := by
  cases h with
  | succ => omega
  | wide => omega
  | branch hjump htarget =>
    have hoffset := hf hjump
    rw [Program.branchTarget] at htarget
    omega

theorem step_lt (hf : Program.Forward code.toList) {s s' : State}
    (h : step order context code s = .next s') :
    s.position < s'.position ∧ s.position < code.size := by
  obtain ⟨i, hi, hmoves⟩ := step_moves h
  have hmem : i ∈ code.toList := Array.mem_toList_iff.mpr (Array.mem_of_getElem? hi)
  exact ⟨hmoves.lt (hf i hmem), (Array.getElem?_eq_some_iff.mp hi).1⟩

theorem runFrom_of_ends (hf : Program.Forward code.toList) {s : State} {r : Except Fault UInt64}
    (h : Ends order context code s r) {fuel : Nat} (hpos : 0 < fuel)
    (hfuel : code.size < fuel + s.position) : runFrom order context code fuel s = r := by
  induction h generalizing fuel with
  | answer h =>
    obtain ⟨fuel, rfl⟩ := Nat.exists_eq_add_one.mpr hpos
    simp only [runFrom, h]
  | fault h =>
    obtain ⟨fuel, rfl⟩ := Nat.exists_eq_add_one.mpr hpos
    simp only [runFrom, h]
  | next h _ ih =>
    obtain ⟨fuel, rfl⟩ := Nat.exists_eq_add_one.mpr hpos
    obtain ⟨hlt, hsize⟩ := step_lt hf h
    simp only [runFrom, h]
    exact ih (by omega) (by omega)

theorem ends_runFrom (hf : Program.Forward code.toList) {fuel : Nat} {s : State}
    (hpos : 0 < fuel) (hfuel : code.size < fuel + s.position) :
    Ends order context code s (runFrom order context code fuel s) := by
  induction fuel generalizing s with
  | zero => omega
  | succ fuel ih =>
    rw [runFrom]
    cases h : step order context code s with
    | answer value => exact .answer h
    | fault f => exact .fault h
    | next s' =>
      obtain ⟨hlt, hsize⟩ := step_lt hf h
      exact .next h (ih (by omega) (by omega))

end Machine

end DeviceFilter

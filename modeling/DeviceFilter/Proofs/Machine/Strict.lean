import DeviceFilter.Proofs.Machine.Run
import Mathlib.Data.UInt

/-!
Nothing is taken for granted on a strict host: it stops at an index out of range, at a shift by the
width of its operand or more, and at a sum that its type has no room for. The machine is written
down here once more in the operations of such a host, where `none` is a stop. It never stops, on any
program and any event, and comes to the same answer or fault.

What keeps it going are the guards of the machine: the test of register numbers, the test of
addresses, and the limit on steps, which also limits how far branches can carry the position.
-/
set_option autoImplicit false

namespace DeviceFilter

namespace Machine

namespace Strict

/-! ## Operations that may stop -/

/-- A sum of 64-bit numbers without sign. -/
def add (a b : Nat) : Option Nat := if a + b < 18446744073709551616 then some (a + b) else none

/-- A sum of 64-bit numbers with sign. -/
def addSigned (a b : Int) : Option Int :=
  if -9223372036854775808 ≤ a + b ∧ a + b < 9223372036854775808 then some (a + b) else none

/-- A 64-bit number without sign, read as one with sign. -/
def signed (n : Nat) : Int := (n : Int).bmod 18446744073709551616

/-- The result of a shift of `width` bits by `amount`. -/
def shifted (width : Nat) (amount result : UInt64) : Option UInt64 :=
  if amount.toNat < width then some result else none

def read (registers : Registers) (n : UInt8) : Option UInt64 := registers[n.toNat]?

def write (registers : Registers) (n : UInt8) (value : UInt64) : Option Registers :=
  if h : n.toNat < registerCount then some (registers.set n.toNat value) else none

/-- The bytes from `start` up to `stop`. -/
def part (bytes : List UInt8) (start stop : Nat) : Option (List UInt8) :=
  if start ≤ stop ∧ stop ≤ bytes.length then some ((bytes.drop start).take (stop - start))
  else none

/-- Puts `source` over the bytes from `start` up to `stop`, which must be as many. -/
def copy (bytes : List UInt8) (start stop : Nat) (source : List UInt8) : Option (List UInt8) :=
  if start ≤ stop ∧ stop ≤ bytes.length ∧ source.length = stop - start then
    some (bytes.take start ++ source ++ bytes.drop stop)
  else none

/-- The number in the first `width` bytes, each taken by its index. -/
def number (order : ByteOrder) (width : Nat) (bytes : List UInt8) : Option Nat :=
  ((List.range width).mapM (bytes[·]?)).map order.value

/-! ## The machine in these operations -/

def context (order : ByteOrder) (e : Event) : Option (List UInt8) := do
  let bytes := List.replicate contextSize 0
  let bytes ← copy bytes 0 4 (order.bytes 4 e.accessType.toNat)
  let bytes ← copy bytes 4 8 (order.bytes 4 e.major.toNat)
  copy bytes 8 12 (order.bytes 4 e.minor.toNat)

/-- Sums, differences and products wrap and a division by zero has a value, so that only shifts may
stop. -/
def arithmetic (op : AluOp) (a b : UInt64) (wide : Bool) : Option UInt64 :=
  let amount := if wide then b &&& 63 else b &&& 31
  let result := Machine.arithmetic op a b wide
  match op with
  | .lsh | .rsh => shifted 64 amount result
  | .arsh => shifted (if wide then 64 else 32) amount result
  | _ => some result

section
variable (s : State) (i : Instruction)

def operand (immediate : UInt64) : Option UInt64 :=
  if i.usesRegister then read s.registers i.src else some immediate

/-- Writes a register and goes on `advance` records further. -/
def advanced (value : UInt64) (advance : Nat) : Option Outcome := do
  let registers ← write s.registers i.dst value
  let position ← add s.position advance
  return .next ⟨position, registers⟩

def stepAlu (wide : Bool) : Option Outcome := do
  let right ← operand s i (if wide then extended i.imm else unsigned i.imm)
  let left ← read s.registers i.dst
  match i.aluOp? with
  | none => return .fault (.unsupported s.position i.code)
  | some op =>
    if wide then advanced s i (← arithmetic op left right true) 1
    else advanced s i (low32 (← arithmetic op (low32 left) (low32 right) false)) 1

def stepLoad (order : ByteOrder) (context : List UInt8) : Option Outcome := do
  let address := (← read s.registers i.src) + i.offset.toInt64.toUInt64
  let width := i.size.width
  let offset := (address - contextBase).toNat
  -- The end of the load is worked out only for addresses that are not below the event.
  let outside ←
    if address < contextBase then some true else (add offset width).map (contextSize < ·)
  if outside then return .fault (.badAccess s.position address)
  let bytes ← part context offset (← add offset width)
  if i.size = .double then return .fault (.unsupported s.position i.code)
  advanced s i (UInt64.ofNat (← number order width bytes)) 1

def stepWideLoad (code : Array Instruction) : Option Outcome := do
  let second ← add s.position 1
  match code[second]? with
  | none => return .fault (.outOfBounds second)
  | some high =>
    let upper ← shifted 64 32 (unsigned high.imm <<< 32)
    advanced s i (upper ||| unsigned i.imm) 2

/-- Goes on after a comparison. -/
def jumpTo (taken : Bool) : Option Outcome := do
  let next ← addSigned (signed s.position) 1
  let target ← addSigned next (if taken then i.offset.toInt else 0)
  return if target < 0 then .fault (.outOfBounds s.position)
    else .next { s with position := target.toNat }

def stepJump (wide : Bool) : Option Outcome :=
  match i.jumpOp? with
  | some .exit => (read s.registers 0).map .answer
  | some op => do
    let right ← operand s i (extended i.imm)
    let left ← read s.registers i.dst
    match compares op left right wide with
    | none => return .fault (.unsupported s.position i.code)
    | some taken => jumpTo s i taken
  | none => return .fault (.unsupported s.position i.code)

end

def step (order : ByteOrder) (context : List UInt8) (code : Array Instruction) (s : State) :
    Option Outcome :=
  match code[s.position]? with
  | none => some (.fault (.outOfBounds s.position))
  | some i =>
    if registerCount ≤ i.dst.toNat ∨ registerCount ≤ i.src.toNat then
      some (.fault (.unsupported s.position i.code))
    else
      match i.opClass with
      | .alu32 => stepAlu s i false
      | .alu64 => stepAlu s i true
      | .jump => stepJump s i true
      | .jump32 => stepJump s i false
      | .loadContext =>
        if i.modeBits = Instruction.memoryMode then stepLoad s i order context
        else some (.fault (.unsupported s.position i.code))
      | .load =>
        if i.isWideLoad then stepWideLoad s i code
        else some (.fault (.unsupported s.position i.code))
      | .store | .storeRegister => some (.fault (.unsupported s.position i.code))

def runFrom (order : ByteOrder) (context : List UInt8) (code : Array Instruction) :
    Nat → State → Option (Except Fault UInt64)
  | 0, _ => some (.error .stepLimit)
  | fuel + 1, s => do
    match ← step order context code s with
    | .next s' => runFrom order context code fuel s'
    | .answer value => return .ok value
    | .fault f => return .error f

/-- The run of a program on an event, from the making of the event's record on. -/
def run (order : ByteOrder) (p : Program) (e : Event) : Option (Except Fault UInt64) := do
  let context ← context order e
  let registers ← write (Vector.replicate registerCount 0) 1 contextBase
  runFrom order context p.toArray stepLimit ⟨0, registers⟩

/-! ## None of the operations stops -/

theorem add_eq {a b : Nat} (h : a + b < 18446744073709551616) : add a b = some (a + b) := if_pos h

theorem addSigned_eq {a b : Int} (hlow : -9223372036854775808 ≤ a + b)
    (hhigh : a + b < 9223372036854775808) : addSigned a b = some (a + b) := if_pos ⟨hlow, hhigh⟩

theorem signed_eq {n : Nat} (h : n < 9223372036854775808) : signed n = n := by
  apply Int.bmod_eq_of_le <;> omega

theorem part_eq {bytes : List UInt8} {start width : Nat} (h : start + width ≤ bytes.length) :
    part bytes start (start + width) = some ((bytes.drop start).take width) := by
  rw [part, if_pos ⟨Nat.le_add_right start width, h⟩, Nat.add_sub_cancel_left]

theorem mapM_getElem? (bytes : List UInt8) :
    (List.range bytes.length).mapM (bytes[·]?) = some bytes := by
  induction bytes with
  | nil => rfl
  | cons b bytes ih =>
    have hrest : ((fun k => (b :: bytes)[k]?) ∘ Nat.succ) = (bytes[·]?) := by
      funext k
      exact List.getElem?_cons_succ
    rw [List.length_cons, List.range_succ_eq_map, List.mapM_cons, List.mapM_map, hrest, ih]
    rfl

theorem number_eq (order : ByteOrder) {bytes : List UInt8} {width : Nat}
    (h : bytes.length = width) : number order width bytes = some (order.value bytes) := by
  rw [number, ← h, mapM_getElem?]
  rfl

theorem copy_eq (front old rest : List UInt8) {start stop : Nat} {source : List UInt8}
    (hstart : front.length = start) (hstop : start + old.length = stop)
    (h : source.length = old.length) :
    copy (front ++ (old ++ rest)) start stop source = some (front ++ (source ++ rest)) := by
  have hroom : stop ≤ (front ++ (old ++ rest)).length := by
    rw [List.length_append, List.length_append]
    omega
  have hdrop : (front ++ (old ++ rest)).drop stop = rest := by
    rw [← List.append_assoc]
    apply List.drop_left'
    rw [List.length_append]
    omega
  rw [copy, if_pos ⟨by omega, hroom, by omega⟩, hdrop, List.take_left' hstart, List.append_assoc]

theorem context_eq (order : ByteOrder) (e : Event) : context order e = some (e.context order) := by
  unfold context Event.context
  generalize hfirst : order.bytes 4 e.accessType.toNat = first
  generalize hsecond : order.bytes 4 e.major.toNat = second
  generalize hthird : order.bytes 4 e.minor.toNat = third
  have h1 : first.length = 4 := hfirst ▸ order.length_bytes 4 _
  have h2 : second.length = 4 := hsecond ▸ order.length_bytes 4 _
  have h3 : third.length = 4 := hthird ▸ order.length_bytes 4 _
  have hboth : (first ++ second).length = 8 := by rw [List.length_append, h1, h2]
  let blank : List UInt8 := List.replicate 4 0
  have hcopy1 : copy (List.replicate contextSize 0) 0 4 first
      = some (first ++ (blank ++ blank)) := copy_eq [] blank (blank ++ blank) rfl rfl h1
  have hcopy2 : copy (first ++ (blank ++ blank)) 4 8 second = some (first ++ (second ++ blank)) :=
    copy_eq first blank blank h1 rfl h2
  have hcopy3 : copy (first ++ (second ++ blank)) 8 12 third = some (first ++ second ++ third) := by
    have h := copy_eq (first ++ second) blank [] hboth rfl h3
    rwa [List.append_nil, List.append_nil, List.append_assoc first second blank] at h
  simp only [hcopy1, hcopy2, hcopy3, Option.bind_eq_bind, Option.bind_some]

/-! ## Registers -/

section
variable {n : UInt8} {r : Fin registerCount}

theorem le_of_register?_eq_none (h : register? n = none) : registerCount ≤ n.toNat := by
  unfold register? at h
  split at h
  · cases h
  · exact Nat.not_lt.mp ‹_›

theorem read_eq (h : register? n = some r) (registers : Registers) :
    read registers n = some (registers.get r) := by
  obtain ⟨hlt, hr⟩ := lt_of_register? h
  rw [read, Vector.getElem?_eq_getElem hlt]
  simp only [← hr]
  rfl

theorem write_eq (h : register? n = some r) (registers : Registers) (value : UInt64) :
    write registers n value = some (registers.set r.val value r.isLt) := by
  obtain ⟨hlt, hr⟩ := lt_of_register? h
  rw [write, dif_pos hlt]
  simp only [← hr]

end

/-! ## Steps -/

theorem arithmetic_eq (op : AluOp) (a b : UInt64) (wide : Bool) :
    arithmetic op a b wide = some (Machine.arithmetic op a b wide) := by
  have hwide : (b &&& 63).toNat < 64 := by
    rw [UInt64.toNat_and]
    exact Nat.lt_succ_of_le Nat.and_le_right
  have hnarrow : (b &&& 31).toNat < 32 := by
    rw [UInt64.toNat_and]
    exact Nat.lt_succ_of_le Nat.and_le_right
  have hamount : (if wide then b &&& 63 else b &&& 31).toNat < if wide then 64 else 32 := by
    cases wide with
    | true => exact hwide
    | false => exact hnarrow
  cases op with
  | lsh | rsh =>
    apply if_pos
    apply hamount.trans_le
    cases wide <;> decide
  | arsh => exact if_pos hamount
  | add | sub | mul | div | or | and | neg | mod | xor | mov => rfl

/-- Behind the event's address there is room for the widest load. -/
theorem offset_add_width_lt {address : UInt64} (h : ¬ address < contextBase) (size : AccessSize) :
    (address - contextBase).toNat + size.width < 18446744073709551616 := by
  have hbase : contextBase.toNat = 268435456 := rfl
  have hlt := address.toNat_lt
  have hwidth : size.width ≤ 8 := by cases size <;> decide
  rw [UInt64.toNat_sub_of_le _ _ (UInt64.not_lt.mp h), hbase]
  omega

theorem jumpTo_eq {s : State} {i : Instruction} (h : s.position + 32768 < 9223372036854775808)
    (taken : Bool) : jumpTo s i taken = some (Machine.jumpTo s i taken) := by
  have hlow := i.offset.le_toInt
  have hhigh := i.offset.toInt_lt
  have hnext : addSigned (signed s.position) 1 = some ((s.position : Int) + 1) := by
    rw [signed_eq (by omega)]
    apply addSigned_eq <;> omega
  have htarget : addSigned ((s.position : Int) + 1) (if taken then i.offset.toInt else 0)
      = some ((s.position : Int) + 1 + (if taken then i.offset.toInt else 0)) := by
    apply addSigned_eq <;> split <;> omega
  simp only [jumpTo, hnext, htarget, Option.bind_eq_bind, Option.bind_some]
  rfl

section
variable {s : State} {i : Instruction} {dst src : Fin registerCount}
variable (hd : register? i.dst = some dst) (hr : register? i.src = some src)

include hr in
theorem operand_eq (immediate : UInt64) :
    operand s i immediate = some (if i.usesRegister then s.registers.get src else immediate) := by
  unfold operand
  split
  · exact read_eq hr s.registers
  · rfl

include hd in
theorem advanced_eq {advance : Nat} (h : s.position + advance < 18446744073709551616)
    (value : UInt64) : advanced s i value advance = some (.next (s.write dst value advance)) := by
  rw [advanced, write_eq hd, add_eq h]
  rfl

include hd in
theorem stepWideLoad_eq (h : s.position + 2 < 18446744073709551616) (code : Array Instruction) :
    stepWideLoad s i code = some (Machine.stepWideLoad s i dst code) := by
  have hsecond : s.position + 1 < 18446744073709551616 := by omega
  rw [stepWideLoad, add_eq hsecond, Machine.stepWideLoad]
  simp only [Option.bind_eq_bind, Option.bind_some]
  cases code[s.position + 1]? with
  | none => rfl
  | some high =>
    have hshift : shifted 64 32 (unsigned high.imm <<< 32) = some (unsigned high.imm <<< 32) :=
      if_pos (by decide)
    simp only [hshift, Option.bind_some, advanced_eq hd h]

include hd hr

theorem stepAlu_eq (h : s.position + 1 < 18446744073709551616) (wide : Bool) :
    stepAlu s i wide = some (Machine.stepAlu s i dst src wide) := by
  rw [stepAlu, operand_eq hr, read_eq hd, Machine.stepAlu]
  cases i.aluOp? with
  | none => rfl
  | some op =>
    simp only [Option.bind_eq_bind, Option.bind_some, arithmetic_eq, advanced_eq hd h]
    cases wide with
    | true => rfl
    | false => rfl

theorem stepLoad_eq (h : s.position + 1 < 18446744073709551616) (order : ByteOrder)
    {context : List UInt8} (hcontext : context.length = contextSize) :
    stepLoad s i order context = some (Machine.stepLoad s i dst src order context) := by
  rw [stepLoad, read_eq hr, Machine.stepLoad]
  simp only [Option.bind_eq_bind, Option.bind_some]
  generalize s.registers.get src + i.offset.toInt64.toUInt64 = address
  by_cases hbelow : address < contextBase
  · simp [hbelow]
  · have hend := offset_add_width_lt hbelow i.size
    by_cases hbeyond : contextSize < (address - contextBase).toNat + i.size.width
    · simp [hbelow, hbeyond, add_eq hend]
    · have hinside : (address - contextBase).toNat + i.size.width ≤ context.length := by omega
      have hlength : ((context.drop (address - contextBase).toNat).take i.size.width).length
          = i.size.width := by
        rw [List.length_take, List.length_drop]
        omega
      simp only [if_neg hbelow, add_eq hend, Option.map_some, hbeyond, decide_false,
        Bool.false_eq_true, if_false, Option.bind_some, part_eq hinside, number_eq order hlength,
        or_false]
      by_cases hdouble : i.size = .double
      · rw [if_pos hdouble, if_pos hdouble]
        rfl
      · rw [if_neg hdouble, if_neg hdouble, advanced_eq hd h]

theorem stepJump_eq (h : s.position + 32768 < 9223372036854775808) (wide : Bool) :
    stepJump s i wide = some (Machine.stepJump s i dst src wide) := by
  cases hop : i.jumpOp? with
  | none =>
    simp only [stepJump, Machine.stepJump, hop]
    rfl
  | some op =>
    by_cases hexit : op = .exit
    · subst hexit
      simp only [stepJump, Machine.stepJump, hop]
      rfl
    · have hstrict : stepJump s i wide = (do
          let right ← operand s i (extended i.imm)
          let left ← read s.registers i.dst
          match compares op left right wide with
          | none => return .fault (.unsupported s.position i.code)
          | some taken => jumpTo s i taken) := by
        cases op <;> first | exact absurd rfl hexit | simp only [stepJump, hop]
      rw [hstrict, Machine.stepJump_eq hop hexit, operand_eq hr, read_eq hd]
      simp only [Option.bind_eq_bind, Option.bind_some]
      rw [← jumpOperand]
      cases compares op (s.registers.get dst) (jumpOperand s i src) wide with
      | none => rfl
      | some taken => exact jumpTo_eq h taken

end

/-- As long as the position has room for a branch, a step does not stop. -/
theorem step_eq {order : ByteOrder} {context : List UInt8} {code : Array Instruction} {s : State}
    (hcontext : context.length = contextSize) (h : s.position + 32768 < 9223372036854775808) :
    step order context code s = some (Machine.step order context code s) := by
  have hone : s.position + 1 < 18446744073709551616 := by omega
  have htwo : s.position + 2 < 18446744073709551616 := by omega
  unfold step Machine.step
  cases code[s.position]? with
  | none => rfl
  | some i =>
    dsimp only
    cases hd : register? i.dst with
    | none => exact if_pos (.inl (le_of_register?_eq_none hd))
    | some dst =>
      cases hr : register? i.src with
      | none => exact if_pos (.inr (le_of_register?_eq_none hr))
      | some src =>
        have hguard : ¬ (registerCount ≤ i.dst.toNat ∨ registerCount ≤ i.src.toNat) := by
          have hdst := (lt_of_register? hd).1
          have hsrc := (lt_of_register? hr).1
          omega
        rw [if_neg hguard]
        cases i.opClass with
        | alu32 | alu64 => exact stepAlu_eq hd hr hone _
        | jump | jump32 => exact stepJump_eq hd hr h _
        | loadContext =>
          dsimp only
          split
          · exact stepLoad_eq hd hr hone order hcontext
          · rfl
        | load =>
          dsimp only
          split
          · exact stepWideLoad_eq hd htwo code
          · rfl
        | store | storeRegister => rfl

/-! ## Runs -/

/-- One step carries the position no further than the longest branch. -/
theorem step_position_le {order : ByteOrder} {context : List UInt8} {code : Array Instruction}
    {s s' : State} (h : Machine.step order context code s = .next s') :
    s'.position ≤ s.position + 32768 := by
  obtain ⟨i, -, hmoves⟩ := step_moves h
  generalize s'.position = q at hmoves
  cases hmoves with
  | succ => omega
  | wide => omega
  | branch _ htarget =>
    have hhigh := i.offset.toInt_lt
    rw [Program.branchTarget] at htarget
    omega

theorem runFrom_eq {order : ByteOrder} {context : List UInt8} {code : Array Instruction}
    (hcontext : context.length = contextSize) {fuel : Nat} {s : State}
    (h : s.position + fuel * 32768 < 9223372036854775808) :
    runFrom order context code fuel s = some (Machine.runFrom order context code fuel s) := by
  -- The position may grow with every step, but then there are fewer steps left to come.
  induction fuel generalizing s with
  | zero => rfl
  | succ fuel ih =>
    have hnow : s.position + 32768 < 9223372036854775808 := by omega
    rw [runFrom, step_eq hcontext hnow, Machine.runFrom]
    simp only [Option.bind_eq_bind, Option.bind_some]
    cases hstep : Machine.step order context code s with
    | next s' =>
      have hle := step_position_le hstep
      have hlater : s'.position + fuel * 32768 < 9223372036854775808 := by omega
      exact ih hlater
    | answer value => rfl
    | fault f => rfl

theorem run_eq (order : ByteOrder) (p : Program) (e : Event) :
    run order p e = some (p.runOn order e) := by
  have hroom : initial.position + stepLimit * 32768 < 9223372036854775808 := by decide
  rw [run, context_eq]
  exact runFrom_eq (e.length_context order) hroom

end Strict
end Machine
end DeviceFilter

import DeviceFilter.Bytes.Order
import DeviceFilter.Instruction.Basic
import DeviceFilter.Rule.Basic

/-!
The machine that filter programs run on: eleven 64-bit registers, no stack, no calls, and one
readable record of twelve bytes, the event. Register 1 holds the record's address at the start and
register 0 the answer at the end. A run is a bounded sequence of single steps; each step goes on,
answers, or names the fault that ends the run.
-/
set_option autoImplicit false

namespace DeviceFilter

namespace Machine

/-- The address at which programs see the event. -/
def contextBase : UInt64 := 0x10000000

/-- Bytes in the event record. -/
def contextSize : Nat := 12

def registerCount : Nat := 11

/-- A program that takes more steps than this does not end. -/
def stepLimit : Nat := 1048576

end Machine

inductive Fault where
  | unsupported (position : Nat) (code : UInt8)
  | outOfBounds (position : Nat)
  | badAccess (position : Nat) (address : UInt64)
  | stepLimit
deriving DecidableEq, Repr

def Fault.message : Fault → String
  | unsupported position code =>
    let ds := Nat.toDigits 16 code.toNat
    "unsupported instruction 0x" ++ String.ofList (List.replicate (2 - ds.length) '0' ++ ds)
      ++ " at " ++ toString position
  | outOfBounds position => "fell off program at " ++ toString position
  | badAccess position address =>
    "invalid context load at " ++ toString position ++ " (address 0x"
      ++ String.ofList (Nat.toDigits 16 address.toNat) ++ ")"
  | stepLimit => "step limit of " ++ toString Machine.stepLimit ++ " reached"

namespace Event

/-- The word that holds the type in its low half and the access modes above it. -/
def accessType (e : Event) : UInt32 := (e.access.bits <<< 16) ||| e.type.number

/-- The record a program reads: access and type, major, minor. -/
def context (order : ByteOrder) (e : Event) : List UInt8 :=
  order.bytes 4 e.accessType.toNat ++ order.bytes 4 e.major.toNat ++ order.bytes 4 e.minor.toNat

@[simp] theorem length_context (order : ByteOrder) (e : Event) :
    (e.context order).length = Machine.contextSize := by
  simp [context, Machine.contextSize]

end Event

namespace Machine

abbrev Registers := Vector UInt64 registerCount

structure State where
  position : Nat
  registers : Registers

/-- All registers zero but the address of the event. -/
def initial : State where
  position := 0
  registers := (Vector.replicate registerCount 0).set 1 contextBase

inductive Outcome where
  | next (s : State)
  | answer (value : UInt64)
  | fault (f : Fault)

/-- The low 32 bits, as a 64-bit number. -/
def low32 (x : UInt64) : UInt64 := x.toUInt32.toUInt64

/-- Arithmetic on operands already cut to the width; the caller cuts the result. Division by zero
is zero and the remainder of it the dividend; shifts use the low bits of their amount. -/
def arithmetic (op : AluOp) (a b : UInt64) (wide : Bool) : UInt64 :=
  let amount := if wide then b &&& 63 else b &&& 31
  match op with
  | .add => a + b
  | .sub => a - b
  | .mul => a * b
  | .div => a / b
  | .mod => a % b
  | .or => a ||| b
  | .and => a &&& b
  | .xor => a ^^^ b
  | .lsh => a <<< amount
  | .rsh => a >>> amount
  | .arsh =>
    if wide then (a.toInt64 >>> amount.toInt64).toUInt64
    else (a.toUInt32.toInt32 >>> amount.toUInt32.toInt32).toUInt32.toUInt64
  | .neg => 0 - a
  | .mov => b

/-- Whether a branch is taken, comparing all 64 bits or the low 32. Calls and returns are no
comparisons. -/
def compares (op : JumpOp) (a b : UInt64) (wide : Bool) : Option Bool :=
  let x := if wide then a else low32 a
  let y := if wide then b else low32 b
  let sx := if wide then a.toInt64 else a.toUInt32.toInt32.toInt64
  let sy := if wide then b.toInt64 else b.toUInt32.toInt32.toInt64
  match op with
  | .always => some true
  | .eq => some (x == y)
  | .ne => some (x != y)
  | .gt => some (decide (y < x))
  | .ge => some (decide (y ≤ x))
  | .lt => some (decide (x < y))
  | .le => some (decide (x ≤ y))
  | .set => some (x &&& y != 0)
  | .sgt => some (decide (sy < sx))
  | .sge => some (decide (sy ≤ sx))
  | .slt => some (decide (sx < sy))
  | .sle => some (decide (sx ≤ sy))
  | .call => none
  | .exit => none

/-- A register by its number, if the machine has it. -/
def register? (n : UInt8) : Option (Fin registerCount) :=
  if h : n.toNat < registerCount then some ⟨n.toNat, h⟩ else none

/-- An immediate operand, its sign extended to 64 bits. -/
def extended (imm : Int32) : UInt64 := imm.toInt64.toUInt64

/-- An immediate operand as an unsigned number of 32 bits. -/
def unsigned (imm : Int32) : UInt64 := imm.toUInt32.toUInt64

def State.write (s : State) (r : Fin registerCount) (value : UInt64) (advance : Nat) : State where
  position := s.position + advance
  registers := s.registers.set r value

section
variable (s : State) (i : Instruction) (dst src : Fin registerCount)

def stepAlu (wide : Bool) : Outcome :=
  match i.aluOp? with
  | none => .fault (.unsupported s.position i.code)
  | some op =>
    let operand :=
      if i.usesRegister then s.registers[src] else if wide then extended i.imm else unsigned i.imm
    if wide then .next (s.write dst (arithmetic op s.registers[dst] operand true) 1)
    else
      .next (s.write dst
        (low32 (arithmetic op (low32 s.registers[dst]) (low32 operand) false)) 1)

/-- A load of one, two or four bytes that lie within the event. -/
def stepLoad (order : ByteOrder) (context : List UInt8) : Outcome :=
  let address := s.registers[src] + i.offset.toInt64.toUInt64
  let width := i.size.width
  let offset := (address - contextBase).toNat
  if address < contextBase ∨ contextSize < offset + width then
    .fault (.badAccess s.position address)
  else if i.size = .double then .fault (.unsupported s.position i.code)
  else
    let value := order.value ((context.drop offset).take width)
    .next (s.write dst (UInt64.ofNat value) 1)

/-- A load of the immediates of two records. -/
def stepWideLoad (code : Array Instruction) : Outcome :=
  match code[s.position + 1]? with
  | none => .fault (.outOfBounds (s.position + 1))
  | some high =>
    .next (s.write dst ((unsigned high.imm <<< 32) ||| unsigned i.imm) 2)

def stepJump (wide : Bool) : Outcome :=
  match i.jumpOp? with
  | some .exit => .answer s.registers[0]
  | some op =>
    let operand := if i.usesRegister then s.registers[src] else extended i.imm
    match compares op s.registers[dst] operand wide with
    | none => .fault (.unsupported s.position i.code)
    | some taken =>
      let target : Int := (s.position : Int) + 1 + (if taken then i.offset.toInt else 0)
      if target < 0 then .fault (.outOfBounds s.position)
      else .next { s with position := target.toNat }
  | none => .fault (.unsupported s.position i.code)

end

/-- One step of the program `code` on an event record laid out in `order`. -/
def step (order : ByteOrder) (context : List UInt8) (code : Array Instruction) (s : State) :
    Outcome :=
  match code[s.position]? with
  | none => .fault (.outOfBounds s.position)
  | some i =>
    match register? i.dst, register? i.src with
    | some dst, some src =>
      match i.opClass with
      | .alu32 => stepAlu s i dst src false
      | .alu64 => stepAlu s i dst src true
      | .jump => stepJump s i dst src true
      | .jump32 => stepJump s i dst src false
      | .loadContext =>
        if i.modeBits = Instruction.memoryMode then stepLoad s i dst src order context
        else .fault (.unsupported s.position i.code)
      | .load =>
        if i.isWideLoad then stepWideLoad s i dst code
        else .fault (.unsupported s.position i.code)
      | .store => .fault (.unsupported s.position i.code)
      | .storeRegister => .fault (.unsupported s.position i.code)
    | _, _ => .fault (.unsupported s.position i.code)

/-- At most `fuel` steps from `s`. -/
def runFrom (order : ByteOrder) (context : List UInt8) (code : Array Instruction) :
    Nat → State → Except Fault UInt64
  | 0, _ => .error .stepLimit
  | fuel + 1, s =>
    match step order context code s with
    | .next s' => runFrom order context code fuel s'
    | .answer value => .ok value
    | .fault f => .error f

end Machine

namespace Program

/-- The answer of a program to an event on a host of the given byte order. -/
def runOn (order : ByteOrder) (p : Program) (e : Event) : Except Fault UInt64 :=
  Machine.runFrom order (e.context order) p.toArray Machine.stepLimit Machine.initial

def run (p : Program) (e : Event) : Except Fault UInt64 := p.runOn .native e

/-- A program allows what it does not answer with zero. -/
def allows (p : Program) (e : Event) : Except Fault Bool := (p.run e).map (· != 0)

end Program

end DeviceFilter

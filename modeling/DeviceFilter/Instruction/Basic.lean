/-!
Filter instructions. A record has an operation code, two register numbers, a branch or memory
offset and an immediate operand. The code is a bit field: its low three bits are the class, and the
others mean an operation and operand source, or a mode and size, as the class has it.

A load of a 64-bit immediate takes two records; they stay two here, so that offsets count records.
-/
set_option autoImplicit false

namespace DeviceFilter

structure Instruction where
  code : UInt8
  dst : UInt8
  src : UInt8
  offset : Int16
  imm : Int32
deriving DecidableEq, Repr, Inhabited

abbrev Program := List Instruction

inductive InstructionClass where
  | load
  | loadContext
  | store
  | storeRegister
  | alu32
  | jump
  | jump32
  | alu64
deriving DecidableEq, Repr

inductive AluOp where
  | add | sub | mul | div | or | and | lsh | rsh | neg | mod | xor | mov | arsh
deriving DecidableEq, Repr

inductive JumpOp where
  | always | eq | gt | ge | set | ne | sgt | sge | call | exit | lt | le | slt | sle
deriving DecidableEq, Repr

/-- Width of a memory access in bytes. -/
inductive AccessSize where
  | word
  | half
  | byte
  | double
deriving DecidableEq, Repr

namespace AluOp

/-- The operation in the four high bits of a code. -/
def ofBits? : UInt8 → Option AluOp
  | 0x00 => some add
  | 0x10 => some sub
  | 0x20 => some mul
  | 0x30 => some div
  | 0x40 => some or
  | 0x50 => some and
  | 0x60 => some lsh
  | 0x70 => some rsh
  | 0x80 => some neg
  | 0x90 => some mod
  | 0xA0 => some xor
  | 0xB0 => some mov
  | 0xC0 => some arsh
  | _ => none

def bits : AluOp → UInt8
  | add => 0x00
  | sub => 0x10
  | mul => 0x20
  | div => 0x30
  | or => 0x40
  | and => 0x50
  | lsh => 0x60
  | rsh => 0x70
  | neg => 0x80
  | mod => 0x90
  | xor => 0xA0
  | mov => 0xB0
  | arsh => 0xC0

end AluOp

namespace JumpOp

def ofBits? : UInt8 → Option JumpOp
  | 0x00 => some always
  | 0x10 => some eq
  | 0x20 => some gt
  | 0x30 => some ge
  | 0x40 => some set
  | 0x50 => some ne
  | 0x60 => some sgt
  | 0x70 => some sge
  | 0x80 => some call
  | 0x90 => some exit
  | 0xA0 => some lt
  | 0xB0 => some le
  | 0xC0 => some slt
  | 0xD0 => some sle
  | _ => none

def bits : JumpOp → UInt8
  | always => 0x00
  | eq => 0x10
  | gt => 0x20
  | ge => 0x30
  | set => 0x40
  | ne => 0x50
  | sgt => 0x60
  | sge => 0x70
  | call => 0x80
  | exit => 0x90
  | lt => 0xA0
  | le => 0xB0
  | slt => 0xC0
  | sle => 0xD0

end JumpOp

namespace AccessSize

def ofBits (b : UInt8) : AccessSize :=
  if b = 0x00 then word else if b = 0x08 then half else if b = 0x10 then byte else double

def bits : AccessSize → UInt8
  | word => 0x00
  | half => 0x08
  | byte => 0x10
  | double => 0x18

def width : AccessSize → Nat
  | word => 4
  | half => 2
  | byte => 1
  | double => 8

end AccessSize

namespace InstructionClass

def ofBits (b : UInt8) : InstructionClass :=
  match b with
  | 0 => load
  | 1 => loadContext
  | 2 => store
  | 3 => storeRegister
  | 4 => alu32
  | 5 => jump
  | 6 => jump32
  | _ => alu64

def bits : InstructionClass → UInt8
  | load => 0
  | loadContext => 1
  | store => 2
  | storeRegister => 3
  | alu32 => 4
  | jump => 5
  | jump32 => 6
  | alu64 => 7

end InstructionClass

namespace Instruction

def classBits (i : Instruction) : UInt8 := i.code &&& 0x07

def opBits (i : Instruction) : UInt8 := i.code &&& 0xF0

def sourceBits (i : Instruction) : UInt8 := i.code &&& 0x08

def sizeBits (i : Instruction) : UInt8 := i.code &&& 0x18

def modeBits (i : Instruction) : UInt8 := i.code &&& 0xE0

def opClass (i : Instruction) : InstructionClass := InstructionClass.ofBits i.classBits

def aluOp? (i : Instruction) : Option AluOp := AluOp.ofBits? i.opBits

def jumpOp? (i : Instruction) : Option JumpOp := JumpOp.ofBits? i.opBits

def size (i : Instruction) : AccessSize := AccessSize.ofBits i.sizeBits

/-- Whether the second operand is a register and not the immediate. -/
def usesRegister (i : Instruction) : Bool := i.sourceBits == 0x08

/-- The mode of loads from memory at a register plus an offset. -/
def memoryMode : UInt8 := 0x60

/-- Whether the offset points at another record; calls and returns use none, and operations that
the machine does not know count as branches. -/
def isJump (i : Instruction) : Bool :=
  (i.opClass == .jump || i.opClass == .jump32)
    && i.opBits != JumpOp.call.bits && i.opBits != JumpOp.exit.bits

/-- The first record of a 64-bit immediate load. -/
def isWideLoad (i : Instruction) : Bool := i.code == 0x18

/-! ## The forms that filters are built from -/

def loadFrom (size : AccessSize) (dst src : UInt8) (offset : Int16) : Instruction :=
  ⟨InstructionClass.loadContext.bits ||| memoryMode ||| size.bits, dst, src, offset, 0⟩

def loadWord (dst src : UInt8) (offset : Int16) : Instruction := loadFrom .word dst src offset

def loadHalf (dst src : UInt8) (offset : Int16) : Instruction := loadFrom .half dst src offset

def alu32Imm (op : AluOp) (dst : UInt8) (imm : Int32) : Instruction :=
  ⟨InstructionClass.alu32.bits ||| op.bits, dst, 0, 0, imm⟩

def mov32Imm (dst : UInt8) (imm : Int32) : Instruction := alu32Imm .mov dst imm

def mov32Reg (dst src : UInt8) : Instruction :=
  ⟨InstructionClass.alu32.bits ||| AluOp.mov.bits ||| 0x08, dst, src, 0, 0⟩

def and32Imm (dst : UInt8) (imm : Int32) : Instruction := alu32Imm .and dst imm

def rsh32Imm (dst : UInt8) (imm : Int32) : Instruction := alu32Imm .rsh dst imm

def jumpNeImm (dst : UInt8) (imm : Int32) (offset : Int16) : Instruction :=
  ⟨InstructionClass.jump.bits ||| JumpOp.ne.bits, dst, 0, offset, imm⟩

/-- Compares the low 32 bits. -/
def jumpNe32Imm (dst : UInt8) (imm : Int32) (offset : Int16) : Instruction :=
  ⟨InstructionClass.jump32.bits ||| JumpOp.ne.bits, dst, 0, offset, imm⟩

def jumpNeReg (dst src : UInt8) (offset : Int16) : Instruction :=
  ⟨InstructionClass.jump.bits ||| JumpOp.ne.bits ||| 0x08, dst, src, offset, 0⟩

def jumpAlways (offset : Int16) : Instruction :=
  ⟨InstructionClass.jump.bits ||| JumpOp.always.bits, 0, 0, offset, 0⟩

/-- Ends the program with register 0 as its answer. -/
def exit : Instruction := ⟨InstructionClass.jump.bits ||| JumpOp.exit.bits, 0, 0, 0, 0⟩

end Instruction

end DeviceFilter

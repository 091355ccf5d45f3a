import DeviceFilter.Instruction.Basic
import DeviceFilter.Text.Quoted

/-!
Instructions as text: a mnemonic, then operands with registers as `r0`, memory as `[r1+4]` and
branch offsets with their sign. Codes that name nothing are shown as numbers.
-/
set_option autoImplicit false

namespace DeviceFilter

def AluOp.mnemonic : AluOp → String
  | add => "add"
  | sub => "sub"
  | mul => "mul"
  | div => "div"
  | or => "or"
  | and => "and"
  | lsh => "lsh"
  | rsh => "rsh"
  | neg => "neg"
  | mod => "mod"
  | xor => "xor"
  | mov => "mov"
  | arsh => "arsh"

def JumpOp.mnemonic : JumpOp → String
  | always => "ja"
  | eq => "jeq"
  | gt => "jgt"
  | ge => "jge"
  | set => "jset"
  | ne => "jne"
  | sgt => "jsgt"
  | sge => "jsge"
  | call => "call"
  | exit => "exit"
  | lt => "jlt"
  | le => "jle"
  | slt => "jslt"
  | sle => "jsle"

def AccessSize.mnemonic : AccessSize → String
  | word => "w"
  | half => "h"
  | byte => "b"
  | double => "dw"

namespace Instruction

def registerName (n : UInt8) : String := "r" ++ toString n.toNat

/-- An offset with its sign, zero as `+0`. -/
def signed (n : Int) : String := if n < 0 then toString n else "+" ++ toString n

/-- Hexadecimal with at least `width` digits. -/
def hex (width n : Nat) : String :=
  let ds := Text.hexDigits n
  "0x" ++ String.ofList (List.replicate (width - ds.length) '0' ++ ds)

def memory (register : UInt8) (offset : Int16) : String :=
  "[" ++ registerName register ++ signed offset.toInt ++ "]"

/-- The second operand of an arithmetic or branch instruction. -/
def operandText (i : Instruction) : String :=
  if i.usesRegister then registerName i.src else toString i.imm.toInt

def aluText (i : Instruction) (width : String) : String :=
  let name := (i.aluOp?.map AluOp.mnemonic).getD "alu?" ++ width ++ " " ++ registerName i.dst
  if i.aluOp? = some .neg then name else name ++ ", " ++ operandText i

def jumpText (i : Instruction) (width : String) : String :=
  match i.jumpOp? with
  | some .exit => "exit"
  | some .call => "call " ++ toString i.imm.toInt
  | some .always => "ja " ++ signed i.offset.toInt
  | op =>
    (op.map JumpOp.mnemonic).getD "jmp?" ++ width ++ " " ++ registerName i.dst ++ ", "
      ++ operandText i ++ ", " ++ signed i.offset.toInt

def toText (i : Instruction) : String :=
  match i.opClass with
  | .alu32 => i.aluText "32"
  | .alu64 => i.aluText ""
  | .jump => i.jumpText ""
  | .jump32 => i.jumpText "32"
  | .loadContext =>
    "ldx" ++ i.size.mnemonic ++ " " ++ registerName i.dst ++ ", " ++ memory i.src i.offset
  | .storeRegister =>
    "stx" ++ i.size.mnemonic ++ " " ++ memory i.dst i.offset ++ ", " ++ registerName i.src
  | .store =>
    "st" ++ i.size.mnemonic ++ " " ++ memory i.dst i.offset ++ ", " ++ toString i.imm.toInt
  | .load =>
    if i.isWideLoad then
      "lddw " ++ registerName i.dst ++ ", " ++ hex 1 i.imm.toUInt32.toNat ++ " (lo)"
    else if i.code = 0 then "(imm hi " ++ hex 1 i.imm.toUInt32.toNat ++ ")"
    else "(code " ++ hex 2 i.code.toNat ++ ")"

end Instruction

end DeviceFilter

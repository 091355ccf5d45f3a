import DeviceFilter.Bytes.Order
import DeviceFilter.Instruction.Basic

/-!
The eight-byte record of an instruction: code, register pair, offset, immediate. Words follow the
byte order, and so do the two halves of the register byte: the target register is the low half on
little-endian hosts and the high half on big-endian ones. Register numbers keep their low four bits.
-/
set_option autoImplicit false

namespace DeviceFilter

/-- A buffer that is no whole number of records. -/
structure Truncated where
  decoded : Nat
  leftover : Nat
deriving DecidableEq, Repr

def Truncated.message (e : Truncated) : String :=
  "instruction buffer has " ++ toString e.leftover ++ " trailing bytes after "
    ++ toString e.decoded ++ " records"

namespace Instruction

def registerByte (order : ByteOrder) (dst src : UInt8) : UInt8 :=
  match order with
  | .little => (src <<< 4) ||| (dst &&& 0x0F)
  | .big => (dst <<< 4) ||| (src &&& 0x0F)

def dstOf (order : ByteOrder) (registers : UInt8) : UInt8 :=
  match order with
  | .little => registers &&& 0x0F
  | .big => registers >>> 4

def srcOf (order : ByteOrder) (registers : UInt8) : UInt8 :=
  match order with
  | .little => registers >>> 4
  | .big => registers &&& 0x0F

def encode (order : ByteOrder) (i : Instruction) : List UInt8 :=
  i.code :: registerByte order i.dst i.src
    :: (order.bytes 2 i.offset.toUInt16.toNat ++ order.bytes 4 i.imm.toUInt32.toNat)

/-- The instruction of one record; `offset` and `imm` are its bytes 2 to 3 and 4 to 7. -/
def ofFields (order : ByteOrder) (code registers : UInt8) (offset imm : List UInt8) :
    Instruction where
  code := code
  dst := dstOf order registers
  src := srcOf order registers
  offset := (UInt16.ofNat (order.value offset)).toInt16
  imm := (UInt32.ofNat (order.value imm)).toInt32

@[simp] theorem length_encode (order : ByteOrder) (i : Instruction) :
    (i.encode order).length = 8 := by
  simp [encode]

end Instruction

namespace Program

def encode (order : ByteOrder) (p : Program) : List UInt8 := p.flatMap (·.encode order)

/-- The whole records at the front of a buffer. -/
def records (order : ByteOrder) : List UInt8 → Program
  | b0 :: b1 :: b2 :: b3 :: b4 :: b5 :: b6 :: b7 :: rest =>
    Instruction.ofFields order b0 b1 [b2, b3] [b4, b5, b6, b7] :: records order rest
  | _ => []

def decode (order : ByteOrder) (bytes : List UInt8) : Except Truncated Program :=
  if bytes.length % 8 = 0 then .ok (records order bytes)
  else .error ⟨bytes.length / 8, bytes.length % 8⟩

@[simp] theorem length_encode (order : ByteOrder) (p : Program) :
    (p.encode order).length = 8 * p.length := by
  induction p with
  | nil => rfl
  | cons i p ih =>
    simp only [encode, List.flatMap_cons, List.length_append, List.length_cons,
      Instruction.length_encode] at *
    omega

end Program

end DeviceFilter

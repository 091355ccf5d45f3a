/-!
Byte orders and fixed-width words. One encoder by width serves every word: the bytes of a number
least significant first, or the reverse of them. Reading is the inverse on numbers that fit, and
writing is the inverse on byte lists of the right length, so nothing is lost in either direction.
-/
set_option autoImplicit false

namespace DeviceFilter

inductive ByteOrder where
  | little
  | big
deriving DecidableEq, Repr, Inhabited

/-- The `width` low bytes of `n`, least significant first. -/
def lowBytes : Nat → Nat → List UInt8
  | 0, _ => []
  | width + 1, n => UInt8.ofNat n :: lowBytes width (n / 256)

/-- The number whose bytes, least significant first, are given. -/
def ofLowBytes : List UInt8 → Nat
  | [] => 0
  | b :: bs => b.toNat + 256 * ofLowBytes bs

@[simp] theorem length_lowBytes (width n : Nat) : (lowBytes width n).length = width := by
  induction width generalizing n with
  | zero => rfl
  | succ width ih => simp [lowBytes, ih]

theorem lowBytes_ofLowBytes (bs : List UInt8) : lowBytes bs.length (ofLowBytes bs) = bs := by
  induction bs with
  | nil => rfl
  | cons b bs ih =>
    have hb : b.toNat < 256 := b.toNat_lt
    have hq : (b.toNat + 256 * ofLowBytes bs) / 256 = ofLowBytes bs := by omega
    have hr : UInt8.ofNat (b.toNat + 256 * ofLowBytes bs) = b := by
      apply UInt8.toNat_inj.mp
      simp only [UInt8.toNat_ofNat']
      omega
    simp [lowBytes, ofLowBytes, hq, hr, ih]

namespace ByteOrder

/-- The order of the host, in which the kernel lays out every record it exchanges. -/
def native : ByteOrder := .little

/-- The `width` low bytes of `n` as they lie in memory. -/
def bytes (order : ByteOrder) (width n : Nat) : List UInt8 :=
  match order with
  | .little => lowBytes width n
  | .big => (lowBytes width n).reverse

/-- The number that lies in memory as `bs`. -/
def value (order : ByteOrder) (bs : List UInt8) : Nat :=
  match order with
  | .little => ofLowBytes bs
  | .big => ofLowBytes bs.reverse

@[simp] theorem length_bytes (order : ByteOrder) (width n : Nat) :
    (order.bytes width n).length = width := by
  cases order <;> simp [bytes]

theorem bytes_value (order : ByteOrder) (bs : List UInt8) :
    order.bytes bs.length (order.value bs) = bs := by
  cases order with
  | little => exact lowBytes_ofLowBytes bs
  | big =>
    have h := lowBytes_ofLowBytes bs.reverse
    rw [List.length_reverse] at h
    simp [bytes, value, h]

/-- The order in which a host stores `0x00FF`, seen from the two bytes it stores. -/
def ofProbe : List UInt8 → Option ByteOrder
  | [0xFF, 0x00] => some .little
  | [0x00, 0xFF] => some .big
  | _ => none

theorem ofProbe_bytes (order : ByteOrder) : ofProbe (order.bytes 2 0x00FF) = some order := by
  cases order <;> rfl

end ByteOrder

end DeviceFilter

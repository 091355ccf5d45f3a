import DeviceFilter.Bytes.Order
import Mathlib.Algebra.Ring.Nat

/-!
The numbers that byte lists of a given length hold: those below a power of 256, and a number that is
written and read back is reduced by that power. Zero bytes behind a text do not change where it ends.
-/
set_option autoImplicit false

namespace DeviceFilter

theorem ofLowBytes_lowBytes (width n : Nat) : ofLowBytes (lowBytes width n) = n % 256 ^ width := by
  induction width generalizing n with
  | zero => simp [lowBytes, ofLowBytes, Nat.mod_one]
  | succ width ih =>
    have h : (UInt8.ofNat n).toNat = n % 256 := by simp
    rw [lowBytes, ofLowBytes, ih, h, Nat.pow_succ', Nat.mod_mul]

theorem ofLowBytes_lt (bs : List UInt8) : ofLowBytes bs < 256 ^ bs.length := by
  induction bs with
  | nil => simp [ofLowBytes]
  | cons b bs ih =>
    have hb : b.toNat < 256 := b.toNat_lt
    rw [ofLowBytes, List.length_cons, Nat.pow_succ]
    omega

theorem takeWhile_append_zeros (bytes : List UInt8) (n : Nat) :
    (bytes ++ List.replicate n 0).takeWhile (· != 0) = bytes.takeWhile (· != 0) := by
  induction bytes with
  | nil => rw [List.nil_append, List.takeWhile_replicate]; rfl
  | cons b bytes ih => rw [List.cons_append, List.takeWhile_cons, List.takeWhile_cons, ih]

namespace ByteOrder

theorem value_bytes (order : ByteOrder) (width n : Nat) :
    order.value (order.bytes width n) = n % 256 ^ width := by
  cases order <;> simp [bytes, value, ofLowBytes_lowBytes]

theorem value_lt (order : ByteOrder) (bs : List UInt8) : order.value bs < 256 ^ bs.length := by
  cases order with
  | little => exact ofLowBytes_lt bs
  | big => simpa [value] using ofLowBytes_lt bs.reverse

end ByteOrder

end DeviceFilter

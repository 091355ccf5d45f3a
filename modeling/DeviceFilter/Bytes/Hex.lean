/-!
Bytes in hexadecimal, two lower-case digits each.
-/
set_option autoImplicit false

namespace DeviceFilter.Hex

def digit (n : Nat) : Char := if n < 10 then Char.ofNat (0x30 + n) else Char.ofNat (0x57 + n)

def encode (bytes : List UInt8) : String :=
  String.ofList (bytes.flatMap fun b => [digit (b.toNat / 16), digit (b.toNat % 16)])

end DeviceFilter.Hex

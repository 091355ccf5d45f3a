import DeviceFilter.Text.Utf8

/-!
Names of kernel objects: at most fifteen ASCII letters, digits, underscores and dots, then zero
bytes up to sixteen. Other bytes of a wished name are left out.
-/
set_option autoImplicit false

namespace DeviceFilter.ObjectName

def isAllowed (b : UInt8) : Bool :=
  (0x30 ≤ b && b ≤ 0x39) || (0x41 ≤ b && b ≤ 0x5A) || (0x61 ≤ b && b ≤ 0x7A)
    || b == 0x5F || b == 0x2E

/-- The bytes that a name keeps. -/
def kept (bytes : List UInt8) : List UInt8 := (bytes.filter isAllowed).take 15

def ofBytes (bytes : List UInt8) : Vector UInt8 16 :=
  let name := kept bytes
  Vector.ofFn fun i => name.getD i 0

def ofText (s : String) : Vector UInt8 16 := ofBytes (Utf8.encode s.toList)

end DeviceFilter.ObjectName

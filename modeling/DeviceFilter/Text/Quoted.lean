import DeviceFilter.Text.Combining
import DeviceFilter.Text.Unprintable

/-!
Quoted text for messages. A quoted string stands between double quotes and a quoted character
between single ones; only the quote in use is escaped. Characters that would not show, or would
join the character before them, are written by code point.
-/
set_option autoImplicit false

namespace DeviceFilter.Text

/-- Lower-case hexadecimal digits of `n`, without leading zeros. -/
def hexDigits (n : Nat) : List Char := Nat.toDigits 16 n

/-- How `c` is written between two `quote` characters. -/
def escape (quote c : Char) : List Char :=
  match c with
  | '\x00' => ['\\', '0']
  | '\t' => ['\\', 't']
  | '\n' => ['\\', 'n']
  | '\r' => ['\\', 'r']
  | '\\' => ['\\', '\\']
  | c =>
    if c = quote then ['\\', c]
    else if 0x20 ≤ c.toNat ∧ c.toNat < 0x7F then [c]
    else if isCombining c || isUnprintable c then
      ['\\', 'u', Char.ofNat 0x7B] ++ hexDigits c.toNat ++ [Char.ofNat 0x7D]
    else [c]

def quoted (s : String) : String :=
  String.ofList ('"' :: s.toList.flatMap (escape '"') ++ ['"'])

def quotedChar (c : Char) : String :=
  String.ofList ('\x27' :: escape '\x27' c ++ ['\x27'])

end DeviceFilter.Text

/-!
Text as UTF-8 bytes. Encoding is total. Lenient decoding replaces every longest run of bytes that
begins a character without completing it, and every byte that begins none, by U+FFFD; strict
decoding refuses such bytes.
-/
set_option autoImplicit false

namespace DeviceFilter.Utf8

def encodeChar (c : Char) : List UInt8 :=
  let n := c.toNat
  if n < 0x80 then [UInt8.ofNat n]
  else if n < 0x800 then [UInt8.ofNat (0xC0 + n / 64), UInt8.ofNat (0x80 + n % 64)]
  else if n < 0x10000 then
    [UInt8.ofNat (0xE0 + n / 4096), UInt8.ofNat (0x80 + n / 64 % 64), UInt8.ofNat (0x80 + n % 64)]
  else
    [UInt8.ofNat (0xF0 + n / 262144), UInt8.ofNat (0x80 + n / 4096 % 64),
      UInt8.ofNat (0x80 + n / 64 % 64), UInt8.ofNat (0x80 + n % 64)]

def encode (cs : List Char) : List UInt8 := cs.flatMap encodeChar

/-- Number of bytes of a character. -/
def width (c : Char) : Nat :=
  if c.toNat < 0x80 then 1 else if c.toNat < 0x800 then 2 else if c.toNat < 0x10000 then 3 else 4

def isTail (b : UInt8) : Bool := 0x80 ≤ b && b ≤ 0xBF

/-- Whether `second` may follow `first` in a character of three or four bytes. -/
def allowsSecond (first second : UInt8) : Bool :=
  if first = 0xE0 then 0xA0 ≤ second && second ≤ 0xBF
  else if first = 0xED then 0x80 ≤ second && second ≤ 0x9F
  else if first = 0xF0 then 0x90 ≤ second && second ≤ 0xBF
  else if first = 0xF4 then 0x80 ≤ second && second ≤ 0x8F
  else isTail second

/-- The low six bits of a tail byte. -/
def tailBits (b : UInt8) : Nat := b.toNat % 64

/-- Reads one character whose first byte is `first`: the character, or nothing for a run of bytes
that completes none, and how many of the bytes in `rest` belong to it. -/
def decodeFirst (first : UInt8) (rest : List UInt8) : Option Char × Nat :=
  if first < 0x80 then (some (Char.ofNat first.toNat), 0)
  else if 0xC2 ≤ first ∧ first ≤ 0xDF then
    match rest with
    | b :: _ =>
      if isTail b then (some (Char.ofNat (first.toNat % 32 * 64 + tailBits b)), 1) else (none, 0)
    | [] => (none, 0)
  else if 0xE0 ≤ first ∧ first ≤ 0xEF then
    match rest with
    | b :: rest =>
      if !allowsSecond first b then (none, 0)
      else match rest with
        | c :: _ =>
          if isTail c then
            (some (Char.ofNat (first.toNat % 16 * 4096 + tailBits b * 64 + tailBits c)), 2)
          else (none, 1)
        | [] => (none, 1)
    | [] => (none, 0)
  else if 0xF0 ≤ first ∧ first ≤ 0xF4 then
    match rest with
    | b :: rest =>
      if !allowsSecond first b then (none, 0)
      else match rest with
        | c :: rest =>
          if !isTail c then (none, 1)
          else match rest with
            | d :: _ =>
              if isTail d then
                (some (Char.ofNat (first.toNat % 8 * 262144 + tailBits b * 4096 + tailBits c * 64
                  + tailBits d)), 3)
              else (none, 2)
            | [] => (none, 2)
        | [] => (none, 1)
    | [] => (none, 0)
  else (none, 0)

/-- The characters of the bytes, nothing standing for each run that is none. -/
def decodePieces : List UInt8 → List (Option Char)
  | [] => []
  | first :: rest =>
    let (piece, used) := decodeFirst first rest
    piece :: decodePieces (rest.drop used)
termination_by bytes => bytes.length
decreasing_by simp only [List.length_drop, List.length_cons]; omega

/-- The replacement character U+FFFD. -/
def replacement : Char := '\uFFFD'

def decodeLossy (bytes : List UInt8) : List Char :=
  (decodePieces bytes).map (·.getD replacement)

def decode? (bytes : List UInt8) : Option (List Char) :=
  let pieces := decodePieces bytes
  if pieces.all (·.isSome) then some (pieces.map (·.getD replacement)) else none

end DeviceFilter.Utf8

import DeviceFilter.Bytes.Order

/-!
Records of fixed layout, as the kernel reads and writes them: fields one after another without
gaps, then zero bytes up to the record's size. Reading takes missing bytes as zero and ignores
bytes beyond the size.
-/
set_option autoImplicit false

namespace DeviceFilter

inductive FieldKind where
  /-- A number of four bytes. -/
  | word
  /-- A number of eight bytes. -/
  | long
  /-- Bytes in the order in which they lie. -/
  | raw (size : Nat)
  /-- A truth value in the first bit of a bit field of four bytes. -/
  | flag
deriving DecidableEq, Repr

def FieldKind.size : FieldKind → Nat
  | word => 4
  | long => 8
  | raw size => size
  | flag => 4

/-- A field of a record: its bytes, and the change that reading its bytes makes. -/
structure LayoutField (σ : Type) where
  name : String
  kind : FieldKind
  encode : ByteOrder → σ → List UInt8
  store : ByteOrder → List UInt8 → σ → σ

namespace LayoutField

variable {σ : Type}

def size (f : LayoutField σ) : Nat := f.kind.size

def word (name : String) (get : σ → UInt32) (set : UInt32 → σ → σ) : LayoutField σ where
  name := name
  kind := .word
  encode order a := order.bytes 4 (get a).toNat
  store order bs := set (UInt32.ofNat (order.value bs))

def long (name : String) (get : σ → UInt64) (set : UInt64 → σ → σ) : LayoutField σ where
  name := name
  kind := .long
  encode order a := order.bytes 8 (get a).toNat
  store order bs := set (UInt64.ofNat (order.value bs))

def raw (name : String) (n : Nat) (get : σ → Vector UInt8 n) (set : Vector UInt8 n → σ → σ) :
    LayoutField σ where
  name := name
  kind := .raw n
  encode _ a := (get a).toList
  store _ bs := set (Vector.ofFn fun i => bs.getD i 0)

/-- The first bit of a bit field: the lowest on little-endian hosts, the highest on big-endian
ones. -/
def firstBit (order : ByteOrder) : UInt32 :=
  match order with
  | .little => 1
  | .big => 0x80000000

def flag (name : String) (get : σ → Bool) (set : Bool → σ → σ) : LayoutField σ where
  name := name
  kind := .flag
  encode order a := order.bytes 4 (if get a then firstBit order else 0).toNat
  store order bs := set (UInt32.ofNat (order.value bs) &&& firstBit order != 0)

end LayoutField

structure Layout (σ : Type) where
  fields : List (LayoutField σ)
  size : Nat

namespace Layout

variable {σ : Type}

/-- Cut or extended with zero bytes to the given size. -/
def fit (size : Nat) (bytes : List UInt8) : List UInt8 :=
  bytes.take size ++ List.replicate (size - bytes.length) 0

@[simp] theorem length_fit (size : Nat) (bytes : List UInt8) : (fit size bytes).length = size := by
  simp only [fit, List.length_append, List.length_take, List.length_replicate]
  omega

def pack (l : Layout σ) (order : ByteOrder) (a : σ) : List UInt8 :=
  fit l.size (l.fields.flatMap (·.encode order a))

/-- Reads fields one after another. -/
def readFields (order : ByteOrder) : List (LayoutField σ) → List UInt8 → σ → σ
  | [], _, a => a
  | f :: fs, bytes, a =>
    readFields order fs (bytes.drop f.size) (f.store order (bytes.take f.size) a)

/-- Reads a record; `blank` gives the parts that are not in the layout. -/
def unpack (l : Layout σ) (order : ByteOrder) (blank : σ) (bytes : List UInt8) : σ :=
  readFields order l.fields (fit l.size bytes) blank

@[simp] theorem length_pack (l : Layout σ) (order : ByteOrder) (a : σ) :
    (l.pack order a).length = l.size := by
  simp [pack]

/-- Where the field number `k` begins. -/
def start (l : Layout σ) (k : Nat) : Nat := (l.fields.take k).foldr (fun f n => f.size + n) 0

end Layout

end DeviceFilter

import DeviceFilter.Procfs.MountEntry
import Mathlib.Data.UInt

/-!
Octal escapes undone. Three octal digits can write any byte, so escaped bytes come back, whether
they are text or not. A backslash that begins no escape stays, also where the bytes end before its
digits would.

`Cursor` goes through the bytes by index instead, tests every index before it reads there, and
counts its rounds. It comes to the same bytes without ever reading behind the last one.
-/
set_option autoImplicit false

namespace DeviceFilter.Octal

variable {b value : UInt8} {bytes rest : List UInt8}

/-! ## Digits -/

theorem digit?_of_toNat {d : UInt8} {n : Nat} (hn : n < 8) (h : d.toNat = 0x30 + n) :
    digit? d = some n := by
  have hlow : 0x30 ≤ d := by
    apply UInt8.le_iff_toNat_le.mpr
    rw [h]
    exact Nat.le_add_right _ _
  have hhigh : d ≤ 0x37 := by
    apply UInt8.le_iff_toNat_le.mpr
    rw [h]
    exact Nat.add_le_add_left (Nat.le_of_lt_succ hn) _
  rw [digit?, if_pos ⟨hlow, hhigh⟩, h, Nat.add_sub_cancel_left]

theorem escape?_digits (b : UInt8) (rest : List UInt8) :
    escape? ((0x30 + b / 64) :: (0x30 + b / 8 % 8) :: (0x30 + b % 8) :: rest)
      = some (b, rest) := by
  have hb := b.toNat_lt
  have hfirst : digit? (0x30 + b / 64) = some (b.toNat / 64) := by
    apply digit?_of_toNat (by omega)
    simp only [UInt8.toNat_add, UInt8.toNat_div, UInt8.reduceToNat]
    omega
  have hsecond : digit? (0x30 + b / 8 % 8) = some (b.toNat / 8 % 8) := by
    apply digit?_of_toNat (by omega)
    simp only [UInt8.toNat_add, UInt8.toNat_div, UInt8.toNat_mod, UInt8.reduceToNat]
    omega
  have hthird : digit? (0x30 + b % 8) = some (b.toNat % 8) := by
    apply digit?_of_toNat (by omega)
    simp only [UInt8.toNat_add, UInt8.toNat_mod, UInt8.reduceToNat]
    omega
  have hvalue : b.toNat / 64 * 64 + b.toNat / 8 % 8 * 8 + b.toNat % 8 = b.toNat := by omega
  simp only [escape?, hfirst, hsecond, hthird, hvalue]
  rw [if_pos hb, UInt8.ofNat_toNat]

/-- Whether an escape begins is settled by the three bytes behind the backslash. -/
theorem escape?_three (x y z : UInt8) (rest : List UInt8) :
    escape? (x :: y :: z :: rest) = (escape? [x, y, z]).map fun found => (found.1, rest) := by
  simp only [escape?]
  split
  · split
    · rfl
    · rfl
  · rfl

theorem escape?_of_short (h : bytes.length < 3) : escape? bytes = none := by
  unfold escape?
  split
  · simp only [List.length_cons] at h
    omega
  · rfl

/-! ## Undoing -/

theorem unescape_of_ne (h : b ≠ 0x5C) : unescape (b :: bytes) = b :: unescape bytes := by
  rw [unescape, if_neg h]

theorem unescape_of_some (h : escape? bytes = some (value, rest)) :
    unescape (0x5C :: bytes) = value :: unescape rest := by
  rw [unescape, if_pos rfl]
  split
  · rename_i hread
    rw [h] at hread
    cases hread
    rfl
  · rename_i hread
    rw [h] at hread
    cases hread

theorem unescape_of_none (h : escape? bytes = none) :
    unescape (0x5C :: bytes) = 0x5C :: unescape bytes := by
  rw [unescape, if_pos rfl]
  split
  · rename_i hread
    rw [h] at hread
    cases hread
  · rfl

/-- The bytes that are escaped: space, tab, line feed and backslash. -/
def Special (b : UInt8) : Prop := b = 0x20 ∨ b = 0x09 ∨ b = 0x0A ∨ b = 0x5C

theorem escape_append (front bytes : List UInt8) :
    escape (front ++ bytes) = escape front ++ escape bytes :=
  List.flatMap_append

theorem escape_cons_of_special (h : Special b) (bytes : List UInt8) :
    escape (b :: bytes)
      = 0x5C :: (0x30 + b / 64) :: (0x30 + b / 8 % 8) :: (0x30 + b % 8) :: escape bytes := by
  rw [escape, List.flatMap_cons]
  exact congrArg (· ++ escape bytes) (if_pos h)

theorem escape_cons_of_not_special (h : ¬ Special b) (bytes : List UInt8) :
    escape (b :: bytes) = b :: escape bytes := by
  rw [escape, List.flatMap_cons]
  exact congrArg (· ++ escape bytes) (if_neg h)

theorem escape_of_not_special (h : ∀ b ∈ bytes, ¬ Special b) : escape bytes = bytes := by
  induction bytes with
  | nil => rfl
  | cons b bytes ih =>
    obtain ⟨hb, hbytes⟩ := List.forall_mem_cons.mp h
    rw [escape_cons_of_not_special hb, ih hbytes]

theorem unescape_escape (bytes : List UInt8) : unescape (escape bytes) = bytes := by
  induction bytes with
  | nil => rw [escape, List.flatMap_nil, unescape]
  | cons b bytes ih =>
    by_cases h : Special b
    · rw [escape_cons_of_special h, unescape_of_some (escape?_digits b _), ih]
    · have hne : b ≠ 0x5C := by
        intro hb
        exact h (.inr (.inr (.inr hb)))
      rw [escape_cons_of_not_special h, unescape_of_ne hne, ih]

/-! ## Undoing by index -/

/-- The index of the next byte, and the bytes put out so far. -/
structure Cursor where
  next : Nat
  output : List UInt8

namespace Cursor

/-- Why the loop could end without a result. -/
inductive Stop where
  | outOfRange
  | tooManyRounds

def put (c : Cursor) (b : UInt8) (width : Nat) : Cursor := ⟨c.next + width, c.output ++ [b]⟩

/-- One round, unless it reads behind the last byte. -/
def round? (bytes : List UInt8) (c : Cursor) : Option Cursor := do
  let b ← bytes[c.next]?
  if b = 0x5C ∧ c.next + 4 ≤ bytes.length then
    let x ← bytes[c.next + 1]?
    let y ← bytes[c.next + 2]?
    let z ← bytes[c.next + 3]?
    match escape? [x, y, z] with
    | some (value, _) => return c.put value 4
    | none => return c.put b 1
  else return c.put b 1

def loop (bytes : List UInt8) : Nat → Cursor → Except Stop (List UInt8)
  | 0, c => if c.next < bytes.length then .error .tooManyRounds else .ok c.output
  | rounds + 1, c =>
    if c.next < bytes.length then
      match c.round? bytes with
      | none => .error .outOfRange
      | some c => loop bytes rounds c
    else .ok c.output

/-- The whole loop, which gets as many rounds as there are bytes. -/
def run (bytes : List UInt8) : Except Stop (List UInt8) := loop bytes bytes.length ⟨0, []⟩

variable {c : Cursor}

/-- What has been put out and what the bytes that are left come to. -/
def total (bytes : List UInt8) (c : Cursor) : List UInt8 :=
  c.output ++ unescape (bytes.drop c.next)

theorem total_put {width : Nat}
    (h : unescape (bytes.drop c.next) = b :: unescape (bytes.drop (c.next + width))) :
    (c.put b width).total bytes = c.total bytes := by
  rw [total, total, h, put, List.append_assoc, List.singleton_append]

theorem total_of_end (h : ¬ c.next < bytes.length) : c.total bytes = c.output := by
  rw [total, List.drop_eq_nil_of_le (Nat.le_of_not_lt h), unescape, List.append_nil]

theorem drop_three (h : c.next + 4 ≤ bytes.length) :
    bytes.drop (c.next + 1) = bytes[c.next + 1] :: bytes[c.next + 2] :: bytes[c.next + 3] ::
      bytes.drop (c.next + 4) := by
  have hx : c.next + 1 < bytes.length := by omega
  have hy : c.next + 2 < bytes.length := by omega
  have hz : c.next + 3 < bytes.length := by omega
  rw [List.drop_eq_getElem_cons hx, List.drop_eq_getElem_cons hy, List.drop_eq_getElem_cons hz]

theorem round?_of_ne (hread : bytes[c.next]? = some b) (h : b ≠ 0x5C) :
    c.round? bytes = some (c.put b 1) := by
  simp [round?, hread, h]

/-- The digits of an escape lie inside of the bytes. -/
theorem round?_of_some (hread : bytes[c.next]? = some 0x5C)
    (h : escape? (bytes.drop (c.next + 1)) = some (value, rest)) :
    c.next + 4 ≤ bytes.length ∧ rest = bytes.drop (c.next + 4) ∧
      c.round? bytes = some (c.put value 4) := by
  have hroom : c.next + 4 ≤ bytes.length := by
    by_contra hshort
    rw [escape?_of_short (by rw [List.length_drop]; omega)] at h
    cases h
  have hx : c.next + 1 < bytes.length := by omega
  have hy : c.next + 2 < bytes.length := by omega
  have hz : c.next + 3 < bytes.length := by omega
  rw [drop_three hroom, escape?_three, Option.map_eq_some_iff] at h
  obtain ⟨found, hfound, heq⟩ := h
  cases heq
  exact ⟨hroom, rfl, by simp [round?, hread, hroom, hx, hy, hz, hfound]⟩

theorem round?_of_none (hread : bytes[c.next]? = some 0x5C)
    (h : escape? (bytes.drop (c.next + 1)) = none) : c.round? bytes = some (c.put 0x5C 1) := by
  by_cases hroom : c.next + 4 ≤ bytes.length
  · have hx : c.next + 1 < bytes.length := by omega
    have hy : c.next + 2 < bytes.length := by omega
    have hz : c.next + 3 < bytes.length := by omega
    rw [drop_three hroom, escape?_three, Option.map_eq_none_iff] at h
    simp [round?, hread, hroom, hx, hy, hz, h]
  · simp [round?, hread, hroom]

/-- A round in front of the end goes forward, not past the end, and keeps what the bytes come
to. -/
theorem exists_round (h : c.next < bytes.length) :
    ∃ c', c.round? bytes = some c' ∧ c.next < c'.next ∧ c'.next ≤ bytes.length ∧
      c'.total bytes = c.total bytes := by
  have hread : bytes[c.next]? = some bytes[c.next] := List.getElem?_eq_getElem h
  have hdrop : bytes.drop c.next = bytes[c.next] :: bytes.drop (c.next + 1) :=
    List.drop_eq_getElem_cons h
  by_cases hslash : bytes[c.next] = 0x5C
  · rw [hslash] at hread hdrop
    cases hfound : escape? (bytes.drop (c.next + 1)) with
    | some found =>
      obtain ⟨hroom, hrest, hround⟩ := round?_of_some hread hfound
      refine ⟨_, hround, Nat.lt_add_of_pos_right (by decide), hroom, ?_⟩
      apply total_put
      rw [hdrop, unescape_of_some hfound, hrest]
    | none =>
      refine ⟨_, round?_of_none hread hfound, Nat.lt_add_of_pos_right (by decide), h, ?_⟩
      apply total_put
      rw [hdrop, unescape_of_none hfound]
  · refine ⟨_, round?_of_ne hread hslash, Nat.lt_add_of_pos_right (by decide), h, ?_⟩
    apply total_put
    rw [hdrop, unescape_of_ne hslash]

theorem loop_eq {rounds : Nat} (hnext : c.next ≤ bytes.length)
    (hrounds : bytes.length ≤ c.next + rounds) : loop bytes rounds c = .ok (c.total bytes) := by
  induction rounds generalizing c with
  | zero =>
    have hend : ¬ c.next < bytes.length := by omega
    rw [loop, if_neg hend, total_of_end hend]
  | succ rounds ih =>
    by_cases h : c.next < bytes.length
    · obtain ⟨c', hround, hforward, hinside, htotal⟩ := exists_round h
      rw [loop, if_pos h, hround, ← htotal]
      exact ih hinside (by omega)
    · rw [loop, if_neg h, total_of_end h]

theorem run_eq (bytes : List UInt8) : run bytes = .ok (unescape bytes) :=
  loop_eq (Nat.zero_le _) (Nat.le_of_eq (Nat.zero_add _).symm)

end Cursor

end DeviceFilter.Octal

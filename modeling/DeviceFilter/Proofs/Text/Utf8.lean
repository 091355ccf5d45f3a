import DeviceFilter.Files.Access
import Mathlib.Data.List.Basic

/-!
Encoded text reads back. The first byte of a character tells how many bytes it has, and each byte
keeps its share of the code point.
-/
set_option autoImplicit false

namespace DeviceFilter

namespace Utf8

/-! ## Reading one character -/

section
variable {first b c d : UInt8} (rest : List UInt8)

theorem decodeFirst_one (h : first.toNat < 0x80) :
    decodeFirst first rest = (some (Char.ofNat first.toNat), 0) := by
  have hsmall : first < 0x80 := UInt8.lt_iff_toNat_lt.mpr h
  unfold decodeFirst
  rw [if_pos hsmall]

theorem decodeFirst_two (h : 0xC2 ≤ first.toNat) (h' : first.toNat ≤ 0xDF)
    (hb : isTail b = true) :
    decodeFirst first (b :: rest)
      = (some (Char.ofNat (first.toNat % 32 * 64 + tailBits b)), 1) := by
  have hone : ¬ first < 0x80 := by
    rw [UInt8.lt_iff_toNat_lt]
    exact Nat.not_lt.mpr (Nat.le_trans (by decide) h)
  have htwo : 0xC2 ≤ first ∧ first ≤ 0xDF :=
    ⟨UInt8.le_iff_toNat_le.mpr h, UInt8.le_iff_toNat_le.mpr h'⟩
  unfold decodeFirst
  rw [if_neg hone, if_pos htwo]
  dsimp only
  rw [if_pos hb]

theorem decodeFirst_three (h : 0xE0 ≤ first.toNat) (h' : first.toNat ≤ 0xEF)
    (hb : allowsSecond first b = true) (hc : isTail c = true) :
    decodeFirst first (b :: c :: rest)
      = (some (Char.ofNat (first.toNat % 16 * 4096 + tailBits b * 64 + tailBits c)), 2) := by
  have hone : ¬ first < 0x80 := by
    rw [UInt8.lt_iff_toNat_lt]
    exact Nat.not_lt.mpr (Nat.le_trans (by decide) h)
  have htwo : ¬ (0xC2 ≤ first ∧ first ≤ 0xDF) := by
    rintro ⟨-, hle⟩
    exact absurd (Nat.le_trans h (UInt8.le_iff_toNat_le.mp hle)) (by decide)
  have hthree : 0xE0 ≤ first ∧ first ≤ 0xEF :=
    ⟨UInt8.le_iff_toNat_le.mpr h, UInt8.le_iff_toNat_le.mpr h'⟩
  unfold decodeFirst
  rw [if_neg hone, if_neg htwo, if_pos hthree]
  simp only [hb, Bool.not_true, Bool.false_eq_true, if_false]
  rw [if_pos hc]

theorem decodeFirst_four (h : 0xF0 ≤ first.toNat) (h' : first.toNat ≤ 0xF4)
    (hb : allowsSecond first b = true) (hc : isTail c = true) (hd : isTail d = true) :
    decodeFirst first (b :: c :: d :: rest)
      = (some (Char.ofNat (first.toNat % 8 * 262144 + tailBits b * 4096 + tailBits c * 64
          + tailBits d)), 3) := by
  have hone : ¬ first < 0x80 := by
    rw [UInt8.lt_iff_toNat_lt]
    exact Nat.not_lt.mpr (Nat.le_trans (by decide) h)
  have htwo : ¬ (0xC2 ≤ first ∧ first ≤ 0xDF) := by
    rintro ⟨-, hle⟩
    exact absurd (Nat.le_trans h (UInt8.le_iff_toNat_le.mp hle)) (by decide)
  have hthree : ¬ (0xE0 ≤ first ∧ first ≤ 0xEF) := by
    rintro ⟨-, hle⟩
    exact absurd (Nat.le_trans h (UInt8.le_iff_toNat_le.mp hle)) (by decide)
  have hfour : 0xF0 ≤ first ∧ first ≤ 0xF4 :=
    ⟨UInt8.le_iff_toNat_le.mpr h, UInt8.le_iff_toNat_le.mpr h'⟩
  unfold decodeFirst
  rw [if_neg hone, if_neg htwo, if_neg hthree, if_pos hfour]
  simp only [hb, hc, Bool.not_true, Bool.false_eq_true, if_false]
  rw [if_pos hd]

end

/-! ## Writing one character -/

theorem toNat_ofNat_byte {n : Nat} (h : n < 256) : (UInt8.ofNat n).toNat = n :=
  UInt8.toNat_ofNat_of_lt' h

theorem isTail_ofNat {n : Nat} (h : n < 64) : isTail (UInt8.ofNat (0x80 + n)) = true := by
  have hbyte := toNat_ofNat_byte (show 0x80 + n < 256 by omega)
  simp only [isTail, Bool.and_eq_true, decide_eq_true_eq, UInt8.le_iff_toNat_le, hbyte]
  exact ⟨Nat.le_add_right _ _, Nat.le_of_lt_succ (Nat.add_lt_add_left h _)⟩

theorem tailBits_ofNat {n : Nat} (h : n < 64) : tailBits (UInt8.ofNat (0x80 + n)) = n := by
  rw [tailBits, toNat_ofNat_byte (show 0x80 + n < 256 by omega)]
  omega

/-- The second byte keeps away from what fewer bytes can write, from surrogates and from what is no
code point. -/
theorem allowsSecond_ofNat {first : UInt8} {n : Nat} (h : n < 64)
    (he0 : first.toNat = 0xE0 → 0x20 ≤ n) (hed : first.toNat = 0xED → n < 0x20)
    (hf0 : first.toNat = 0xF0 → 0x10 ≤ n) (hf4 : first.toNat = 0xF4 → n < 0x10) :
    allowsSecond first (UInt8.ofNat (0x80 + n)) = true := by
  have hbyte := toNat_ofNat_byte (show 0x80 + n < 256 by omega)
  have hrange {low high : UInt8} (hlow : low.toNat ≤ 0x80 + n) (hhigh : 0x80 + n ≤ high.toNat) :
      (low ≤ UInt8.ofNat (0x80 + n) && UInt8.ofNat (0x80 + n) ≤ high) = true := by
    simp only [Bool.and_eq_true, decide_eq_true_eq, UInt8.le_iff_toNat_le, hbyte]
    exact ⟨hlow, hhigh⟩
  unfold allowsSecond
  split
  · rename_i hfirst
    have := he0 (congrArg UInt8.toNat hfirst)
    exact hrange (show 0xA0 ≤ 0x80 + n by omega) (show 0x80 + n ≤ 0xBF by omega)
  · split
    · rename_i hfirst
      have := hed (congrArg UInt8.toNat hfirst)
      exact hrange (show 0x80 ≤ 0x80 + n by omega) (show 0x80 + n ≤ 0x9F by omega)
    · split
      · rename_i hfirst
        have := hf0 (congrArg UInt8.toNat hfirst)
        exact hrange (show 0x90 ≤ 0x80 + n by omega) (show 0x80 + n ≤ 0xBF by omega)
      · split
        · rename_i hfirst
          have := hf4 (congrArg UInt8.toNat hfirst)
          exact hrange (show 0x80 ≤ 0x80 + n by omega) (show 0x80 + n ≤ 0x8F by omega)
        · exact isTail_ofNat h

/-- A code point is none of the surrogates. -/
theorem toNat_valid (c : Char) : c.toNat < 0xD800 ∨ 0xDFFF < c.toNat ∧ c.toNat < 0x110000 := by
  have hvalid := c.valid
  simp only [UInt32.isValidChar, Nat.isValidChar] at hvalid
  exact hvalid

theorem decodeFirst_encodeChar (c : Char) (rest : List UInt8) :
    ∃ first tail, encodeChar c = first :: tail ∧
      decodeFirst first (tail ++ rest) = (some c, tail.length) := by
  have hvalid := toNat_valid c
  have hback (n : Nat) (h : n = c.toNat) : Char.ofNat n = c := by
    rw [h, Char.ofNat_toNat]
  unfold encodeChar
  dsimp only
  split
  · refine ⟨_, _, rfl, ?_⟩
    have hfirst := toNat_ofNat_byte (show c.toNat < 256 by omega)
    rw [decodeFirst_one _ (by omega), hback _ hfirst]
    rfl
  · split
    · refine ⟨_, _, rfl, ?_⟩
      have hfirst := toNat_ofNat_byte (show 0xC0 + c.toNat / 64 < 256 by omega)
      have hb : c.toNat % 64 < 64 := Nat.mod_lt _ (by decide)
      rw [List.cons_append,
        decodeFirst_two _ (by omega) (by omega) (isTail_ofNat hb), tailBits_ofNat hb,
        hback _ (by omega)]
      rfl
    · split
      · refine ⟨_, _, rfl, ?_⟩
        have hfirst := toNat_ofNat_byte (show 0xE0 + c.toNat / 4096 < 256 by omega)
        have hb : c.toNat / 64 % 64 < 64 := Nat.mod_lt _ (by decide)
        have hc : c.toNat % 64 < 64 := Nat.mod_lt _ (by decide)
        have hsecond : allowsSecond (UInt8.ofNat (0xE0 + c.toNat / 4096))
            (UInt8.ofNat (0x80 + c.toNat / 64 % 64)) = true :=
          allowsSecond_ofNat hb (by omega) (by omega) (by omega) (by omega)
        rw [List.cons_append, List.cons_append,
          decodeFirst_three _ (by omega) (by omega) hsecond (isTail_ofNat hc), tailBits_ofNat hb,
          tailBits_ofNat hc, hback _ (by omega)]
        rfl
      · refine ⟨_, _, rfl, ?_⟩
        have hfirst := toNat_ofNat_byte (show 0xF0 + c.toNat / 262144 < 256 by omega)
        have hb : c.toNat / 4096 % 64 < 64 := Nat.mod_lt _ (by decide)
        have hc : c.toNat / 64 % 64 < 64 := Nat.mod_lt _ (by decide)
        have hd : c.toNat % 64 < 64 := Nat.mod_lt _ (by decide)
        have hsecond : allowsSecond (UInt8.ofNat (0xF0 + c.toNat / 262144))
            (UInt8.ofNat (0x80 + c.toNat / 4096 % 64)) = true :=
          allowsSecond_ofNat hb (by omega) (by omega) (by omega) (by omega)
        rw [List.cons_append, List.cons_append, List.cons_append,
          decodeFirst_four _ (by omega) (by omega) hsecond (isTail_ofNat hc) (isTail_ofNat hd),
          tailBits_ofNat hb, tailBits_ofNat hc, tailBits_ofNat hd, hback _ (by omega)]
        rfl

theorem encodeChar_of_lt {c : Char} (h : c.toNat < 0x80) :
    encodeChar c = [UInt8.ofNat c.toNat] := if_pos h

/-- Only a character of one byte has a byte below 0x80. -/
theorem le_of_mem_encodeChar {c : Char} {b : UInt8} (h : 0x80 ≤ c.toNat)
    (hb : b ∈ encodeChar c) : 0x80 ≤ b.toNat := by
  have hvalid := toNat_valid c
  have hbyte {n : Nat} (hlow : 0x80 ≤ n) (hhigh : n < 256) : 0x80 ≤ (UInt8.ofNat n).toNat := by
    rwa [toNat_ofNat_byte hhigh]
  unfold encodeChar at hb
  dsimp only at hb
  rw [if_neg (Nat.not_lt.mpr h)] at hb
  split at hb
  · simp only [List.mem_cons, List.not_mem_nil, or_false] at hb
    rcases hb with rfl | rfl
    · exact hbyte (by omega) (by omega)
    · exact hbyte (by omega) (by omega)
  · split at hb
    · simp only [List.mem_cons, List.not_mem_nil, or_false] at hb
      rcases hb with rfl | rfl | rfl
      · exact hbyte (by omega) (by omega)
      · exact hbyte (by omega) (by omega)
      · exact hbyte (by omega) (by omega)
    · simp only [List.mem_cons, List.not_mem_nil, or_false] at hb
      rcases hb with rfl | rfl | rfl | rfl
      · exact hbyte (by omega) (by omega)
      · exact hbyte (by omega) (by omega)
      · exact hbyte (by omega) (by omega)
      · exact hbyte (by omega) (by omega)

/-- A byte below 0x80 is the whole of a character. -/
theorem mem_encodeChar_iff_of_lt {c : Char} {b : UInt8} (h : b.toNat < 0x80) :
    b ∈ encodeChar c ↔ c.toNat = b.toNat := by
  by_cases hc : c.toNat < 0x80
  · have hbyte := toNat_ofNat_byte (show c.toNat < 256 by omega)
    rw [encodeChar_of_lt hc, List.mem_singleton, ← UInt8.toNat_inj, hbyte]
    exact eq_comm
  · constructor
    · intro hb
      exact absurd (le_of_mem_encodeChar (Nat.not_lt.mp hc) hb) (Nat.not_le.mpr h)
    · intro heq
      omega

/-! ## Texts -/

theorem decodePieces_encode (cs : List Char) : decodePieces (encode cs) = cs.map some := by
  induction cs with
  | nil => rw [encode, List.flatMap_nil, decodePieces, List.map_nil]
  | cons c cs ih =>
    obtain ⟨first, tail, hbytes, hfirst⟩ := decodeFirst_encodeChar c (encode cs)
    have hcons : encode (c :: cs) = first :: (tail ++ encode cs) := by
      rw [encode, List.flatMap_cons, hbytes]
      rfl
    rw [hcons, decodePieces, hfirst]
    dsimp only
    rw [List.drop_left, ih, List.map_cons]

theorem decodeLossy_encode (cs : List Char) : decodeLossy (encode cs) = cs := by
  rw [decodeLossy, decodePieces_encode, List.map_map]
  exact List.map_id cs

theorem decode?_encode (cs : List Char) : decode? (encode cs) = some cs := by
  have hall : (cs.map some).all (·.isSome) = true := by simp
  rw [decode?, decodePieces_encode, if_pos hall, List.map_map]
  exact congrArg some (List.map_id cs)

def IsAscii (cs : List Char) : Prop := ∀ c ∈ cs, c.toNat < 0x80

theorem encode_of_isAscii {cs : List Char} (h : IsAscii cs) :
    encode cs = cs.map fun c => UInt8.ofNat c.toNat := by
  induction cs with
  | nil => rfl
  | cons c cs ih =>
    obtain ⟨hc, hcs⟩ := List.forall_mem_cons.mp h
    rw [encode, List.flatMap_cons, encodeChar_of_lt hc, List.map_cons]
    exact congrArg _ (ih hcs)

theorem zero_mem_encode_iff (cs : List Char) : 0 ∈ encode cs ↔ '\x00' ∈ cs := by
  have hchar (c : Char) : 0 ∈ encodeChar c ↔ c = '\x00' := by
    rw [mem_encodeChar_iff_of_lt (by decide), ← Char.toNat_inj]
    rfl
  rw [encode, List.mem_flatMap]
  simp only [hchar, exists_eq_right]

end Utf8

theorem textOf_encode (text : String) : textOf (Utf8.encode text.toList) = .ok text := by
  rw [textOf, Utf8.decode?_encode]
  exact congrArg Except.ok text.ofList_toList

end DeviceFilter

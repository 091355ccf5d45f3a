import DeviceFilter.Bytes.Lemmas
import DeviceFilter.Kernel.ObjectName
import DeviceFilter.Kernel.ProgramInfo
import DeviceFilter.Proofs.Text.Utf8
import Mathlib.Data.List.TakeWhile

/-!
Names of kernel objects, character by character. A wished name is cut down byte by byte, and no
byte of a character beyond ASCII is allowed in a name. So what is left is a text again, of the first
fifteen characters that may stand in a name; it is read back as it is, and wishing for it gives the
same name.
-/
set_option autoImplicit false

namespace DeviceFilter

namespace ObjectName

/-- ASCII letters and digits, underscores and dots. -/
def isNameChar (c : Char) : Bool := c.isAlphanum || c == '_' || c == '.'

/-- The characters of a text that stand in its name. -/
def shown (cs : List Char) : List Char := (cs.filter isNameChar).take 15

/-! ## Filtering bytes and filtering characters -/

/-- The code points of digits, capital and small letters, underscore and dot. -/
def IsNameCode (n : Nat) : Prop :=
  (0x30 ≤ n ∧ n ≤ 0x39) ∨ (0x41 ≤ n ∧ n ≤ 0x5A) ∨ (0x61 ≤ n ∧ n ≤ 0x7A) ∨ n = 0x5F ∨ n = 0x2E

theorem isNameChar_iff (c : Char) : isNameChar c ↔ IsNameCode c.toNat := by
  have hdigit : c.isDigit ↔ 0x30 ≤ c.toNat ∧ c.toNat ≤ 0x39 :=
    Bool.and_eq_true_iff.trans (and_congr decide_eq_true_iff decide_eq_true_iff)
  have hupper : c.isUpper ↔ 0x41 ≤ c.toNat ∧ c.toNat ≤ 0x5A := decide_eq_true_iff
  have hlower : c.isLower ↔ 0x61 ≤ c.toNat ∧ c.toNat ≤ 0x7A :=
    Bool.and_eq_true_iff.trans (and_congr decide_eq_true_iff decide_eq_true_iff)
  have hplain : c.isAlphanum ↔ (c.isUpper ∨ c.isLower) ∨ c.isDigit :=
    Bool.or_eq_true_iff.trans (or_congr_left Bool.or_eq_true_iff)
  have hunderscore : c = '_' ↔ c.toNat = 0x5F := Char.toNat_inj.symm
  have hdot : c = '.' ↔ c.toNat = 0x2E := Char.toNat_inj.symm
  simp only [isNameChar, Bool.or_eq_true, beq_iff_eq, hplain, hupper, hlower, hdigit,
    hunderscore, hdot, IsNameCode]
  omega

theorem isAllowed_iff (b : UInt8) : isAllowed b ↔ IsNameCode b.toNat := by
  simp only [isAllowed, Bool.or_eq_true, Bool.and_eq_true, decide_eq_true_eq, beq_iff_eq,
    UInt8.le_iff_toNat_le, ← UInt8.toNat_inj, IsNameCode]
  tauto

theorem IsNameCode.pos_and_lt {n : Nat} (h : IsNameCode n) : 0 < n ∧ n < 0x80 := by
  unfold IsNameCode at h
  omega

theorem isAllowed_ofNat {c : Char} (h : c.toNat < 0x80) :
    isAllowed (UInt8.ofNat c.toNat) = isNameChar c := by
  have hbyte := Utf8.toNat_ofNat_byte (show c.toNat < 256 by omega)
  rw [Bool.eq_iff_iff, isAllowed_iff, isNameChar_iff, hbyte]

theorem filter_encodeChar (c : Char) :
    (Utf8.encodeChar c).filter isAllowed = if isNameChar c then Utf8.encodeChar c else [] := by
  by_cases h : c.toNat < 0x80
  · rw [Utf8.encodeChar_of_lt h, List.filter_singleton, isAllowed_ofNat h]
    cases isNameChar c <;> rfl
  · have hchar : ¬ isNameChar c := by
      rw [isNameChar_iff]
      exact fun hcode => h hcode.pos_and_lt.2
    rw [if_neg hchar, List.filter_eq_nil_iff]
    intro b hb hallowed
    have hlarge := Utf8.le_of_mem_encodeChar (Nat.not_lt.mp h) hb
    have hsmall := ((isAllowed_iff b).mp hallowed).pos_and_lt.2
    omega

theorem filter_encode (cs : List Char) :
    (Utf8.encode cs).filter isAllowed = Utf8.encode (cs.filter isNameChar) := by
  induction cs with
  | nil => rfl
  | cons c cs ih =>
    rw [Utf8.encode, List.flatMap_cons, List.filter_append, filter_encodeChar, List.filter_cons]
    change _ ++ (Utf8.encode cs).filter isAllowed = _
    rw [ih]
    cases isNameChar c <;> rfl

theorem isAscii_of_forall {cs : List Char} (h : ∀ c ∈ cs, isNameChar c) : Utf8.IsAscii cs :=
  fun c hc => ((isNameChar_iff c).mp (h c hc)).pos_and_lt.2

theorem forall_filter (cs : List Char) : ∀ c ∈ cs.filter isNameChar, isNameChar c :=
  fun _ hc => (List.mem_filter.mp hc).2

theorem forall_shown (cs : List Char) : ∀ c ∈ shown cs, isNameChar c :=
  fun c hc => forall_filter cs c (List.mem_of_mem_take hc)

theorem length_shown_le (cs : List Char) : (shown cs).length ≤ 15 := List.length_take_le ..

theorem kept_encode (cs : List Char) :
    kept (Utf8.encode cs) = (shown cs).map fun c => UInt8.ofNat c.toNat := by
  rw [kept, filter_encode, Utf8.encode_of_isAscii (isAscii_of_forall (forall_filter cs)),
    ← List.map_take]
  rfl

/-! ## Slots -/

theorem toList_ofBytes (bytes : List UInt8) :
    (ofBytes bytes).toList = kept bytes ++ List.replicate (16 - (kept bytes).length) 0 := by
  have hlength : (kept bytes).length ≤ 15 := List.length_take_le ..
  apply List.ext_getElem
  · rw [Vector.length_toList, List.length_append, List.length_replicate]
    omega
  · intro i hi hi'
    rw [List.getElem_append]
    split
    · rename_i hkept
      simp [ofBytes, hkept]
    · rename_i hbehind
      simp [ofBytes, hbehind]

/-- The characters that are shown, one byte each, and zero bytes in the slots that are left. -/
theorem toList_ofText (s : String) :
    (ofText s).toList = (shown s.toList).map (fun c => UInt8.ofNat c.toNat)
      ++ List.replicate (16 - (shown s.toList).length) 0 := by
  rw [ofText, toList_ofBytes, kept_encode, List.length_map]

theorem takeWhile_ofText (s : String) :
    (ofText s).toList.takeWhile (· != 0)
      = (shown s.toList).map fun c => UInt8.ofNat c.toNat := by
  have hnonzero : ∀ b ∈ (shown s.toList).map fun c => UInt8.ofNat c.toNat, (b != 0) = true := by
    intro b hb
    obtain ⟨c, hc, rfl⟩ := List.mem_map.mp hb
    have hcode := ((isNameChar_iff c).mp (forall_shown _ c hc)).pos_and_lt
    rw [bne_iff_ne, ne_eq, ← UInt8.toNat_inj,
      Utf8.toNat_ofNat_byte (show c.toNat < 256 by omega)]
    exact Nat.ne_of_gt hcode.1
  rw [toList_ofText, takeWhile_append_zeros]
  exact List.takeWhile_eq_self_iff.mpr hnonzero

/-- A record with the name of `s` tells the characters that are shown of `s`. -/
theorem nameText_ofText (i : ProgramInfo) (s : String) :
    { i with name := ofText s }.nameText = String.ofList (shown s.toList) := by
  have hascii := isAscii_of_forall (forall_shown s.toList)
  rw [ProgramInfo.nameText, ProgramInfo.nameChars, takeWhile_ofText,
    ← Utf8.encode_of_isAscii hascii, Utf8.decodeLossy_encode]

theorem shown_shown (cs : List Char) : shown (shown cs) = shown cs := by
  have hall : (shown cs).filter isNameChar = shown cs := List.filter_eq_self.mpr (forall_shown cs)
  rw [shown, hall, List.take_of_length_le (length_shown_le cs)]

/-- A name shows the first fifteen characters that it may have and ends with a zero byte; a record
tells just these characters, and they have the same name. -/
theorem ofText_shows_first (s : String) :
    (ofText s).toList = (shown s.toList).map (fun c => UInt8.ofNat c.toNat)
        ++ List.replicate (16 - (shown s.toList).length) 0 ∧
      (shown s.toList).length ≤ 15 ∧ (ofText s).toList.getLast? = some 0 ∧
      ∀ i : ProgramInfo,
        { i with name := ofText s }.nameText = String.ofList (shown s.toList) ∧
        ofText { i with name := ofText s }.nameText = ofText s := by
  have hlength := length_shown_le s.toList
  refine ⟨toList_ofText s, hlength, ?_, fun i => ⟨nameText_ofText i s, ?_⟩⟩
  · have hroom : 16 - (shown s.toList).length = 15 - (shown s.toList).length + 1 := by omega
    rw [toList_ofText, hroom, List.replicate_succ', ← List.append_assoc]
    exact List.getLast?_concat
  · apply Vector.toList_inj.mp
    rw [nameText_ofText, toList_ofText, toList_ofText, String.toList_ofList, shown_shown]

example : (ofText "device-filter_for_container").toList
    = "devicefilter_fo".toList.map (fun c => UInt8.ofNat c.toNat) ++ [0] := by decide

end ObjectName

end DeviceFilter

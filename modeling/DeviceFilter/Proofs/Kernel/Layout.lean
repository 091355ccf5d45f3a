import DeviceFilter.Bytes.Lemmas
import DeviceFilter.Kernel.ProgramInfo

/-!
Records of fixed layout come back as they were written, field by field. What a layout does not
have is taken from the blank record.
-/
set_option autoImplicit false

namespace DeviceFilter

/-! ## Fields -/

namespace LayoutField

variable {σ : Type} {name : String} (order : ByteOrder) (a b : σ)

/-- Takes as many bytes as its kind says. -/
def Fits (f : LayoutField σ) : Prop := ∀ order a, (f.encode order a).length = f.size

/-- Gives `b` the field as `a` has it, by way of its bytes. -/
def transfer (f : LayoutField σ) : σ := f.store order (f.encode order a) b

section
variable (get : σ → UInt32) (set : UInt32 → σ → σ)

theorem fits_word : (word name get set).Fits := fun _ _ => ByteOrder.length_bytes ..

@[simp] theorem transfer_word : (word name get set).transfer order a b = set (get a) b := by
  have hvalue : order.value (order.bytes 4 (get a).toNat) = (get a).toNat := by
    rw [ByteOrder.value_bytes]
    exact Nat.mod_eq_of_lt (get a).toNat_lt
  change set (UInt32.ofNat (order.value (order.bytes 4 (get a).toNat))) b = _
  rw [hvalue, UInt32.ofNat_toNat]

end

section
variable (get : σ → UInt64) (set : UInt64 → σ → σ)

theorem fits_long : (long name get set).Fits := fun _ _ => ByteOrder.length_bytes ..

@[simp] theorem transfer_long : (long name get set).transfer order a b = set (get a) b := by
  have hvalue : order.value (order.bytes 8 (get a).toNat) = (get a).toNat := by
    rw [ByteOrder.value_bytes]
    exact Nat.mod_eq_of_lt (get a).toNat_lt
  change set (UInt64.ofNat (order.value (order.bytes 8 (get a).toNat))) b = _
  rw [hvalue, UInt64.ofNat_toNat]

end

section
variable {n : Nat} (get : σ → Vector UInt8 n) (set : Vector UInt8 n → σ → σ)

theorem fits_raw : (raw name n get set).Fits := fun _ a => (get a).length_toList

@[simp] theorem transfer_raw : (raw name n get set).transfer order a b = set (get a) b := by
  have hbytes : (Vector.ofFn fun i : Fin n => (get a).toList.getD i 0) = get a := by
    apply Vector.ext
    intro i hi
    simp
  change set (Vector.ofFn fun i : Fin n => (get a).toList.getD i 0) b = _
  rw [hbytes]

end

section
variable (get : σ → Bool) (set : Bool → σ → σ)

theorem fits_flag : (flag name get set).Fits := fun _ _ => ByteOrder.length_bytes ..

@[simp] theorem transfer_flag : (flag name get set).transfer order a b = set (get a) b := by
  have hbit : ∀ value : Bool, (UInt32.ofNat (order.value (order.bytes 4
      (if value then firstBit order else 0).toNat)) &&& firstBit order != 0) = value := by
    cases order <;> decide
  change set (UInt32.ofNat (order.value (order.bytes 4
    (if get a then firstBit order else 0).toNat)) &&& firstBit order != 0) b = _
  rw [hbit]

end

end LayoutField

/-! ## Layouts -/

namespace Layout

variable {σ : Type} (order : ByteOrder)

theorem fit_of_length_le {size : Nat} {bytes : List UInt8} (h : bytes.length ≤ size) :
    fit size bytes = bytes ++ List.replicate (size - bytes.length) 0 := by
  rw [fit, List.take_of_length_le h]

theorem fit_of_length {size : Nat} {bytes : List UInt8} (h : bytes.length = size) :
    fit size bytes = bytes := by
  rw [fit_of_length_le (Nat.le_of_eq h), h, Nat.sub_self, List.replicate_zero, List.append_nil]

theorem readFields_flatMap {fs : List (LayoutField σ)} (h : ∀ f ∈ fs, f.Fits) (a b : σ)
    (rest : List UInt8) :
    readFields order fs (fs.flatMap (·.encode order a) ++ rest) b
      = fs.foldl (fun b f => f.transfer order a b) b := by
  induction fs generalizing b with
  | nil => rfl
  | cons f fs ih =>
    obtain ⟨hf, hfs⟩ := List.forall_mem_cons.mp h
    have hlength := hf order a
    rw [readFields, List.flatMap_cons, List.append_assoc, List.drop_left' hlength,
      List.take_left' hlength, ih hfs]
    rfl

theorem length_flatMap_encode {fs : List (LayoutField σ)} (h : ∀ f ∈ fs, f.Fits) (a : σ) :
    (fs.flatMap (·.encode order a)).length = (fs.map (·.size)).sum := by
  rw [List.length_flatMap]
  exact congrArg List.sum (List.map_congr_left fun f hf => h f hf order a)

theorem pack_eq {l : Layout σ} (h : ∀ f ∈ l.fields, f.Fits)
    (hsize : (l.fields.map (·.size)).sum ≤ l.size) (a : σ) :
    l.pack order a = l.fields.flatMap (·.encode order a)
      ++ List.replicate (l.size - (l.fields.map (·.size)).sum) 0 := by
  have hlength := length_flatMap_encode order h a
  rw [pack, fit_of_length_le (Nat.le_trans (Nat.le_of_eq hlength) hsize), hlength]

/-- A record that is written and read back gets all fields of the layout. -/
theorem unpack_pack {l : Layout σ} (h : ∀ f ∈ l.fields, f.Fits)
    (hsize : (l.fields.map (·.size)).sum ≤ l.size) (blank a : σ) :
    l.unpack order blank (l.pack order a)
      = l.fields.foldl (fun b f => f.transfer order a b) blank := by
  rw [unpack, fit_of_length (length_pack l order a), pack_eq order h hsize]
  exact readFields_flatMap order h a blank _

end Layout

/-! ## Program information -/

namespace ProgramInfo

theorem fits_fields (generation : Generation) : ∀ f ∈ (layout generation).fields, f.Fits := by
  cases generation <;>
    simp [layout, earlyFields, lateFields, LayoutField.fits_word, LayoutField.fits_long,
      LayoutField.fits_raw, LayoutField.fits_flag]

theorem size_fields (generation : Generation) :
    ((layout generation).fields.map (·.size)).sum ≤ (layout generation).size := by
  cases generation <;> decide

/-- The part of a record that a generation has. -/
def restricted : Generation → ProgramInfo → ProgramInfo
  | .early, i => { i with
      recursionMisses := 0, verifiedInstructions := 0, attachTypeInfoObject := 0
      attachTypeInfo := 0 }
  | .late, i => i

theorem unpack_pack (generation : Generation) (order : ByteOrder) (i : ProgramInfo) :
    unpack generation order (i.pack generation order) = i.restricted generation := by
  rw [unpack, pack, Layout.unpack_pack order (fits_fields generation) (size_fields generation)]
  cases generation <;>
    simp [layout, earlyFields, lateFields, restricted]

end ProgramInfo

end DeviceFilter

import DeviceFilter.Proofs.Kernel.Layout
import Mathlib.Data.Nat.Bitwise

/-!
Records of fixed layout read from any bytes. In a lawful layout every field has bytes of its own:
reading takes the field from them, up to the bits that the field has no use for, and no other bytes
change it. So a record that is read and written again is the bytes it was read from, less the bits
that no field keeps.
-/
set_option autoImplicit false

namespace DeviceFilter

/-! ## Bits of bytes -/

/-- The bits of `bytes` that are set in `mask`. -/
def maskBytes (bytes mask : List UInt8) : List UInt8 := List.zipWith (· &&& ·) bytes mask

theorem maskBytes_append {bytes mask : List UInt8} (h : bytes.length = mask.length)
    (more rest : List UInt8) :
    maskBytes (bytes ++ more) (mask ++ rest) = maskBytes bytes mask ++ maskBytes more rest :=
  List.zipWith_append h

theorem maskBytes_full {bytes : List UInt8} {n : Nat} (h : bytes.length = n) :
    maskBytes bytes (List.replicate n 0xFF) = bytes := by
  subst h
  induction bytes with
  | nil => rfl
  | cons b bytes ih =>
    have hb : b &&& 0xFF = b := by
      rw [← UInt8.toNat_inj, UInt8.toNat_and]
      exact (Nat.and_two_pow_sub_one_eq_mod b.toNat 8).trans (Nat.mod_eq_of_lt b.toNat_lt)
    rw [List.length_cons, List.replicate_succ]
    exact congrArg₂ List.cons hb ih

theorem maskBytes_none {bytes : List UInt8} {n : Nat} (h : bytes.length = n) :
    maskBytes bytes (List.replicate n 0) = List.replicate n 0 := by
  subst h
  induction bytes with
  | nil => rfl
  | cons b bytes ih =>
    rw [List.length_cons, List.replicate_succ]
    exact congrArg₂ List.cons UInt8.and_zero ih

theorem maskBytes_zero {mask : List UInt8} {n : Nat} (h : mask.length = n) :
    maskBytes (List.replicate n 0) mask = List.replicate n 0 := by
  subst h
  induction mask with
  | nil => rfl
  | cons b mask ih =>
    rw [List.length_cons, List.replicate_succ]
    exact congrArg₂ List.cons UInt8.zero_and ih

theorem maskBytes_range {bytes : List UInt8} {n : Nat} (h : bytes.length = n)
    (kept : Nat → UInt8) :
    maskBytes bytes ((List.range n).map kept) = bytes.mapIdx fun k byte => byte &&& kept k := by
  apply List.ext_getElem
  · simp [maskBytes, h]
  · intro k hk hk'
    simp [maskBytes]

theorem lowBytes_and (width m n : Nat) :
    lowBytes width (m &&& n) = maskBytes (lowBytes width m) (lowBytes width n) := by
  induction width generalizing m n with
  | zero => rfl
  | succ width ih =>
    have hrest : (m &&& n) / 256 = m / 256 &&& n / 256 := Nat.and_div_two_pow (n := 8)
    have hfirst : UInt8.ofNat (m &&& n) = UInt8.ofNat m &&& UInt8.ofNat n := UInt8.ofNat_and ..
    rw [lowBytes, hrest, ih, hfirst]
    rfl

theorem ByteOrder.bytes_and (order : ByteOrder) (width m n : Nat) :
    order.bytes width (m &&& n) = maskBytes (order.bytes width m) (order.bytes width n) := by
  cases order with
  | little => exact lowBytes_and width m n
  | big =>
    change (lowBytes width (m &&& n)).reverse = _
    rw [lowBytes_and]
    exact List.reverse_zipWith (by simp)

/-! ## Fields -/

/-- The bits of its bytes that a field keeps. -/
def FieldKind.mask (order : ByteOrder) : FieldKind → List UInt8
  | flag => order.bytes 4 (LayoutField.firstBit order).toNat
  | kind => List.replicate kind.size 0xFF

theorem FieldKind.length_mask (order : ByteOrder) (kind : FieldKind) :
    (kind.mask order).length = kind.size := by
  cases kind with
  | word | long | raw => exact List.length_replicate
  | flag => exact ByteOrder.length_bytes ..

namespace LayoutField

variable {σ : Type} {name : String}

/-- Bytes that are stored and written again lose only bits that the field has no use for. -/
def Reads (f : LayoutField σ) : Prop := ∀ order bytes a, bytes.length = f.size →
  f.encode order (f.store order bytes a) = maskBytes bytes (f.kind.mask order)

/-- Storing `g` leaves `f` as it is. -/
def Spares (f g : LayoutField σ) : Prop :=
  ∀ order bytes a, f.encode order (g.store order bytes a) = f.encode order a

theorem bytes_value_of_length (order : ByteOrder) {bytes : List UInt8} {n : Nat}
    (h : bytes.length = n) : order.bytes n (order.value bytes) = bytes := by
  subst h
  exact order.bytes_value bytes

theorem toNat_ofNat_value (order : ByteOrder) {bytes : List UInt8} (h : bytes.length = 4) :
    (UInt32.ofNat (order.value bytes)).toNat = order.value bytes := by
  have hlt := order.value_lt bytes
  rw [h] at hlt
  exact UInt32.toNat_ofNat_of_lt' hlt

theorem reads_word {get : σ → UInt32} {set : UInt32 → σ → σ} (h : ∀ v a, get (set v a) = v) :
    (word name get set).Reads := by
  intro order bytes a hlength
  have hfour : bytes.length = 4 := hlength
  change order.bytes 4 (get (set (UInt32.ofNat (order.value bytes)) a)).toNat = _
  rw [h, toNat_ofNat_value order hfour, bytes_value_of_length order hfour]
  exact (maskBytes_full hfour).symm

theorem reads_long {get : σ → UInt64} {set : UInt64 → σ → σ} (h : ∀ v a, get (set v a) = v) :
    (long name get set).Reads := by
  intro order bytes a hlength
  have height : bytes.length = 8 := hlength
  have hlt := order.value_lt bytes
  rw [height] at hlt
  change order.bytes 8 (get (set (UInt64.ofNat (order.value bytes)) a)).toNat = _
  rw [h, UInt64.toNat_ofNat_of_lt' hlt, bytes_value_of_length order height]
  exact (maskBytes_full height).symm

theorem reads_raw {n : Nat} {get : σ → Vector UInt8 n} {set : Vector UInt8 n → σ → σ}
    (h : ∀ v a, get (set v a) = v) : (raw name n get set).Reads := by
  intro order bytes a hlength
  have hsize : bytes.length = n := hlength
  have hbytes : (Vector.ofFn fun i : Fin n => bytes.getD i 0).toList = bytes := by
    apply List.ext_getElem
    · simp [hsize]
    · intro i hi hi'
      simp [hi']
  change (get (set (Vector.ofFn fun i => bytes.getD i 0) a)).toList = _
  rw [h, hbytes]
  exact (maskBytes_full hsize).symm

/-- A word has the first bit of a bit field or none of it. -/
theorem ite_and_firstBit (order : ByteOrder) (w : UInt32) :
    (if w &&& firstBit order != 0 then firstBit order else 0) = w &&& firstBit order := by
  obtain ⟨k, hk⟩ : ∃ k, (firstBit order).toNat = 2 ^ k := by
    cases order
    · exact ⟨0, rfl⟩
    · exact ⟨31, rfl⟩
  have hand : (w &&& firstBit order).toNat = (w.toNat.testBit k).toNat * 2 ^ k := by
    rw [UInt32.toNat_and, hk, Nat.and_two_pow]
  have hcases : w &&& firstBit order = 0 ∨ w &&& firstBit order = firstBit order := by
    rw [← UInt32.toNat_inj, ← UInt32.toNat_inj, hand, hk]
    cases w.toNat.testBit k <;> simp
  obtain hzero | hbit := hcases
  · simp [hzero]
  · rw [hbit]
    cases order <;> rfl

theorem reads_flag {get : σ → Bool} {set : Bool → σ → σ} (h : ∀ v a, get (set v a) = v) :
    (flag name get set).Reads := by
  intro order bytes a hlength
  have hfour : bytes.length = 4 := hlength
  change order.bytes 4 (if get (set (UInt32.ofNat (order.value bytes) &&& firstBit order != 0) a)
    then firstBit order else 0).toNat = _
  rw [h, ite_and_firstBit, UInt32.toNat_and, toNat_ofNat_value order hfour, ByteOrder.bytes_and,
    bytes_value_of_length order hfour]
  rfl

end LayoutField

/-! ## Sizes -/

namespace Layout

@[simp] theorem fit_fit (size : Nat) (bytes : List UInt8) :
    fit size (fit size bytes) = fit size bytes :=
  fit_of_length (length_fit size bytes)

theorem take_fit (n size : Nat) (bytes : List UInt8) :
    (fit size bytes).take n = fit (min n size) bytes := by
  rw [fit, List.take_append, List.take_take, List.take_replicate, List.length_take, fit]
  congr 2
  omega

theorem fit_take {n size : Nat} (h : size ≤ n) (bytes : List UInt8) :
    fit size (bytes.take n) = fit size bytes := by
  rw [fit, List.take_take, List.length_take, fit]
  congr 2 <;> omega

theorem fit_append {size : Nat} {bytes : List UInt8} (h : bytes.length = size)
    (rest : List UInt8) : fit size (bytes ++ rest) = bytes := by
  rw [← fit_take (Nat.le_refl size), List.take_left' h, fit_of_length h]

/-- A part that lies in the first `n` bytes does not depend on the others. -/
theorem part_fit_take {start length n size : Nat} (hn : start + length ≤ n)
    (hsize : start + length ≤ size) (bytes : List UInt8) :
    ((fit size (bytes.take n)).drop start).take length
      = ((fit size bytes).drop start).take length := by
  rw [List.take_drop, List.take_drop, take_fit, take_fit, Nat.min_eq_left hsize, fit_take hn]

theorem drop_fit {n : Nat} {bytes : List UInt8} (h : bytes.length ≤ n) (size : Nat) :
    (fit size bytes).drop n = List.replicate (size - n) 0 := by
  rw [fit, List.drop_append, List.drop_replicate,
    List.drop_eq_nil_of_le ((List.length_take_le' size bytes).trans h), List.nil_append,
    List.length_take]
  congr 1
  omega

/-! ## Lawful layouts -/

variable {σ : Type} (order : ByteOrder)

/-- Every field has bytes of its own, and there is room for all of them. -/
structure Lawful (l : Layout σ) : Prop where
  fits : ∀ f ∈ l.fields, f.Fits
  reads : ∀ f ∈ l.fields, f.Reads
  spares : l.fields.Pairwise LayoutField.Spares
  room : (l.fields.map (·.size)).sum ≤ l.size

/-- Only so many bytes are read as the layout has, and missing ones are zero. -/
theorem unpack_fit (l : Layout σ) (blank : σ) (bytes : List UInt8) :
    l.unpack order blank (fit l.size bytes) = l.unpack order blank bytes := by
  rw [unpack, fit_fit, unpack]

theorem start_eq_sum (l : Layout σ) (k : Nat) :
    l.start k = ((l.fields.take k).map (·.size)).sum := by
  rw [start, List.sum_eq_foldr, List.foldr_map]

/-- A field begins behind the fields before it. -/
theorem exists_start_eq {l : Layout σ} {k : Nat} {f : LayoutField σ} (hf : l.fields[k]? = some f) :
    ∃ front rest, l.fields = front ++ f :: rest ∧ l.start k = (front.map (·.size)).sum := by
  obtain ⟨hk, rfl⟩ := List.getElem?_eq_some_iff.mp hf
  refine ⟨l.fields.take k, l.fields.drop (k + 1), ?_, start_eq_sum l k⟩
  rw [← List.drop_eq_getElem_cons hk, List.take_append_drop]

theorem readFields_keeps {τ : Type} {part : σ → τ} {fs : List (LayoutField σ)}
    (h : ∀ f ∈ fs, ∀ bytes a, part (f.store order bytes a) = part a) (bytes : List UInt8) (a : σ) :
    part (readFields order fs bytes a) = part a := by
  induction fs generalizing bytes a with
  | nil => rfl
  | cons f fs ih =>
    obtain ⟨hf, hfs⟩ := List.forall_mem_cons.mp h
    rw [readFields, ih hfs, hf]

theorem readFields_commutes {change : σ → σ} {fs : List (LayoutField σ)}
    (h : ∀ f ∈ fs, ∀ bytes a, change (f.store order bytes a) = f.store order bytes (change a))
    (bytes : List UInt8) (a : σ) :
    change (readFields order fs bytes a) = readFields order fs bytes (change a) := by
  induction fs generalizing bytes a with
  | nil => rfl
  | cons f fs ih =>
    obtain ⟨hf, hfs⟩ := List.forall_mem_cons.mp h
    rw [readFields, ih hfs, hf, readFields]

/-- The first of the fields that are read is left alone by the others. -/
theorem encode_readFields_cons {f : LayoutField σ} {fs : List (LayoutField σ)} (hf : f.Reads)
    (h : ∀ g ∈ fs, f.Spares g) {bytes : List UInt8} (hlength : f.size ≤ bytes.length) (a : σ) :
    f.encode order (readFields order (f :: fs) bytes a)
      = maskBytes (bytes.take f.size) (f.kind.mask order) := by
  rw [readFields, readFields_keeps order fun g hg => h g hg order]
  exact hf order _ a (List.length_take_of_le hlength)

theorem readFields_append (fs gs : List (LayoutField σ)) (bytes : List UInt8) (a : σ) :
    readFields order (fs ++ gs) bytes a
      = readFields order gs (bytes.drop (fs.map (·.size)).sum) (readFields order fs bytes a) := by
  induction fs generalizing bytes a with
  | nil => rfl
  | cons f fs ih =>
    rw [List.cons_append, readFields, ih, List.drop_drop, List.map_cons, List.sum_cons, readFields]

/-- Fields are read from the front. -/
theorem readFields_take {fs : List (LayoutField σ)} {n : Nat} (h : (fs.map (·.size)).sum ≤ n)
    (bytes : List UInt8) (a : σ) :
    readFields order fs (bytes.take n) a = readFields order fs bytes a := by
  induction fs generalizing n bytes a with
  | nil => rfl
  | cons f fs ih =>
    rw [List.map_cons, List.sum_cons] at h
    have hmin : min f.size n = f.size := by omega
    rw [readFields, readFields, List.take_take, hmin, List.drop_take, ih (by omega)]

theorem flatMap_encode_readFields {fs : List (LayoutField σ)} (hreads : ∀ f ∈ fs, f.Reads)
    (hspares : fs.Pairwise LayoutField.Spares) {bytes : List UInt8}
    (hlength : (fs.map (·.size)).sum ≤ bytes.length) (a : σ) :
    fs.flatMap (·.encode order (readFields order fs bytes a))
      = maskBytes (bytes.take (fs.map (·.size)).sum) (fs.flatMap (·.kind.mask order)) := by
  induction fs generalizing bytes a with
  | nil => rfl
  | cons f fs ih =>
    obtain ⟨hf, hfs⟩ := List.forall_mem_cons.mp hreads
    obtain ⟨hfirst, hrest⟩ := List.pairwise_cons.mp hspares
    rw [List.map_cons, List.sum_cons] at hlength
    have hmask : (bytes.take f.size).length = (f.kind.mask order).length := by
      rw [FieldKind.length_mask]
      exact List.length_take_of_le (by omega)
    rw [List.flatMap_cons, encode_readFields_cons order hf hfirst (by omega), readFields,
      ih hfs hrest (by rw [List.length_drop]; omega), List.flatMap_cons, List.map_cons,
      List.sum_cons, List.take_add, maskBytes_append hmask]

/-- The bits of a record that its fields keep. -/
def mask (l : Layout σ) : List UInt8 := fit l.size (l.fields.flatMap (·.kind.mask order))

theorem length_flatMap_mask (fs : List (LayoutField σ)) :
    (fs.flatMap (·.kind.mask order)).length = (fs.map (·.size)).sum := by
  rw [List.length_flatMap]
  exact congrArg List.sum (List.map_congr_left fun f _ => f.kind.length_mask order)

variable {l : Layout σ} (h : l.Lawful)
include h

theorem Lawful.start_add_size_le {k : Nat} {f : LayoutField σ} (hf : l.fields[k]? = some f) :
    l.start k + f.size ≤ l.size := by
  obtain ⟨front, rest, hfields, hstart⟩ := exists_start_eq hf
  have hroom := h.room
  rw [hfields, List.map_append, List.sum_append, List.map_cons, List.sum_cons] at hroom
  omega

theorem Lawful.length_front (k : Nat) (a : σ) :
    ((l.fields.take k).flatMap (·.encode order a)).length = l.start k := by
  rw [start_eq_sum]
  exact length_flatMap_encode order (fun f hf => h.fits f (List.mem_of_mem_take hf)) a

/-- A record is cut where a field begins: the fields before it are in front, the others and what
belongs to no field behind. -/
theorem Lawful.pack_eq_append (k : Nat) (a : σ) :
    l.pack order a = (l.fields.take k).flatMap (·.encode order a)
      ++ ((l.fields.drop k).flatMap (·.encode order a)
        ++ List.replicate (l.size - (l.fields.map (·.size)).sum) 0) := by
  rw [pack_eq order h.fits h.room, ← List.append_assoc, ← List.flatMap_append,
    List.take_append_drop]

theorem Lawful.take_start_pack (k : Nat) (a : σ) :
    (l.pack order a).take (l.start k) = (l.fields.take k).flatMap (·.encode order a) := by
  rw [h.pack_eq_append order k a]
  exact List.take_left' (h.length_front order k a)

theorem Lawful.drop_start_pack (k : Nat) (a : σ) :
    (l.pack order a).drop (l.start k) = (l.fields.drop k).flatMap (·.encode order a)
      ++ List.replicate (l.size - (l.fields.map (·.size)).sum) 0 := by
  rw [h.pack_eq_append order k a]
  exact List.drop_left' (h.length_front order k a)

/-- The fields from number `j` to the one before number `k`. -/
theorem Lawful.part_pack {j k : Nat} (hjk : j ≤ k) (a : σ) :
    ((l.pack order a).take (l.start k)).drop (l.start j)
      = ((l.fields.take k).drop j).flatMap (·.encode order a) := by
  have hsplit : l.fields.take k = l.fields.take j ++ (l.fields.take k).drop j := by
    have hfront := List.take_append_drop j (l.fields.take k)
    rw [List.take_take, Nat.min_eq_left hjk] at hfront
    exact hfront.symm
  rw [h.take_start_pack order, hsplit, List.flatMap_append, List.drop_left' (h.length_front order j a),
    ← hsplit]

/-- A field is read from its own bytes and from no others. -/
theorem Lawful.encode_unpack {k : Nat} {f : LayoutField σ} (hf : l.fields[k]? = some f)
    (blank : σ) (bytes : List UInt8) :
    f.encode order (l.unpack order blank bytes)
      = maskBytes (((fit l.size bytes).drop (l.start k)).take f.size) (f.kind.mask order) := by
  have hend := h.start_add_size_le hf
  have hreads := h.reads f (List.mem_of_getElem? hf)
  have hspares := h.spares
  obtain ⟨front, rest, hfields, hstart⟩ := exists_start_eq hf
  rw [hfields, List.pairwise_append] at hspares
  obtain ⟨hrest, -⟩ := List.pairwise_cons.mp hspares.2.1
  have hlength : f.size ≤ ((fit l.size bytes).drop (l.start k)).length := by
    rw [List.length_drop, length_fit]
    omega
  rw [unpack, hfields, readFields_append, ← hstart]
  exact encode_readFields_cons order hreads hrest hlength _

theorem Lawful.mask_eq :
    l.mask order = l.fields.flatMap (·.kind.mask order)
      ++ List.replicate (l.size - (l.fields.map (·.size)).sum) 0 := by
  have hlength := length_flatMap_mask order l.fields
  rw [mask, fit_of_length_le (hlength.trans_le h.room), hlength]

/-- A record that is read and written again loses the bits that no field keeps. -/
theorem Lawful.pack_unpack (blank : σ) (bytes : List UInt8) :
    l.pack order (l.unpack order blank bytes) = maskBytes (fit l.size bytes) (l.mask order) := by
  have hroom : (l.fields.map (·.size)).sum ≤ (fit l.size bytes).length := by
    rw [length_fit]
    exact h.room
  have hfields := flatMap_encode_readFields order h.reads h.spares hroom blank
  have hmask := length_flatMap_mask order l.fields
  rw [pack_eq order h.fits h.room, h.mask_eq, unpack, hfields]
  generalize (l.fields.map (·.size)).sum = n at hroom hmask
  have hfront : ((fit l.size bytes).take n).length
      = (l.fields.flatMap (·.kind.mask order)).length := by
    rw [hmask]
    exact List.length_take_of_le hroom
  have hback : ((fit l.size bytes).drop n).length = l.size - n := by
    rw [List.length_drop, length_fit]
  rw [← maskBytes_none hback, ← maskBytes_append hfront, List.take_append_drop, maskBytes_none hback]

end Layout

end DeviceFilter

import DeviceFilter.Kernel.Requests
import DeviceFilter.Proofs.Kernel.Fields
import Mathlib.Data.List.Basic
import Mathlib.Logic.Function.Basic

/-!
Requests byte by byte. Where all fields of a layout keep every bit and leave one another alone, the
bytes of a record are divided among them: a change of one field is a change of its own bytes, and
the bytes that belong to no field are zero. The requests of the program calls have such layouts, so
no argument of a call is lost or runs into another one.
-/
set_option autoImplicit false

namespace DeviceFilter

/-! ## Layouts whose fields lie apart -/

namespace LayoutField

variable {σ : Type} {name : String}

/-- Keeps every bit of its bytes. -/
structure Keeps (f : LayoutField σ) : Prop where
  fits : f.Fits
  reads : f.Reads
  whole : f.kind ≠ .flag

theorem keeps_word {get : σ → UInt32} {set : UInt32 → σ → σ} (h : ∀ v a, get (set v a) = v) :
    (word name get set).Keeps :=
  ⟨fits_word get set, reads_word h, nofun⟩

theorem keeps_long {get : σ → UInt64} {set : UInt64 → σ → σ} (h : ∀ v a, get (set v a) = v) :
    (long name get set).Keeps :=
  ⟨fits_long get set, reads_long h, nofun⟩

theorem keeps_raw {n : Nat} {get : σ → Vector UInt8 n} {set : Vector UInt8 n → σ → σ}
    (h : ∀ v a, get (set v a) = v) : (raw name n get set).Keeps :=
  ⟨fits_raw get set, reads_raw h, nofun⟩

theorem mask_of_ne_flag (order : ByteOrder) {kind : FieldKind} (h : kind ≠ .flag) :
    kind.mask order = List.replicate kind.size 0xFF := by
  cases kind with
  | word | long | raw => rfl
  | flag => exact absurd rfl h

theorem Keeps.encode_store {f : LayoutField σ} (h : f.Keeps) (order : ByteOrder)
    {bytes : List UInt8} (a : σ) (hlength : bytes.length = f.size) :
    f.encode order (f.store order bytes a) = bytes := by
  rw [h.reads order bytes a hlength, mask_of_ne_flag order h.whole]
  exact maskBytes_full hlength

end LayoutField

namespace Layout

variable {σ : Type}

/-- Puts `part` in the place of as many bytes from `start` on. -/
def overwrite (bytes : List UInt8) (start : Nat) (part : List UInt8) : List UInt8 :=
  bytes.take start ++ part ++ bytes.drop (start + part.length)

theorem overwrite_append {front old part : List UInt8} (h : old.length = part.length)
    (rest : List UInt8) :
    overwrite (front ++ (old ++ rest)) front.length part = front ++ (part ++ rest) := by
  have hdrop : (front ++ (old ++ rest)).drop (front.length + part.length) = rest := by
    rw [← List.append_assoc]
    apply List.drop_left'
    rw [List.length_append, h]
  rw [overwrite, hdrop, List.take_left, List.append_assoc]

theorem start_succ {l : Layout σ} {k : Nat} {f : LayoutField σ} (hf : l.fields[k]? = some f) :
    l.start (k + 1) = l.start k + f.size := by
  rw [start_eq_sum, start_eq_sum, List.take_add_one, hf, List.map_append, List.sum_append]
  rfl

theorem start_mono (l : Layout σ) {j k : Nat} (h : j ≤ k) : l.start j ≤ l.start k := by
  induction h with
  | refl => exact Nat.le_refl _
  | @step m _ ih =>
    cases hf : l.fields[m]? with
    | some f =>
      rw [start_succ hf]
      exact ih.trans (Nat.le_add_right ..)
    | none =>
      have hsame : l.fields.take (m + 1) = l.fields.take m := by
        rw [List.take_add_one, hf]
        exact List.append_nil _
      rw [start_eq_sum l (m + 1), hsame, ← start_eq_sum]
      exact ih

/-- Every byte in front of the end of the last field belongs to some field. -/
theorem exists_covering {l : Layout σ} {i : Nat} (h : i < (l.fields.map (·.size)).sum) :
    ∃ k f, l.fields[k]? = some f ∧ l.start k ≤ i ∧ i < l.start k + f.size := by
  -- The first field that ends behind `i` is the one.
  have hend : i < l.start l.fields.length := by rwa [start_eq_sum, List.take_length]
  generalize hn : l.fields.length = n at hend
  have hle : n ≤ l.fields.length := Nat.le_of_eq hn.symm
  clear hn
  induction n with
  | zero => exact absurd hend (Nat.not_lt_zero i)
  | succ n ih =>
    by_cases hearlier : i < l.start n
    · exact ih hearlier (by omega)
    · have hf : l.fields[n]? = some l.fields[n] := List.getElem?_eq_getElem hle
      rw [start_succ hf] at hend
      exact ⟨n, _, hf, Nat.not_lt.mp hearlier, hend⟩

/-- Every field keeps all bits of its bytes and leaves every other field alone. -/
structure Separate (l : Layout σ) : Prop where
  keeps : ∀ f ∈ l.fields, f.Keeps
  apart : l.fields.Pairwise fun f g => f.Spares g ∧ g.Spares f
  room : (l.fields.map (·.size)).sum ≤ l.size

theorem Separate.lawful {l : Layout σ} (h : l.Separate) : l.Lawful where
  fits := fun f hf => (h.keeps f hf).fits
  reads := fun f hf => (h.keeps f hf).reads
  spares := h.apart.imp And.left
  room := h.room

/-- How the bytes of a record are divided among the fields of the layout. -/
structure Divided (order : ByteOrder) (l : Layout σ) : Prop where
  within : ∀ k f, l.fields[k]? = some f → l.start k + f.size ≤ l.size
  disjoint : ∀ j k f g, l.fields[j]? = some f → l.fields[k]? = some g → j ≠ k →
    l.start j + f.size ≤ l.start k ∨ l.start k + g.size ≤ l.start j
  /-- Giving `a` one field as `b` has it writes the bytes of that field and no others. -/
  change : ∀ k f, l.fields[k]? = some f → ∀ a b,
    l.pack order (f.transfer order b a) = overwrite (l.pack order a) (l.start k) (f.encode order b)
  unused : ∀ i < l.size,
    (∀ k f, l.fields[k]? = some f → i < l.start k ∨ l.start k + f.size ≤ i) →
    ∀ a, (l.pack order a)[i]? = some 0

section
variable {l : Layout σ} (h : l.Separate) (order : ByteOrder)
include h

/-- Storing bytes in one field writes them over the bytes that the field had. -/
theorem Separate.pack_store {k : Nat} {f : LayoutField σ} (hf : l.fields[k]? = some f)
    {bytes : List UInt8} (a : σ) (hlength : bytes.length = f.size) :
    l.pack order (f.store order bytes a) = overwrite (l.pack order a) (l.start k) bytes := by
  have hkeeps := h.keeps f (List.mem_of_getElem? hf)
  have hfits := h.lawful.fits
  have hapart := h.apart
  -- The fields on both sides of `f` do not notice the store.
  have hpack := pack_eq order hfits h.room
  obtain ⟨front, rest, hfields, hstart⟩ := exists_start_eq hf
  rw [hfields] at hfits
  rw [hfields, List.pairwise_append] at hapart
  obtain ⟨-, hafter, hbefore⟩ := hapart
  have hfront : front.flatMap (·.encode order (f.store order bytes a))
      = front.flatMap (·.encode order a) := by
    apply List.flatMap_congr
    intro g hg
    exact (hbefore g hg f List.mem_cons_self).1 order bytes a
  have hrest : rest.flatMap (·.encode order (f.store order bytes a))
      = rest.flatMap (·.encode order a) := by
    apply List.flatMap_congr
    intro g hg
    exact ((List.pairwise_cons.mp hafter).1 g hg).2 order bytes a
  have hplace : (front.flatMap (·.encode order a)).length = l.start k := by
    rw [hstart]
    apply length_flatMap_encode
    intro g hg
    exact hfits g (List.mem_append_left _ hg)
  have hold : (f.encode order a).length = bytes.length := (hkeeps.fits order a).trans hlength.symm
  rw [hpack, hpack, hfields, List.flatMap_append, List.flatMap_append, List.flatMap_cons,
    List.flatMap_cons, hfront, hrest, hkeeps.encode_store order a hlength, List.append_assoc,
    List.append_assoc, List.append_assoc, List.append_assoc, ← hplace, overwrite_append hold]

theorem Separate.divided : l.Divided order := by
  constructor
  · intro k f hf
    exact h.lawful.start_add_size_le hf
  · intro j k f g hf hg hne
    rcases Nat.lt_or_gt_of_ne hne with hlt | hgt
    · left
      rw [← start_succ hf]
      exact start_mono l hlt
    · right
      rw [← start_succ hg]
      exact start_mono l hgt
  · intro k f hf a b
    exact h.pack_store order hf a ((h.keeps f (List.mem_of_getElem? hf)).fits order b)
  · intro i hi hoff a
    have hbehind : (l.fields.map (·.size)).sum ≤ i := by
      by_contra hinside
      obtain ⟨k, f, hf, hfrom, hto⟩ := exists_covering (Nat.not_le.mp hinside)
      rcases hoff k f hf with hbefore | hafter
      · exact absurd hfrom (Nat.not_le.mpr hbefore)
      · exact absurd hto (Nat.not_lt.mpr hafter)
    have hlength := length_flatMap_encode order h.lawful.fits a
    rw [pack_eq order h.lawful.fits h.room, List.getElem?_append_right (hlength.trans_le hbehind),
      hlength, List.getElem?_replicate]
    apply if_pos
    omega

theorem Separate.unpack_pack (blank a : σ) :
    l.unpack order blank (l.pack order a)
      = l.fields.foldl (fun b f => f.transfer order a b) blank :=
  Layout.unpack_pack order h.lawful.fits h.room blank a

/-- A record that is read and written again is the bytes it was read from as far as the fields go,
missing bytes being zero. -/
theorem Separate.pack_unpack (blank : σ) (bytes : List UInt8) :
    l.pack order (l.unpack order blank bytes)
      = fit (l.fields.map (·.size)).sum bytes
        ++ List.replicate (l.size - (l.fields.map (·.size)).sum) 0 := by
  -- No field drops a bit, so the mask is full as far as the fields go.
  have hmask : l.fields.flatMap (·.kind.mask order)
      = List.replicate (l.fields.map (·.size)).sum 0xFF := by
    apply List.eq_replicate_iff.mpr
    constructor
    · exact length_flatMap_mask order l.fields
    · intro byte hbyte
      obtain ⟨f, hf, hmem⟩ := List.mem_flatMap.mp hbyte
      rw [LayoutField.mask_of_ne_flag order (h.keeps f hf).whole] at hmem
      exact List.eq_of_mem_replicate hmem
  have hroom := h.room
  rw [h.lawful.pack_unpack, h.lawful.mask_eq, hmask]
  generalize (l.fields.map (·.size)).sum = n at hroom
  have hfront : (fit l.size bytes).take n = fit n bytes := by
    rw [take_fit, Nat.min_eq_left hroom]
  have hback : ((fit l.size bytes).drop n).length = l.size - n := by
    rw [List.length_drop, length_fit]
  rw [← List.take_append_drop n (fit l.size bytes), hfront, maskBytes_append (by simp),
    maskBytes_full (length_fit n bytes), maskBytes_none hback]

end

end Layout

/-! ## The requests -/

theorem LoadRequest.separate_layout : LoadRequest.layout.Separate where
  keeps := by
    simp [LoadRequest.layout, LayoutField.keeps_word, LayoutField.keeps_long,
      LayoutField.keeps_raw]
  apart := by
    simp only [LoadRequest.layout, List.pairwise_cons, List.forall_mem_cons, LayoutField.Spares,
      LayoutField.word, LayoutField.long, LayoutField.raw, implies_true, List.not_mem_nil,
      false_implies, and_self, List.Pairwise.nil]
  room := by decide

theorem AttachRequest.separate_layout : AttachRequest.layout.Separate where
  keeps := by simp [AttachRequest.layout, LayoutField.keeps_word]
  apart := by simp [AttachRequest.layout, LayoutField.Spares, LayoutField.word]
  room := by decide

theorem QueryRequest.separate_layout : QueryRequest.layout.Separate where
  keeps := by simp [QueryRequest.layout, LayoutField.keeps_word, LayoutField.keeps_long]
  apart := by simp [QueryRequest.layout, LayoutField.Spares, LayoutField.word, LayoutField.long]
  room := by decide

theorem OpenRequest.separate_layout : OpenRequest.layout.Separate where
  keeps := by simp [OpenRequest.layout, LayoutField.keeps_word]
  apart := by simp [OpenRequest.layout, LayoutField.Spares, LayoutField.word]
  room := by decide

theorem InfoRequest.separate_layout : InfoRequest.layout.Separate where
  keeps := by simp [InfoRequest.layout, LayoutField.keeps_word, LayoutField.keeps_long]
  apart := by simp [InfoRequest.layout, LayoutField.Spares, LayoutField.word, LayoutField.long]
  room := by decide

-- Where the fields begin, and where the last one ends.
example : (List.range 13).map LoadRequest.layout.start =
      [0, 4, 8, 16, 24, 28, 32, 40, 44, 48, 64, 68, 72] ∧
    (List.range 6).map AttachRequest.layout.start = [0, 4, 8, 12, 16, 20] ∧
    (List.range 7).map QueryRequest.layout.start = [0, 4, 8, 12, 16, 24, 28] ∧
    (List.range 4).map OpenRequest.layout.start = [0, 4, 8, 12] ∧
    (List.range 4).map InfoRequest.layout.start = [0, 4, 8, 16] :=
  ⟨rfl, rfl, rfl, rfl, rfl⟩

section
variable (order : ByteOrder)

theorem LoadRequest.unpack_pack (r : LoadRequest) :
    LoadRequest.layout.unpack order {} (r.pack order) = r := by
  rw [LoadRequest.pack, LoadRequest.separate_layout.unpack_pack]
  simp [LoadRequest.layout]

theorem AttachRequest.unpack_pack (r : AttachRequest) :
    AttachRequest.layout.unpack order {} (r.pack order) = r := by
  rw [AttachRequest.pack, AttachRequest.separate_layout.unpack_pack]
  simp [AttachRequest.layout]

theorem QueryRequest.unpack_pack (r : QueryRequest) :
    QueryRequest.unpack order (r.pack order) = r := by
  rw [QueryRequest.unpack, QueryRequest.pack, QueryRequest.separate_layout.unpack_pack]
  simp [QueryRequest.layout]

theorem OpenRequest.unpack_pack (r : OpenRequest) :
    OpenRequest.layout.unpack order {} (r.pack order) = r := by
  rw [OpenRequest.pack, OpenRequest.separate_layout.unpack_pack]
  simp [OpenRequest.layout]

theorem InfoRequest.unpack_pack (r : InfoRequest) :
    InfoRequest.unpack order (r.pack order) = r := by
  rw [InfoRequest.unpack, InfoRequest.pack, InfoRequest.separate_layout.unpack_pack]
  simp [InfoRequest.layout]

/-- No request loses a field, no field touches the bytes of another, and the two requests that are
read back are read from whatever bytes there are. -/
theorem requests_keep_fields :
    (∀ r : QueryRequest, QueryRequest.unpack order (r.pack order) = r) ∧
      (∀ r : InfoRequest, InfoRequest.unpack order (r.pack order) = r) ∧
      Function.Injective (LoadRequest.pack order) ∧
      Function.Injective (AttachRequest.pack order) ∧
      Function.Injective (OpenRequest.pack order) ∧
      LoadRequest.layout.Divided order ∧ AttachRequest.layout.Divided order ∧
      QueryRequest.layout.Divided order ∧ OpenRequest.layout.Divided order ∧
      InfoRequest.layout.Divided order ∧
      (∀ bytes, QueryRequest.unpack order bytes
          = QueryRequest.unpack order (bytes.take 32 ++ List.replicate (32 - bytes.length) 0) ∧
        (QueryRequest.unpack order bytes).pack order = Layout.fit 28 bytes ++ [0, 0, 0, 0]) ∧
      ∀ bytes, InfoRequest.unpack order bytes
          = InfoRequest.unpack order (bytes.take 16 ++ List.replicate (16 - bytes.length) 0) ∧
        (InfoRequest.unpack order bytes).pack order = Layout.fit 16 bytes := by
  refine ⟨QueryRequest.unpack_pack order, InfoRequest.unpack_pack order,
    Function.LeftInverse.injective (LoadRequest.unpack_pack order),
    Function.LeftInverse.injective (AttachRequest.unpack_pack order),
    Function.LeftInverse.injective (OpenRequest.unpack_pack order),
    LoadRequest.separate_layout.divided order, AttachRequest.separate_layout.divided order,
    QueryRequest.separate_layout.divided order, OpenRequest.separate_layout.divided order,
    InfoRequest.separate_layout.divided order, ?_, ?_⟩
  · intro bytes
    constructor
    · exact (Layout.unpack_fit order QueryRequest.layout {} bytes).symm
    · exact QueryRequest.separate_layout.pack_unpack order {} bytes
  · intro bytes
    constructor
    · exact (Layout.unpack_fit order InfoRequest.layout {} bytes).symm
    · exact (InfoRequest.separate_layout.pack_unpack order {} bytes).trans (List.append_nil _)

end

end DeviceFilter

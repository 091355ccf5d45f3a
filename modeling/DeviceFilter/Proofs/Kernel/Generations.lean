import DeviceFilter.Kernel.SystemCalls
import DeviceFilter.Proofs.Kernel.Fields

/-!
The two generations of a program's record. What either of them writes comes back, and the older one
is the front of the newer one, in writing and in reading. A reply that ends early gives the fields
that it has whole, and zero for those that it has nothing of.
-/
set_option autoImplicit false

namespace DeviceFilter

namespace ProgramInfo

variable (order : ByteOrder)

@[simp] theorem size_layout (generation : Generation) :
    (layout generation).size = generation.size := by
  cases generation <;> rfl

theorem spares_fields : (earlyFields ++ lateFields).Pairwise LayoutField.Spares := by
  simp only [earlyFields, lateFields, List.cons_append, List.nil_append, List.pairwise_cons,
    List.forall_mem_cons, LayoutField.Spares, LayoutField.word, LayoutField.long, LayoutField.raw,
    LayoutField.flag, implies_true, List.not_mem_nil, false_implies, and_self, List.Pairwise.nil]

theorem lawful_layout (generation : Generation) : (layout generation).Lawful where
  fits := fits_fields generation
  reads := by
    cases generation <;>
      simp [layout, earlyFields, lateFields, LayoutField.reads_word, LayoutField.reads_long,
        LayoutField.reads_raw, LayoutField.reads_flag]
  spares := by
    cases generation with
    | early => exact (List.pairwise_append.mp spares_fields).1
    | late => exact spares_fields
  room := size_fields generation

-- Where the fields begin, and where the last one ends.
example : (List.range 39).map (layout .late).start =
    [0, 4, 8, 16, 20, 24, 32, 40, 48, 52, 56, 64, 80, 84, 88, 96, 104, 108, 112, 120, 128, 132, 136,
      144, 148, 152, 160, 168, 172, 176, 180, 184, 192, 200, 208, 216, 220, 224, 228] := rfl

/-- The bits of byte number `i` that a record keeps. The bit field at 84 has one bit in use, and the
last four bytes belong to no field. -/
def keptBits (i : Nat) : UInt8 :=
  if i = 84 then
    match order with
    | .little => 0x01
    | .big => 0x80
  else if (84 < i ∧ i < 88) ∨ 228 ≤ i then 0
  else 0xFF

theorem mask_layout (generation : Generation) :
    (layout generation).mask order = (List.range generation.size).map (keptBits order) := by
  cases generation <;> cases order <;> decide +kernel

/-- A record comes back from its bytes as far as the generation has it, and bytes come back from
the record less the bits that no field keeps. -/
theorem exchange_round_trip :
    (∀ i : ProgramInfo, unpack .late order (i.pack .late order) = i) ∧
      (∀ i : ProgramInfo, unpack .early order (i.pack .early order) = { i with
        recursionMisses := 0, verifiedInstructions := 0, attachTypeInfoObject := 0
        attachTypeInfo := 0 }) ∧
      ∀ (generation : Generation) (b : Vector UInt8 generation.size),
        (unpack generation order b.toList).pack generation order
          = b.toList.mapIdx fun k byte => byte &&& keptBits order k := by
  refine ⟨unpack_pack .late order, unpack_pack .early order, ?_⟩
  intro generation b
  have hlength : b.toList.length = generation.size := b.length_toList
  rw [unpack, pack, (lawful_layout generation).pack_unpack, size_layout,
    Layout.fit_of_length hlength, mask_layout, maskBytes_range hlength]

/-! ## The older generation as a part of the newer one -/

theorem pack_early (i : ProgramInfo) :
    i.pack .early order = (i.pack .late order).take Generation.early.size := by
  have hlength : (earlyFields.flatMap (·.encode order i)).length = 208 :=
    Layout.length_flatMap_encode order (fits_fields .early) i
  calc i.pack .early order
      = earlyFields.flatMap (·.encode order i) := Layout.fit_of_length hlength
    _ = Layout.fit 208 ((layout .late).fields.flatMap (·.encode order i)) := by
        rw [layout, List.flatMap_append, Layout.fit_append hlength]
    _ = (i.pack .late order).take Generation.early.size := (Layout.take_fit 208 232 _).symm

theorem restricted_store_early : ∀ f ∈ earlyFields, ∀ bytes i,
    restricted .early (f.store order bytes i) = f.store order bytes (restricted .early i) := by
  simp only [earlyFields, List.forall_mem_cons, LayoutField.word, LayoutField.long,
    LayoutField.raw, LayoutField.flag, restricted, implies_true, List.not_mem_nil, false_implies,
    and_self]

theorem restricted_store_late : ∀ f ∈ lateFields, ∀ bytes i,
    restricted .early (f.store order bytes i) = restricted .early i := by
  simp only [lateFields, List.forall_mem_cons, LayoutField.word, LayoutField.long, restricted,
    implies_true, List.not_mem_nil, false_implies, and_self]

theorem unpack_early (bytes : List UInt8) :
    unpack .early order bytes = restricted .early (unpack .late order bytes) := by
  have hfront : Layout.fit 208 bytes = (Layout.fit 232 bytes).take 208 :=
    (Layout.take_fit 208 232 bytes).symm
  calc unpack .early order bytes
      = Layout.readFields order earlyFields (Layout.fit 208 bytes) {} := rfl
    _ = Layout.readFields order earlyFields (Layout.fit 232 bytes) (restricted .early {}) := by
        rw [hfront]
        exact Layout.readFields_take order (size_fields .early) (Layout.fit 232 bytes) {}
    _ = restricted .early (Layout.readFields order earlyFields (Layout.fit 232 bytes) {}) :=
        (Layout.readFields_commutes order (restricted_store_early order) _ _).symm
    _ = restricted .early (unpack .late order bytes) := by
        rw [unpack, Layout.unpack, layout, Layout.readFields_append,
          Layout.readFields_keeps order (restricted_store_late order)]

theorem unpack_fit (generation : Generation) (bytes : List UInt8) :
    unpack generation order (Layout.fit generation.size bytes) = unpack generation order bytes := by
  have hfit := Layout.unpack_fit order (layout generation) {} bytes
  rwa [size_layout] at hfit

/-! ## Replies that end early -/

/-- What a record says when the kernel wrote the first `written` bytes of `buffer`: the fields in
them are the kernel's, the fields behind them are zero. -/
structure ReadTo (generation : Generation) (order : ByteOrder) (buffer : List UInt8)
    (written : Nat) (i : ProgramInfo) : Prop where
  inside : ∀ k f, (layout generation).fields[k]? = some f →
    (layout generation).start k + f.size ≤ written →
    f.encode order i
      = maskBytes ((buffer.drop ((layout generation).start k)).take f.size) (f.kind.mask order)
  beyond : ∀ k f, (layout generation).fields[k]? = some f →
    written ≤ (layout generation).start k → f.encode order i = List.replicate f.size 0
  absent : i.restricted generation = i

theorem readTo_unpack (generation : Generation) (bytes : List UInt8) (written : Nat) :
    ReadTo generation order (Layout.fit generation.size bytes) written
      (unpack generation order (bytes.take written)) := by
  constructor
  · intro k f hf hwritten
    have hend := (lawful_layout generation).start_add_size_le hf
    rw [unpack, (lawful_layout generation).encode_unpack order hf,
      Layout.part_fit_take hwritten hend, size_layout]
  · intro k f hf hwritten
    have hend := (lawful_layout generation).start_add_size_le hf
    have hshort : (bytes.take written).length ≤ (layout generation).start k :=
      (List.length_take_le ..).trans hwritten
    rw [unpack, (lawful_layout generation).encode_unpack order hf, Layout.drop_fit hshort,
      List.take_replicate, Nat.min_eq_left (by omega)]
    exact maskBytes_zero (f.kind.length_mask order)
  · cases generation with
    | early => rw [unpack_early]; rfl
    | late => rfl

end ProgramInfo

theorem Memory.read_min (memory : Memory) (address : UInt64) (n size : Nat) :
    memory.read address (min n size) = (memory.read address size).take n := by
  unfold Memory.read
  cases memory.region? address with
  | none => exact List.take_nil.symm
  | some r =>
    change Layout.fit (min (min n size) r.size) r.bytes = _
    rw [Nat.min_assoc]
    exact (Layout.take_fit ..).symm

namespace SystemCalls

variable (order : ByteOrder)

/-- The call that asks for a program's record. -/
def infoCall (program : UInt32) (generation : Generation) (buffers : InfoBuffers) : BpfCall :=
  let wanted := (buffers.request arrayAddress).pack generation order
  let request : InfoRequest :=
    { program, length := UInt32.ofNat wanted.length, recordAddress := address 0 }
  { command := .info
    request := request.pack order
    memory := .ofBytes (address 0) wanted ::
      (InfoArray.all.filter (buffers.size · ≠ 0)).map fun array =>
        .zeroed (arrayAddress array) (buffers.size array) }

/-- How far the kernel says that it wrote the record. -/
def written (reply : BpfReply) : Nat := (InfoRequest.unpack order reply.request).length.toNat

/-- The bytes that lie where the record was asked for, whoever wrote them. -/
def recordBuffer (generation : Generation) (reply : BpfReply) : List UInt8 :=
  Layout.fit generation.size (reply.memory.read (address 0) generation.size)

/-- What the reply tells. -/
def infoTold (generation : Generation) (buffers : InfoBuffers) (reply : BpfReply) :
    Except SystemError InfoReply :=
  match reply.result with
  | .error number => .error (failure number)
  | .ok _ =>
    let bytes := reply.memory.read (address 0) (min (written order reply) generation.size)
    .ok
      { info := ProgramInfo.unpack generation order bytes
        translated := reply.memory.read (arrayAddress .translated) buffers.translated }

/-- Asking for a record is one call, and what is told depends on its reply alone. -/
theorem info_eq {m : Type → Type} [Monad m] (calls : SystemCalls m) (program : UInt32)
    (generation : Generation) (buffers : InfoBuffers) :
    calls.info order program generation buffers = do
      let reply ← calls.bpf (infoCall order program generation buffers)
      return infoTold order generation buffers reply := by
  have hsize : ((buffers.request arrayAddress).pack generation order).length = generation.size :=
    (Layout.length_pack ..).trans (ProgramInfo.size_layout generation)
  refine congrArg (calls.bpf (infoCall order program generation buffers) >>= ·) (funext ?_)
  intro reply
  rw [hsize, infoTold]
  cases reply.result <;> rfl

/-- A record is told as far as the kernel wrote it, unless there was an error. -/
def TellsRecord (generation : Generation) (reply : BpfReply)
    (told : Except SystemError InfoReply) : Prop :=
  match reply.result with
  | .error number => told = .error (failure number)
  | .ok _ => ∃ r, told = .ok r ∧
      ProgramInfo.ReadTo generation order (recordBuffer generation reply) (written order reply)
        r.info

theorem tellsRecord_infoTold (generation : Generation) (buffers : InfoBuffers) (reply : BpfReply) :
    TellsRecord order generation reply (infoTold order generation buffers reply) := by
  unfold TellsRecord infoTold
  cases reply.result with
  | error number => rfl
  | ok _ =>
    refine ⟨_, rfl, ?_⟩
    rw [Memory.read_min]
    exact ProgramInfo.readTo_unpack order generation _ _

end SystemCalls

/-- The older generation of the record is the front of the newer one, and a record is read from
whatever bytes there are: each field from its own bytes, those that are missing as zero. -/
theorem generations_compatible (order : ByteOrder) :
    (∀ i : ProgramInfo, i.pack .early order = (i.pack .late order).take 208) ∧
      (∀ (generation : Generation) (bytes : List UInt8),
        ProgramInfo.unpack generation order bytes
          = ProgramInfo.unpack generation order
            (bytes.take generation.size ++ List.replicate (generation.size - bytes.length) 0)) ∧
      (∀ bytes, ProgramInfo.unpack .early order bytes = { ProgramInfo.unpack .late order bytes with
        recursionMisses := 0, verifiedInstructions := 0, attachTypeInfoObject := 0
        attachTypeInfo := 0 }) ∧
      (∀ (generation : Generation) k f, (ProgramInfo.layout generation).fields[k]? = some f →
        (ProgramInfo.layout generation).start k + f.size ≤ generation.size ∧
        ∀ bytes, f.encode order (ProgramInfo.unpack generation order bytes)
          = maskBytes (((Layout.fit generation.size bytes).drop
              ((ProgramInfo.layout generation).start k)).take f.size) (f.kind.mask order)) ∧
      ∀ (m : Type → Type) [Monad m] (calls : SystemCalls m) (program : UInt32)
        (generation : Generation) (buffers : InfoBuffers),
        (calls.info order program generation buffers = do
          let reply ← calls.bpf (SystemCalls.infoCall order program generation buffers)
          return SystemCalls.infoTold order generation buffers reply) ∧
        ∀ reply, SystemCalls.TellsRecord order generation reply
          (SystemCalls.infoTold order generation buffers reply) := by
  refine ⟨ProgramInfo.pack_early order, ?_, ProgramInfo.unpack_early order, ?_, ?_⟩
  · intro generation bytes
    exact (ProgramInfo.unpack_fit order generation bytes).symm
  · intro generation k f hf
    have hlawful := ProgramInfo.lawful_layout generation
    have hend := hlawful.start_add_size_le hf
    rw [ProgramInfo.size_layout] at hend
    refine ⟨hend, ?_⟩
    intro bytes
    rw [ProgramInfo.unpack, hlawful.encode_unpack order hf, ProgramInfo.size_layout]
  · intro m _ calls program generation buffers
    constructor
    · exact SystemCalls.info_eq order calls program generation buffers
    · exact SystemCalls.tellsRecord_infoTold order generation buffers

end DeviceFilter

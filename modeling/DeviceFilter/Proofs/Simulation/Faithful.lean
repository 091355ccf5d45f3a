import DeviceFilter.Proofs.Kernel.Faithful
import DeviceFilter.Proofs.Kernel.Layout
import DeviceFilter.Simulation.Kernel

/-!
The kernel in memory is faithful as long as nothing is planned for it.
-/
set_option autoImplicit false

namespace DeviceFilter.Simulation

section
variable {Key Value : Type} [DecidableEq Key] (entries : List (Key × Value)) (key : Key)

theorem lookup_cons_eq (other : Key) (value : Value) :
    ((key, value) :: entries).lookup other
      = if other = key then some value else entries.lookup other := by
  by_cases h : other = key
  · subst h
    simp
  · rw [List.lookup_cons, beq_false_of_ne h, if_neg h]

/-- Looking up after the entries of one key are replaced. -/
theorem lookup_map_replace (value : Value) (other : Key) :
    (entries.map fun e => if e.1 = key then (key, value) else e).lookup other
      = if other = key then (entries.lookup key).map (fun _ => value)
        else entries.lookup other := by
  induction entries with
  | nil => simp
  | cons e entries ih =>
    obtain ⟨k, old⟩ := e
    by_cases hk : k = key
    · subst hk
      rw [List.map_cons, if_pos rfl, lookup_cons_eq, ih, lookup_cons_eq, lookup_cons_eq]
      split <;> simp
    · rw [List.map_cons, if_neg hk, lookup_cons_eq, ih, lookup_cons_eq, lookup_cons_eq,
        if_neg (Ne.symm hk)]
      split
      · rename_i hother
        rw [if_neg (hother ▸ hk)]
      · rfl

end

namespace KernelState

def kept (p : StoredProgram) : KeptProgram where
  instructions := Program.records .native p.translated
  license := p.license
  name := p.name
  gplCompatible := p.gplCompatible.getD (p.license == "GPL")

def store (s : KernelState) : KernelStore Path where
  program? id := (s.program? id).map kept
  attached := s.attachedTo
  refusal? _ := none
  room := 2 ^ 32 - 1 - s.lastId.toNat

/-- A program with a bytewise copy of its instructions, about which only the truth is reported. -/
structure Plain (p : StoredProgram) : Prop where
  translated : (Program.records .native p.translated).encode .native = p.translated
  reported : p.reportedLengths = []

structure Quiet (s : KernelState) : Prop where
  faults : s.faults = []
  replies : s.plannedReplies = []
  plain : ∀ id p, s.program? id = some p → Plain p
  older : ∀ id p, s.program? id = some p → id.toNat ≤ s.lastId.toNat
  held : ∀ path, ∀ id ∈ s.attachedTo path, (s.program? id).isSome

def view : KernelView KernelState UInt32 Path where
  Valid := Quiet
  store := store
  idOf := id
  cgroupAt := id
  isGpl license := license == "GPL"

/-! ## Changes of the state -/

def noted (s : KernelState) (call : KernelCall) : KernelState :=
  { s with calls := s.calls ++ [call] }

theorem Quiet.fault? {s : KernelState} (h : s.Quiet) (point : FaultPoint) (id : UInt32) :
    s.fault? point id = none := by
  rw [KernelState.fault?, h.faults]
  rfl

theorem Quiet.noted {s : KernelState} (h : s.Quiet) (call : KernelCall) : (s.noted call).Quiet :=
  ⟨h.faults, h.replies, h.plain, h.older, h.held⟩

theorem attachedTo_setAttached (s : KernelState) (path : Path) (ids : List UInt32) (other : Path) :
    (s.setAttached path ids).attachedTo other
      = if other = path then ids else s.attachedTo other := by
  unfold setAttached
  split
  · rename_i hknown
    simp only [attachedTo, lookup_map_replace]
    split
    · obtain ⟨old, hold⟩ := Option.isSome_iff_exists.mp hknown
      rw [hold]
      rfl
    · rfl
  · rename_i hunknown
    have hnone : s.attached.lookup path = none :=
      Option.not_isSome_iff_eq_none.mp hunknown
    have hentry := lookup_cons_eq [] path other ids
    simp only [attachedTo, List.lookup_append, hentry]
    split
    · rename_i hother
      rw [hother, hnone]
      rfl
    · rw [List.lookup_nil, Option.or_none]

theorem setAttached_eq (s : KernelState) (path : Path) (ids : List UInt32) :
    ∃ attached, s.setAttached path ids = { s with attached } := by
  unfold setAttached
  split <;> exact ⟨_, rfl⟩

theorem store_setAttached (s : KernelState) (path : Path) (ids : List UInt32) :
    (s.setAttached path ids).store = s.store.setAttached path ids := by
  have hattached : (s.setAttached path ids).attachedTo
      = Function.update s.attachedTo path ids := by
    funext other
    rw [attachedTo_setAttached, Function.update_apply]
  obtain ⟨attached, heq⟩ := setAttached_eq s path ids
  simp only [store, KernelStore.setAttached, hattached]
  rw [heq]
  rfl

theorem Quiet.setAttached {s : KernelState} (h : s.Quiet) (path : Path) {ids : List UInt32}
    (hids : ∀ id ∈ ids, (s.program? id).isSome) : (s.setAttached path ids).Quiet := by
  have hheld : ∀ other, ∀ id ∈ (s.setAttached path ids).attachedTo other,
      (s.program? id).isSome := by
    intro other id hid
    rw [attachedTo_setAttached] at hid
    split at hid
    · exact hids id hid
    · exact h.held other id hid
  obtain ⟨attached, heq⟩ := setAttached_eq s path ids
  rw [heq] at hheld ⊢
  exact ⟨h.faults, h.replies, h.plain, h.older, hheld⟩

theorem toNat_nextId {s : KernelState} (h : 0 < s.store.room) :
    s.nextId.toNat = s.lastId.toNat + 1 := by
  have hlast : s.lastId.toNat + 1 < 2 ^ 32 := by
    simp only [store] at h
    omega
  rw [nextId, UInt32.toNat_add]
  exact Nat.mod_eq_of_lt hlast

theorem Quiet.program?_nextId {s : KernelState} (h : s.Quiet) (hroom : 0 < s.store.room) :
    s.program? s.nextId = none := by
  cases hp : s.program? s.nextId with
  | none => rfl
  | some p =>
    have hle := h.older _ p hp
    rw [toNat_nextId hroom] at hle
    omega

theorem program?_addProgram (s : KernelState) (p : StoredProgram) (id : UInt32) :
    (s.addProgram p).program? id = if id = s.nextId then some p else s.program? id :=
  lookup_cons_eq s.programs s.nextId id p

theorem store_addProgram {s : KernelState} (hroom : 0 < s.store.room) (p : StoredProgram) :
    (s.addProgram p).store = s.store.load s.nextId (kept p) := by
  have hprograms : (fun id => ((s.addProgram p).program? id).map kept)
      = Function.update (fun id => (s.program? id).map kept) s.nextId (some (kept p)) := by
    funext id
    rw [program?_addProgram, Function.update_apply]
    split <;> rfl
  have hlast : 2 ^ 32 - 1 - s.nextId.toNat = 2 ^ 32 - 1 - s.lastId.toNat - 1 := by
    rw [toNat_nextId hroom]
    omega
  rw [store, hprograms]
  exact congrArg (KernelStore.mk _ _ _) hlast

theorem Quiet.addProgram {s : KernelState} (h : s.Quiet) (hroom : 0 < s.store.room)
    {p : StoredProgram} (hp : Plain p) : (s.addProgram p).Quiet := by
  have hlast : (s.addProgram p).lastId.toNat = s.lastId.toNat + 1 := toNat_nextId hroom
  constructor
  · exact h.faults
  · exact h.replies
  · intro id q hq
    rw [program?_addProgram] at hq
    split at hq
    · cases hq
      exact hp
    · exact h.plain id q hq
  · intro id q hq
    rw [program?_addProgram] at hq
    rw [hlast]
    split at hq
    · rename_i hid
      rw [hid, toNat_nextId hroom]
    · exact Nat.le_succ_of_le (h.older id q hq)
  · intro path id hid
    rw [program?_addProgram]
    split
    · rfl
    · exact h.held path id hid

theorem program?_setProgram {s : KernelState} {id : UInt32} {p : StoredProgram}
    (h : s.program? id = some p) (other : UInt32) :
    (s.setProgram id p).program? other = s.program? other := by
  rw [program?, setProgram, lookup_map_replace]
  split
  · rename_i hother
    rw [hother]
    exact h ▸ congrArg (Option.map fun _ => p) h
  · rfl

theorem store_setProgram {s : KernelState} {id : UInt32} {p : StoredProgram}
    (h : s.program? id = some p) : (s.setProgram id p).store = s.store := by
  simp only [store, program?_setProgram h]
  rfl

theorem Quiet.setProgram {s : KernelState} (h : s.Quiet) {id : UInt32} {p : StoredProgram}
    (hp : s.program? id = some p) : (s.setProgram id p).Quiet := by
  have hsame := program?_setProgram hp
  constructor
  · exact h.faults
  · exact h.replies
  · intro other q hq
    exact h.plain other q (hsame other ▸ hq)
  · intro other q hq
    exact h.older other q (hsame other ▸ hq)
  · intro path other hother
    rw [hsame]
    exact h.held path other hother

theorem quiet_empty : Quiet {} := by
  constructor
  · rfl
  · rfl
  · rintro id p ⟨⟩
  · rintro id p ⟨⟩
  · rintro path id ⟨⟩

theorem Quiet.install {s : KernelState} (h : s.Quiet) {p : StoredProgram} (hp : Plain p)
    (path : Path) {times : Nat} (hroom : times ≤ s.store.room) :
    (s.install path p times).Quiet := by
  induction times generalizing s with
  | zero => exact h
  | succ times ih =>
    have hpositive : 0 < s.store.room := by omega
    have hadded := h.addProgram hpositive hp
    refine ih (hadded.setAttached path ?_) ?_
    · intro id hid
      rcases List.mem_append.mp hid with hold | hnew
      · exact hadded.held path id hold
      · have hid' : id = s.nextId := List.mem_singleton.mp hnew
        rw [program?_addProgram, if_pos hid']
        rfl
    · rw [KernelState.attachId, store_setAttached, store_addProgram hpositive]
      change times ≤ s.store.room - 1
      omega

theorem isSome_store_program? (s : KernelState) (id : UInt32) :
    (s.store.program? id).isSome = (s.program? id).isSome :=
  Option.isSome_map

/-! ## Records -/

theorem Plain.infoOf {p : StoredProgram} (h : Plain p) (id : UInt32) (generation : Generation) :
    (infoOf id p generation).translatedLength = .ofNat (8 * (kept p).instructions.length) ∧
      (infoOf id p generation).gplCompatible = (kept p).gplCompatible := by
  have hlength : p.translated.length = 8 * (kept p).instructions.length := by
    rw [← Program.length_encode .native]
    exact congrArg List.length h.translated.symm
  have hreported : p.reportedLengths.head?.getD (UInt32.ofNat p.translated.length)
      = .ofNat (8 * (kept p).instructions.length) := by
    rw [h.reported, hlength]
    rfl
  rw [KernelState.infoOf, ProgramInfo.unpack_pack, ← hreported]
  cases generation <;> exact ⟨rfl, rfl⟩

theorem kept_encode {instructions : Program} (h : instructions.Encodable) (license name : String) :
    kept { translated := instructions.encode .native, license, name }
      = ⟨instructions, license, name, license == "GPL"⟩ := by
  simp only [kept, Program.records_encode, Program.map_reduced h, Option.getD_none]

theorem plain_encode {instructions : Program} (h : instructions.Encodable) (license name : String) :
    Plain { translated := instructions.encode .native, license, name } :=
  ⟨by rw [Program.records_encode, Program.map_reduced h], rfl⟩

end KernelState

/-! ## Calls -/

namespace SimulatedKernel

open KernelState

theorem state_apply (s : KernelState) : (state : StateM KernelState KernelState) s = (s, s) := rfl

theorem note_apply (call : KernelCall) (s : KernelState) :
    (note call : StateM KernelState Unit) s = ((), s.noted call) := rfl

variable {s : KernelState} (h : s.Quiet)
include h

theorem unlessFault_apply {α : Type} (point : FaultPoint) (id : UInt32)
    (action : StateM KernelState (Except SystemError α)) :
    unlessFault point id action s = action s := by
  rw [unlessFault, Counted.bind_apply, state_apply]
  dsimp only
  rw [h.fault? point id]

theorem openCgroup_apply (path : Path) : openCgroup (m := StateM KernelState) path s
    = (.ok path, s.noted (.openCgroup path)) :=
  unlessFault_apply (h.noted _) .openCgroup 0 _

theorem query_apply (path : Path) (capacity : Nat) :
    query (m := StateM KernelState) path capacity s
      = (s.store.queryReply path capacity, s.noted (.query path capacity)) := by
  have hreplies : (s.noted (.query path capacity)).plannedReplies = [] := h.replies
  rw [query, Counted.bind_apply, note_apply]
  dsimp only
  rw [Counted.bind_apply, state_apply]
  dsimp only
  rw [hreplies]
  change (if capacity < (s.attachedTo path).length
    then pure (Except.error (.noSpace (.ofNat (s.attachedTo path).length)))
    else pure (Except.ok ⟨.ofNat (s.attachedTo path).length, s.attachedTo path⟩) :
      StateM KernelState (Except QueryError QueryReply)) (s.noted _) = _
  have hreply : s.store.queryReply path capacity
      = if capacity < (s.attachedTo path).length
        then Except.error (.noSpace (.ofNat (s.attachedTo path).length))
        else Except.ok ⟨.ofNat (s.attachedTo path).length, s.attachedTo path⟩ := rfl
  rw [hreply]
  split <;> rfl

theorem openProgram_apply {id : UInt32} (hid : (s.program? id).isSome) :
    openProgram (m := StateM KernelState) id s = (.ok id, s.noted (.openProgram id)) := by
  refine (unlessFault_apply (h.noted _) .openProgram id _).trans ?_
  change (if (s.program? id).isSome then pure (Except.ok id)
    else pure (Except.error (SystemError.errno Errno.noEntry)) :
      StateM KernelState (Except SystemError UInt32)) (s.noted _) = _
  rw [if_pos hid]
  rfl

theorem answerInfo_apply {id : UInt32} {p : StoredProgram} (hp : s.program? id = some p)
    (generation : Generation) (buffers : InfoBuffers) :
    answerInfo (m := StateM KernelState) id generation buffers s
      = (.ok ⟨infoOf id p generation, p.translated.take buffers.translated⟩, s.setProgram id p) := by
  have hreported : { p with reportedLengths := p.reportedLengths.tail } = p := by
    have hplain := (h.plain id p hp).reported
    cases p
    cases hplain
    rfl
  rw [answerInfo, Counted.bind_apply, state_apply]
  dsimp only
  rw [hp]
  change (_, s.setProgram id { p with reportedLengths := p.reportedLengths.tail }) = _
  rw [hreported]

theorem info_apply {id : UInt32} {p : StoredProgram} (hp : s.program? id = some p)
    (generation : Generation) (buffers : InfoBuffers) :
    info (m := StateM KernelState) id generation buffers s
      = (.ok ⟨infoOf id p generation, p.translated.take buffers.translated⟩,
        (s.noted (.info id generation buffers)).setProgram id p) := by
  have hnoted := h.noted (.info id generation buffers)
  refine (unlessFault_apply hnoted .info id _).trans ?_
  split
  · exact answerInfo_apply hnoted hp generation buffers
  · rw [unlessFault_apply hnoted]
    exact answerInfo_apply hnoted hp generation buffers

theorem load_apply (instructions : Program) (license name : String) :
    load (m := StateM KernelState) instructions license name s
      = (.ok s.nextId, (s.noted (.load s.nextId instructions license name)).addProgram
          { translated := instructions.encode .native, license, name }) :=
  unlessFault_apply (h.noted _) .load s.nextId _

theorem attach_apply (id : UInt32) (path : Path) (flags : UInt32) :
    attach (m := StateM KernelState) id path flags s
      = (.ok (), (s.noted (.attach id path flags)).attachId path id) :=
  unlessFault_apply (h.noted _) .attach id _

theorem detach_apply {id : UInt32} {path : Path} (hid : id ∈ s.attachedTo path) :
    detach (m := StateM KernelState) id path s
      = (.ok (), (s.noted (.detach id path)).setAttached path ((s.attachedTo path).erase id)) := by
  refine (unlessFault_apply (h.noted _) .detach id _).trans ?_
  change (if (s.attachedTo path).contains id then do
      modifyThe KernelState (·.setAttached path ((s.attachedTo path).erase id))
      return Except.ok ()
    else pure (Except.error (SystemError.errno Errno.noEntry)) :
      StateM KernelState (Except SystemError Unit)) (s.noted _) = _
  rw [if_pos (List.contains_iff_mem.mpr hid)]
  rfl

theorem raiseMemlock_apply : raiseMemlock (m := StateM KernelState) s
    = (.ok (), s.noted .raiseMemlock) :=
  unlessFault_apply (h.noted _) .raiseMemlock 0 _

end SimulatedKernel

open KernelState SimulatedKernel in
theorem faithful_kernel : view.Faithful (kernel (m := StateM KernelState)) where
  held := by
    rintro s _ ⟨hs, rfl⟩ path id hid
    exact (isSome_store_program? s id).trans (hs.held path id hid)
  openCgroup := by
    rintro s _ ⟨hs, rfl⟩ path
    exact ⟨_, openCgroup_apply hs path, hs.noted _, rfl⟩
  query := by
    rintro s _ ⟨hs, rfl⟩ path capacity _
    exact ⟨_, query_apply hs path capacity, hs.noted _, rfl⟩
  opens := by
    rintro s _ ⟨hs, rfl⟩ id hid _
    have hsome := (isSome_store_program? s id).symm.trans hid
    exact ⟨id, _, openProgram_apply hs hsome, rfl, hs.noted _, rfl⟩
  refuses := by
    rintro s _ ⟨-, rfl⟩ id cause hrefusal
    cases hrefusal
  info := by
    rintro s _ ⟨hs, rfl⟩ id p hp generation buffers
    obtain ⟨q, hq, rfl⟩ := Option.map_eq_some_iff.mp hp
    have hplain := hs.plain id q hq
    obtain ⟨hlength, hgpl⟩ := hplain.infoOf id generation
    refine ⟨_, _, info_apply hs hq generation buffers,
      ⟨(hs.noted _).setProgram hq, store_setProgram hq⟩, hlength, ?_, hgpl⟩
    exact congrArg (List.take buffers.translated) hplain.translated.symm
  load := by
    rintro s _ ⟨hs, rfl⟩ hroom instructions license name hencodable
    -- the record keeps four bits of a register number, so only encodable programs come back
    have hplain := plain_encode hencodable license name
    have hnoted := hs.noted (.load s.nextId instructions license name)
    refine ⟨_, _, load_apply hs instructions license name, ?_, hnoted.addProgram hroom hplain, ?_⟩
    · exact congrArg (Option.map kept) (hs.program?_nextId hroom)
    · refine (store_addProgram hroom _).trans ?_
      rw [kept_encode hencodable]
      rfl
  attach := by
    rintro s _ ⟨hs, rfl⟩ id path flags hid
    have hsome := (isSome_store_program? s id).symm.trans hid
    refine ⟨_, attach_apply hs id path flags, (hs.noted _).setAttached path ?_,
      store_setAttached _ path _⟩
    intro other hother
    rcases List.mem_append.mp hother with hold | hnew
    · exact hs.held path other hold
    · rw [List.mem_singleton.mp hnew]
      exact hsome
  detach := by
    rintro s _ ⟨hs, rfl⟩ id path hid
    refine ⟨_, detach_apply hs hid, (hs.noted _).setAttached path ?_,
      store_setAttached _ path _⟩
    intro other hother
    exact hs.held path other (List.mem_of_mem_erase hother)
  raiseMemlock := by
    rintro s _ ⟨hs, rfl⟩
    exact ⟨_, _, raiseMemlock_apply hs, hs.noted _, rfl⟩

end DeviceFilter.Simulation

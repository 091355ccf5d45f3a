import DeviceFilter.Proofs.Program.Flow
import DeviceFilter.Proofs.Program.Meaning

/-!
Programs that mean the same on hosts of either byte order. The event is laid out in words, so only
a load of one of these words, through the register that holds their address, is sure to find the
same number in both layouts. A program that loads nothing else and keeps that address takes the
same steps on both hosts, whether it ends or not. Compiled rules do so, and their tail may.
-/
set_option autoImplicit false

namespace DeviceFilter

open Machine Compile

/-- Loads whole words of the event, if anything, and leaves the event's address alone. -/
def Instruction.Portable (i : Instruction) : Prop :=
  i.dst ≠ register.context ∧ (i.opClass = .loadContext → i.src = register.context ∧
    i.size = .word ∧ i.offset ∈ [accessTypeOffset, majorOffset, minorOffset])

instance (i : Instruction) : Decidable i.Portable := by
  unfold Instruction.Portable
  infer_instance

theorem Event.word_in_context {offset : Int16}
    (h : offset ∈ [accessTypeOffset, majorOffset, minorOffset]) (e : Event) :
    ∃ v, ∀ order : ByteOrder,
      order.value (((e.context order).drop offset.toInt64.toUInt64.toNat).take 4) = v := by
  simp only [List.mem_cons, List.not_mem_nil, or_false] at h
  rcases h with rfl | rfl | rfl
  · exact ⟨_, fun order => accessType_in_context order e⟩
  · exact ⟨_, fun order => major_in_context order e⟩
  · exact ⟨_, fun order => minor_in_context order e⟩

/-! ## Two hosts in step -/

namespace Machine

variable {code : Array Instruction} {s s' : State} {i : Instruction} {e : Event}
variable (order order' : ByteOrder)

theorem stepLoad_portable {dst src : Fin registerCount} (hi : i.Portable)
    (hclass : i.opClass = .loadContext) (hsrc : register? i.src = some src)
    (hs : s.registers.get 1 = contextBase) :
    stepLoad s i dst src order (e.context order)
      = stepLoad s i dst src order' (e.context order') := by
  obtain ⟨hcontext, hsize, hoffset⟩ := hi.2 hclass
  obtain rfl : src = 1 := by
    rw [hcontext] at hsrc
    exact Option.some.inj (hsrc.symm.trans (by decide))
  have hread : s.registers[(1 : Fin registerCount)] = contextBase := hs
  have hplace : contextBase + i.offset.toInt64.toUInt64 - contextBase
      = i.offset.toInt64.toUInt64 := by
    rw [UInt64.add_comm, UInt64.add_sub_cancel]
  obtain ⟨v, hv⟩ := e.word_in_context hoffset
  simp only [stepLoad, hread, hplace, hsize, AccessSize.width, hv]

theorem step_portable (hcode : ∀ i, code[s.position]? = some i → i.Portable)
    (hs : s.registers.get 1 = contextBase) :
    step order (e.context order) code s = step order' (e.context order') code s := by
  unfold step
  cases hi : code[s.position]? with
  | none => rfl
  | some i =>
    dsimp only
    split
    · split
      · rfl
      · rfl
      · rfl
      · rfl
      · split
        · exact stepLoad_portable order order' (hcode i hi) ‹_› ‹_› hs
        · rfl
      · rfl
      · rfl
      · rfl
    · rfl

theorem get_write_ne {d r : Fin registerCount} (hd : register? i.dst = some d)
    (hr : i.dst.toNat ≠ r.val) (value : UInt64) (advance : Nat) :
    (s.write d value advance).registers.get r = s.registers.get r := by
  apply get_set_ne
  rintro rfl
  exact hr (lt_of_register? hd).2.symm

theorem step_keeps_context {context : List UInt8}
    (hcode : ∀ i, code[s.position]? = some i → i.Portable)
    (h : step order context code s = .next s') : s'.registers.get 1 = s.registers.get 1 := by
  obtain ⟨i, hi, -⟩ := step_moves h
  have hne : i.dst.toNat ≠ (1 : Fin registerCount).val := by
    intro heq
    exact (hcode i hi).1 (UInt8.toNat_inj.mp heq)
  have hdoes : Does code s i (step order context code s) := step_does hi
  rw [h] at hdoes
  cases hdoes with
  | write value hd => exact get_write_ne hd hne value 1
  | wide value hd => exact get_write_ne hd hne value 2
  | pass => rfl
  | branch => rfl

theorem runFrom_portable (hcode : ∀ i ∈ code, i.Portable) (fuel : Nat)
    (hs : s.registers.get 1 = contextBase) :
    runFrom order (e.context order) code fuel s = runFrom order' (e.context order') code fuel s := by
  induction fuel generalizing s with
  | zero => rfl
  | succ fuel ih =>
    have hhere : ∀ i, code[s.position]? = some i → i.Portable := by
      intro i hi
      exact hcode i (Array.mem_of_getElem? hi)
    rw [runFrom, runFrom, step_portable order order' hhere hs]
    cases hstep : step order' (e.context order') code s with
    | next s' => exact ih ((step_keeps_context order' hhere hstep).trans hs)
    | answer value => rfl
    | fault f => rfl

end Machine

/-! ## Compiled programs -/

namespace Compile

open Instruction

theorem portable_link {after : Nat} {ps : List Pending}
    (h : ∀ q ∈ ps, q.instruction.dst ≠ register.context ∧ q.instruction.opClass ≠ .loadContext) :
    ∀ i ∈ link after ps, i.Portable := by
  induction ps with
  | nil => exact List.forall_mem_nil _
  | cons q ps ih =>
    obtain ⟨⟨hdst, hclass⟩, hrest⟩ := List.forall_mem_cons.mp h
    refine List.forall_mem_cons.mpr ⟨?_, ih hrest⟩
    -- The offset that a branch is given is not that of a load.
    cases q.target with
    | none => exact ⟨hdst, fun hload => absurd hload hclass⟩
    | some label => exact ⟨hdst, fun hload => absurd hload hclass⟩

theorem portable_linked (r : RuleMatch) : ∀ i ∈ linked r, i.Portable := by
  have hbranch {i : Instruction} (h : i.control = .branch) : i.opClass ≠ .loadContext := by
    intro hclass
    rw [control_eq_next (by simp [hclass]) (by simp [hclass]) (by simp [hclass])] at h
    cases h
  have halu {i : Instruction} (h : i.opClass = .alu32) : i.opClass ≠ .loadContext := by
    rw [h]
    decide
  have hunless {reg : UInt8} (h : reg ≠ register.context) (value : UInt32) :
      (jumpUnless reg value).dst ≠ register.context ∧
        (jumpUnless reg value).opClass ≠ .loadContext := by
    refine ⟨?_, hbranch (control_jumpUnless reg value)⟩
    unfold jumpUnless
    split
    · exact h
    · exact h
  have htype : register.type ≠ register.context := by decide
  have hscratch : register.scratch ≠ register.context := by decide
  have hresult : register.result ≠ register.context := by decide
  apply portable_link
  apply forall_mem_block
  · exact forall_mem_comparisons (fun _ => ⟨htype, hbranch (control_jumpNeImm _ _ _)⟩)
      ⟨hscratch, halu (opClass_mov32Reg _ _)⟩ (fun _ => ⟨hscratch, halu (opClass_alu32Imm _ _ _)⟩)
      ⟨hscratch, hbranch (control_jumpNeReg _ _ _)⟩ (hunless (by decide)) (hunless (by decide))
  · exact fun _ => ⟨hresult, halu (opClass_alu32Imm _ _ _)⟩
  · exact ⟨hresult, by decide⟩

theorem portable_prologue : ∀ i ∈ prologue, i.Portable := by decide

end Compile

namespace Program

def Portable (p : Program) : Prop := ∀ i ∈ p, i.Portable

variable {p tail : Program}

/-- A portable program has the same result on both hosts. -/
theorem Portable.runOn_eq (h : p.Portable) (order order' : ByteOrder) (e : Event) :
    p.runOn order e = p.runOn order' e := by
  apply runFrom_portable order order'
  · intro i hi
    exact h i (List.mem_toArray.mp hi)
  · rfl

theorem portable_constant (fallback : Bool) : (constant fallback).Portable := by
  cases fallback <;> (unfold Portable; decide)

theorem portable_compile {rules : List DeviceRule} (htail : tail ≠ []) (h : tail.Portable)
    (hp : compile tail rules = .ok p) : p.Portable :=
  forall_mem_compile portable_prologue portable_linked htail h hp

theorem portable_compileAll {lists : List (List DeviceRule)} (htail : tail ≠ []) (h : tail.Portable)
    (hp : compileAll tail lists = .ok p) : p.Portable := by
  induction lists generalizing tail with
  | nil =>
    obtain rfl : tail = p := Except.ok.inj hp
    exact h
  | cons rules later ih =>
    obtain ⟨q, hq, hlater⟩ := exists_of_compileAll_cons hp
    exact ih (compile_ne_nil htail hq) (portable_compile htail h hq) hlater

/-- Rules compiled over one another have the same result on hosts of either byte order, also where
that is the end of the steps, and for access bits beyond those that a record has room for. -/
theorem runOn_little_eq_big {fallback : Bool} {lists : List (List DeviceRule)}
    (hp : compileAll (constant fallback) lists = .ok p) (e : Event) :
    p.runOn .little e = p.runOn .big e := by
  have hportable := portable_compileAll (constant_ne_nil fallback) (portable_constant fallback) hp
  exact hportable.runOn_eq .little .big e

/-- A list over another one, and an event with a bit beyond the access modes. -/
theorem runOn_little_eq_big_largeMinor : ∃ p,
    compileAll (constant true) [[⟨false, "b", none, some 4294967295, "wm"⟩],
      [⟨true, "a", some 8, none, "r"⟩]] = .ok p ∧
    p.runOn .little ⟨.block, ⟨65540⟩, 9, 4294967295⟩ = .ok 0 ∧
    p.runOn .big ⟨.block, ⟨65540⟩, 9, 4294967295⟩ = .ok 0 := by
  obtain ⟨p, hp⟩ : ∃ p, compileAll (constant true) [[⟨false, "b", none, some 4294967295, "wm"⟩],
      [⟨true, "a", some 8, none, "r"⟩]] = .ok p := ⟨_, rfl⟩
  have hsame := runOn_little_eq_big hp ⟨.block, ⟨65540⟩, 9, 4294967295⟩
  have hlittle : p.runOn .little ⟨.block, ⟨65540⟩, 9, 4294967295⟩ = .ok 0 := by
    cases hp
    rfl
  exact ⟨p, hp, hlittle, hsame.symm.trans hlittle⟩

end Program

end DeviceFilter

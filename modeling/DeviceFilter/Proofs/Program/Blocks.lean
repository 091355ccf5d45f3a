import DeviceFilter.Proofs.Program.Linked
import DeviceFilter.Proofs.Program.Prologue

/-!
What the blocks of a compiled program do. A block answers the events its rule applies to and hands
all others to whatever follows it, the event still in the registers. The comparisons in front of
the answer are tests one after another: `Tests` says where each leads, and tests in a row are one
test of all of them.
-/
set_option autoImplicit false

namespace DeviceFilter.Machine

open Compile Instruction

variable {order : ByteOrder} {e : Event}

/-- Wherever `ps` is linked, it leads to its end if `b` is true and as far beyond as it was linked
for if `b` is false, and keeps the event in the registers. -/
def Tests (order : ByteOrder) (e : Event) (b : Bool) (ps : List Pending) : Prop :=
  ∀ ⦃code : Array Instruction⦄ ⦃position after : Nat⦄ ⦃rs : Registers⦄,
    ps.length + after ≤ 32767 → Holds e rs → Lies code position (link after ps) →
      ∃ rs', Holds e rs' ∧ Reaches order (e.context order) code ⟨position, rs⟩
        ⟨position + ps.length + (if b then 0 else after), rs'⟩

theorem Tests.nil : Tests order e true [] := by
  intro code position after rs _ hrs _
  exact ⟨rs, hrs, .refl⟩

theorem Tests.append {b c : Bool} {ps qs : List Pending} (hp : Tests order e b ps)
    (hq : Tests order e c qs) : Tests order e (b && c) (ps ++ qs) := by
  intro code position after rs hsmall hrs hcode
  rw [link_append, lies_append, length_link] at hcode
  rw [List.length_append] at hsmall ⊢
  obtain ⟨rs', hrs', hreach⟩ := hp (by omega) hrs hcode.1
  cases b with
  | false =>
    refine ⟨rs', hrs', ?_⟩
    have hend : position + ps.length + (qs.length + after)
        = position + (ps.length + qs.length) + after := by omega
    simpa only [Bool.false_and, Bool.false_eq_true, if_false, hend] using hreach
  | true =>
    obtain ⟨rs'', hrs'', hreach'⟩ := hq (by omega) hrs' hcode.2
    refine ⟨rs'', hrs'', ?_⟩
    rw [Bool.true_and, ← Nat.add_assoc position]
    exact hreach.trans hreach'

theorem jumpTo_linked {s : State} {i : Instruction} {n : Nat} (hn : n ≤ 32767)
    (hoffset : i.offset = Int16.ofInt n) (taken : Bool) :
    jumpTo s i taken
      = .next { s with position := s.position + 1 + if taken then n else 0 } := by
  cases taken with
  | false => exact jumpTo_false s i
  | true =>
    apply jumpTo_true
    have hint : i.offset.toInt = n := by
      rw [hoffset]
      exact Int16.toInt_ofInt_of_le (by omega) (by omega)
    rw [Program.branchTarget, hint]
    simp only [if_true]
    omega

section
variable {reg : UInt8} {d : Fin registerCount} {next : Label}

theorem tests_branch {i : Instruction} {r : Fin registerCount} {wide b : Bool}
    (hd : register? i.dst = some d) (hr : register? i.src = some r)
    (hclass : i.opClass = if wide then .jump else .jump32) (hop : i.jumpOp? = some .ne)
    (hne : ∀ position rs, Holds e rs →
      compares .ne (rs.get d) (jumpOperand ⟨position, rs⟩ i r) wide = some (!b)) :
    Tests order e b [.branch i next] := by
  intro code position after rs hsmall hrs hcode
  simp only [List.length_singleton] at hsmall ⊢
  refine ⟨rs, hrs, Reaches.single ?_⟩
  have hget : code[position]? = some { i with offset := Int16.ofInt after } := by
    simpa [link, Pending.branch] using hcode.1
  have hstep := step_of_compares order (e.context order) (s := ⟨position, rs⟩)
    hget hd hr hclass hop (hne position rs hrs)
  rw [hstep, jumpTo_linked (n := after) (by omega) rfl]
  cases b <;> rfl

theorem not_beq_eq_decide_ne (c v : UInt32) : some (decide (c ≠ v)) = some (!(v == c)) := by
  by_cases h : c = v
  · simp [h]
  · have h' : v ≠ c := fun hv => h hv.symm
    simp [h, h']

/-- A register that holds `c` is compared with the operand `v` in 64 bits. -/
theorem tests_jumpNeImm {c v : UInt32} (hv : v.toNat < 2147483648) (hd : register? reg = some d)
    (hc : ∀ rs, Holds e rs → rs.get d = c.toUInt64) :
    Tests order e (v == c) [.branch (jumpNeImm reg v.toInt32 0) next] := by
  have himm := comparesImm_jumpNeImm reg v.toInt32 0
  refine tests_branch hd himm.source himm.opClass himm.op fun position rs hrs => ?_
  rw [himm.jumpOperand_eq, hc rs hrs, ← not_beq_eq_decide_ne]
  exact compares_ne_wide hv c

/-- Words beyond the sign bit are compared in 32 bits. -/
theorem tests_jumpUnless {c v : UInt32} (hd : register? reg = some d)
    (hc : ∀ rs, Holds e rs → rs.get d = c.toUInt64) :
    Tests order e (v == c) [.branch (jumpUnless reg v) next] := by
  have himm := comparesImm_jumpUnless reg v
  have hdst : register? (jumpUnless reg v).dst = some d := by rwa [dst_jumpUnless]
  refine tests_branch hdst himm.source himm.opClass himm.op fun position rs hrs => ?_
  rw [himm.jumpOperand_eq, imm_jumpUnless, hc rs hrs, ← not_beq_eq_decide_ne]
  exact compares_ne_extended v c

end

/-- The modes are cut to those of the rule and compared with all that are asked for. -/
theorem tests_access (access : Access) (next : Label) :
    Tests order e (access.contains e.access)
      [ .plain (mov32Reg register.scratch register.access),
        .plain (and32Imm register.scratch access.bits.toInt32),
        .branch (jumpNeReg register.scratch register.access 0) next ] := by
  intro code position after rs hsmall hrs hcode
  simp only [List.length_cons, List.length_nil] at hsmall
  obtain ⟨h0, h1, h2, -⟩ := hcode
  have hbits : InstructionClass.ofBits ((InstructionClass.jump.bits ||| JumpOp.ne.bits ||| 0x08)
        &&& 0x07) = .jump ∧
      JumpOp.ofBits? ((InstructionClass.jump.bits ||| JumpOp.ne.bits ||| 0x08) &&& 0xF0)
        = some .ne ∧
      ((InstructionClass.jump.bits ||| JumpOp.ne.bits ||| 0x08) &&& 0x08 == 0x08) = true := by
    decide
  let r1 := rs.set (6 : Fin registerCount) e.access.bits.toUInt64
  let r2 := r1.set (6 : Fin registerCount) (e.access.bits &&& access.bits).toUInt64
  have hholds : Holds e r2 := (hrs.set_scratch _).set_scratch _
  have s0 := step_mov32Reg order (e.context order) (s := ⟨position, rs⟩)
    (d := 6) h0 (by decide) (by decide) hrs.access
  have s1 := step_and32Imm order (e.context order) (s := ⟨position + 1, r1⟩) (d := 6)
    h1 (by decide) (get_set_self ..)
  let branch : Instruction :=
    { jumpNeReg register.scratch register.access 0 with offset := Int16.ofInt after }
  have hget : code[position + 1 + 1]? = some branch := by
    simpa [Pending.branch] using h2
  have hdst : register? branch.dst = some 6 := by
    change register? 6 = some 6
    decide
  have hsrc : register? branch.src = some 3 := by
    change register? 3 = some 3
    decide
  have hclass : branch.opClass = if true then .jump else .jump32 := hbits.1
  have hsource : branch.usesRegister = true := hbits.2.2
  have hne : compares .ne (r2.get 6)
      (jumpOperand ⟨position + 1 + 1, r2⟩ branch 3) true
      = some (!(access.contains e.access)) := by
    have hself : r2.get 6 = (e.access.bits &&& access.bits).toUInt64 := get_set_self ..
    have haccess : r2.get 3 = e.access.bits.toUInt64 := hholds.access
    simp only [jumpOperand, hsource, if_true, haccess, hself, compares_ne_words]
    rw [Access.contains, UInt32.and_comm access.bits, not_beq_eq_decide_ne]
    congr 2
    exact Bool.beq_comm
  have s2 := step_of_compares order (e.context order) (s := ⟨position + 1 + 1, r2⟩)
    hget hdst hsrc hclass hbits.2.1 hne
  rw [jumpTo_linked (n := after) (by omega) rfl] at s2
  refine ⟨r2, hholds, (Reaches.single s0).trans <| (Reaches.single s1).trans <|
    Reaches.single <| s2.trans ?_⟩
  cases access.contains e.access <;> rfl

theorem tests_type (type : DeviceType) (next : Label) :
    Tests order e (type == e.type) [.branch (jumpNeImm register.type type.number.toInt32 0) next] := by
  have hsmall : type.number.toNat < 2147483648 := by cases type <;> decide
  have hnumber : (type.number == e.type.number) = (type == e.type) := by
    cases type <;> cases e.type <;> rfl
  rw [← hnumber]
  exact tests_jumpNeImm (d := 2) hsmall (by decide) fun _ hrs => hrs.type

theorem tests_comparisons (next : Label) (r : RuleMatch) :
    Tests order e (r.applies e) (comparisons next r) := by
  obtain ⟨allow, type, access, major, minor⟩ := r
  refine .append (.append (.append ?_ ?_) ?_) ?_
  · cases type with
    | none => exact .nil
    | some type => exact tests_type type next
  · cases access with
    | none => exact .nil
    | some access => exact tests_access access next
  · cases major with
    | none => exact .nil
    | some major => exact tests_jumpUnless (d := 4) (by decide) fun _ hrs => hrs.major
  · cases minor with
    | none => exact .nil
    | some minor => exact tests_jumpUnless (d := 5) (by decide) fun _ hrs => hrs.minor

/-! ## Blocks -/

/-- What register 0 holds at the end of an answer. -/
def verdict (allow : Bool) : UInt64 := if allow then 1 else 0

variable {code : Array Instruction} {position : Nat} {rs : Registers}

theorem ends_answer {context : List UInt8} {allow : Bool} (hcode : Lies code position (answer allow)) :
    Ends order context code ⟨position, rs⟩ (.ok (verdict allow)) := by
  obtain ⟨h0, h1, -⟩ := hcode
  have s0 := step_mov32Imm order context (s := ⟨position, rs⟩) (d := 0)
    h0 (by decide)
  refine .next s0 (.answer ?_)
  refine (step_exit order context h1).trans (congrArg Outcome.answer ?_)
  have hself := get_set_self rs 0 (low32 (low32 (unsigned (if allow then 1 else 0))))
  exact hself.trans (by cases allow <;> decide)

theorem lies_linked {r : RuleMatch} (hcode : Lies code position (linked r)) :
    Lies code position (link 2 (comparisons 0 r)) ∧
      Lies code (position + (comparisons 0 r).length) (answer r.allow) := by
  rw [linked, block, link_append, link_plain, lies_append, length_link] at hcode
  exact hcode

theorem length_linked (r : RuleMatch) : (linked r).length = (comparisons 0 r).length + 2 := by
  simp [linked, block, length_answer]

theorem ends_linked {r : RuleMatch} (hcode : Lies code position (linked r)) (hrs : Holds e rs)
    (happlies : r.applies e = true) :
    Ends order (e.context order) code ⟨position, rs⟩ (.ok (verdict r.allow)) := by
  obtain ⟨hcomparisons, hanswer⟩ := lies_linked hcode
  have hsmall := length_comparisons_le 0 r
  obtain ⟨rs', -, hreach⟩ := tests_comparisons 0 r (by omega) hrs hcomparisons
  simp only [happlies, if_true, Nat.add_zero] at hreach
  exact hreach.ends (ends_answer hanswer)

variable (order) in
theorem reaches_linked {r : RuleMatch} (hcode : Lies code position (linked r)) (hrs : Holds e rs)
    (happlies : r.applies e = false) :
    ∃ rs', Holds e rs' ∧ Reaches order (e.context order) code ⟨position, rs⟩
      ⟨position + (linked r).length, rs'⟩ := by
  obtain ⟨hcomparisons, -⟩ := lies_linked hcode
  have hsmall := length_comparisons_le 0 r
  obtain ⟨rs', hrs', hreach⟩ := tests_comparisons 0 r (by omega) hrs hcomparisons
  simp only [happlies, Bool.false_eq_true, if_false] at hreach
  rw [length_linked, ← Nat.add_assoc]
  exact ⟨rs', hrs', hreach⟩

/-- The verdict of the first rule that applies. -/
def firstVerdict? (rs : List RuleMatch) (e : Event) : Option Bool :=
  rs.findSome? fun r => if r.applies e then some r.allow else none

theorem ends_blocks {rules : List RuleMatch} {allow : Bool}
    (hcode : Lies code position (rules.flatMap linked)) (hrs : Holds e rs)
    (hverdict : firstVerdict? rules e = some allow) :
    Ends order (e.context order) code ⟨position, rs⟩ (.ok (verdict allow)) := by
  induction rules generalizing position rs with
  | nil => cases hverdict
  | cons r rules ih =>
    rw [List.flatMap_cons, lies_append] at hcode
    cases happlies : r.applies e with
    | true =>
      have hallow : r.allow = allow := by simpa [firstVerdict?, happlies] using hverdict
      exact hallow ▸ ends_linked hcode.1 hrs happlies
    | false =>
      obtain ⟨rs', hrs', hreach⟩ := reaches_linked order hcode.1 hrs happlies
      have hrest : firstVerdict? rules e = some allow := by
        simpa [firstVerdict?, happlies] using hverdict
      exact hreach.ends (ih hcode.2 hrs' hrest)

variable (order) in
theorem reaches_blocks {rules : List RuleMatch}
    (hcode : Lies code position (rules.flatMap linked)) (hrs : Holds e rs)
    (hverdict : firstVerdict? rules e = none) :
    ∃ rs', Holds e rs' ∧ Reaches order (e.context order) code ⟨position, rs⟩
      ⟨position + (rules.flatMap linked).length, rs'⟩ := by
  induction rules generalizing position rs with
  | nil => exact ⟨rs, hrs, .refl⟩
  | cons r rules ih =>
    rw [List.flatMap_cons, lies_append] at hcode
    have happlies : r.applies e = false := by
      cases happlies : r.applies e with
      | false => rfl
      | true => simp [firstVerdict?, happlies] at hverdict
    have hrest : firstVerdict? rules e = none := by
      simpa [firstVerdict?, happlies] using hverdict
    obtain ⟨rs', hrs', hreach⟩ := reaches_linked order hcode.1 hrs happlies
    obtain ⟨rs'', hrs'', hreach'⟩ := ih hcode.2 hrs' hrest
    rw [List.flatMap_cons, List.length_append, ← Nat.add_assoc]
    exact ⟨rs'', hrs'', hreach.trans hreach'⟩

end DeviceFilter.Machine

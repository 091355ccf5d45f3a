import DeviceFilter.Proofs.Program.Compiled

/-!
The meaning of compiled programs. In front of any program without backward branches, rules decide
the events they apply to and leave all others to that program. Compiled over one another, starting
from a constant program, lists of rules mean their concatenation: the last valid rule that applies
decides.
-/
set_option autoImplicit false

namespace DeviceFilter

open Machine

/-- Results with the verdicts of rules put over them. -/
def overridden (result : Event → UInt64) (rules : List DeviceRule) (e : Event) : UInt64 :=
  match lastVerdict? rules e with
  | some allow => verdict allow
  | none => result e

theorem overridden_append (result : Event → UInt64) (rules later : List DeviceRule) :
    overridden result (rules ++ later) = overridden (overridden result rules) later := by
  funext e
  simp only [overridden, lastVerdict?_append]
  cases lastVerdict? later e <;> rfl

theorem overridden_verdict (fallback : Bool) (rules : List DeviceRule) (e : Event) :
    overridden (fun _ => verdict fallback) rules e
      = verdict ((lastVerdict? rules e).getD fallback) := by
  unfold overridden
  cases lastVerdict? rules e <;> rfl

theorem verdict_bne_zero (allow : Bool) : (verdict allow != 0) = allow := by
  cases allow <;> rfl

theorem overridden_bne_zero (result : Event → UInt64) (rules : List DeviceRule) (e : Event) :
    (overridden result rules e != 0) = (lastVerdict? rules e).getD (result e != 0) := by
  unfold overridden
  cases lastVerdict? rules e with
  | some allow => exact verdict_bne_zero allow
  | none => rfl

namespace Program

/-- Lists of rules compiled one in front of another, the first directly in front of `tail`. -/
def compileAll (tail : Program) : List (List DeviceRule) → Except CompileError Program
  | [] => .ok tail
  | rules :: later => do compileAll (← compile tail rules) later

variable {order : ByteOrder} {e : Event} {p tail : Program}

theorem exists_of_compileAll_cons {rules : List DeviceRule} {later : List (List DeviceRule)}
    (hp : compileAll tail (rules :: later) = .ok p) :
    ∃ q, compile tail rules = .ok q ∧ compileAll q later = .ok p := by
  cases hq : compile tail rules with
  | error cause => simp [compileAll, hq, bind, Except.bind] at hp
  | ok q =>
    simp only [compileAll, hq, bind, Except.bind] at hp
    exact ⟨q, rfl, hp⟩

/-! ## Short programs -/

theorem runOn_of_ends {r : Except Fault UInt64} (hforward : p.Forward)
    (hshort : p.length < stepLimit)
    (h : Ends order (e.context order) p.toArray ⟨0, initial.registers⟩ r) :
    p.runOn order e = r := by
  refine runFrom_of_ends hforward h (by decide) ?_
  simpa [initial] using hshort

theorem ends_of_runFrom {rs : Registers} (hforward : p.Forward) (hshort : p.length < stepLimit) :
    Ends order (e.context order) p.toArray ⟨0, rs⟩
      (runFrom order (e.context order) p.toArray stepLimit ⟨0, rs⟩) :=
  ends_runFrom hforward (by decide) (by simpa using hshort)

/-! ## In front of any program -/

/-- Rules in front of a program that has no backward branches and gives the same result whatever
registers 2 to 6 hold at its start. Events that no rule applies to have the result of that program
alone, faults at positions that are higher by the records in front. -/
theorem run_compile {rules : List DeviceRule} (htail : tail ≠ [])
    (hforward : ∀ i ∈ tail, i.isJump = true → 0 ≤ i.offset.toInt)
    (he : e.access.bits.toNat < 65536)
    (hsame : ∀ rs, Clean rs →
      runFrom .native (e.context .native) tail.toArray stepLimit ⟨0, rs⟩ = tail.run e)
    (hp : compile tail rules = .ok p) (hshort : p.length < stepLimit) :
    (∀ allow, lastVerdict? rules e = some allow → p.run e = .ok (verdict allow)) ∧
      (lastVerdict? rules e = none → tail.length ≤ p.length ∧
        p.run e = (tail.run e).mapError (·.shift (p.length - tail.length))) := by
  have hpforward := forward_compile htail hforward hp
  constructor
  · intro allow hverdict
    exact runOn_of_ends hpforward hshort (ends_compile htail hp he clean_initial hverdict)
  · intro hverdict
    obtain ⟨front, rfl, rs, hrs, hreach⟩ :=
      reaches_tail .native htail hp he clean_initial hverdict
    have hlength : (front ++ tail).length = front.length + tail.length := List.length_append
    have htailEnds : Ends .native (e.context .native) tail.toArray ⟨0, rs⟩ (tail.run e) := by
      rw [← hsame rs hrs]
      exact ends_of_runFrom hforward (by omega)
    have hmoved := ends_append front hforward htailEnds
    have hstart : State.shift front.length ⟨0, rs⟩ = ⟨front.length, rs⟩ := by
      simp [State.shift]
    rw [hstart] at hmoved
    refine ⟨by omega, ?_⟩
    rw [hlength, Nat.add_sub_cancel]
    exact runOn_of_ends hpforward hshort (hreach.ends hmoved)

/-- A branch to a 64-bit load whose second record is missing. -/
def cutOff : Program := [.jumpAlways 0, ⟨0x18, 0, 0, 0, 5⟩]

theorem step_cutOff_branch (context : List UInt8) (rs : Registers) :
    step .native context cutOff.toArray ⟨0, rs⟩ = .next ⟨1, rs⟩ := by
  have hi : cutOff.toArray[0]? = some (.jumpAlways 0) := rfl
  have hd : register? (Instruction.jumpAlways 0).dst = some 0 := by decide
  have hr : register? (Instruction.jumpAlways 0).src = some 0 := by decide
  have hclass : (Instruction.jumpAlways 0).opClass = .jump := by decide
  have hop : (Instruction.jumpAlways 0).jumpOp? = some .always := by decide
  simp only [step, hi, hd, hr, hclass, stepJump_eq hop (by decide), compares]
  rfl

theorem step_cutOff_load (context : List UInt8) (rs : Registers) :
    step .native context cutOff.toArray ⟨1, rs⟩ = .fault (.outOfBounds 2) := by
  have hi : cutOff.toArray[1]? = some ⟨0x18, 0, 0, 0, 5⟩ := rfl
  have hd : register? 0 = some 0 := by decide
  have hclass : (⟨0x18, 0, 0, 0, 5⟩ : Instruction).opClass = .load := by decide
  have hwide : (⟨0x18, 0, 0, 0, 5⟩ : Instruction).isWideLoad = true := by decide
  simp only [step, hi, hd, hclass, hwide, if_true, stepWideLoad]
  rfl

theorem runFrom_cutOff (context : List UInt8) (rs : Registers) :
    runFrom .native context cutOff.toArray stepLimit ⟨0, rs⟩ = .error (.outOfBounds 2) := by
  have hlimit : stepLimit = 1048574 + 1 + 1 := rfl
  rw [hlimit, runFrom, step_cutOff_branch]
  dsimp only
  rw [runFrom, step_cutOff_load]

/-- Behind a rule for other devices the record is missed thirteen positions later. -/
theorem run_compile_cutOff : ∃ p,
    compile cutOff [⟨true, "c", some 4294967295, none, "rw"⟩] = .ok p ∧ p.length < stepLimit ∧
      lastVerdict? [⟨true, "c", some 4294967295, none, "rw"⟩] ⟨.character, ⟨6⟩, 1, 3⟩ = none ∧
      cutOff.run ⟨.character, ⟨6⟩, 1, 3⟩ = .error (.outOfBounds 2) ∧
      p.run ⟨.character, ⟨6⟩, 1, 3⟩ = .error (.outOfBounds 15) := by
  have hforward : ∀ i ∈ cutOff, i.isJump = true → 0 ≤ i.offset.toInt := by decide
  have hrun : cutOff.run ⟨.character, ⟨6⟩, 1, 3⟩ = .error (.outOfBounds 2) :=
    runFrom_cutOff (Event.context .native ⟨.character, ⟨6⟩, 1, 3⟩) initial.registers
  have hsame : ∀ rs, Clean rs → runFrom .native (Event.context .native ⟨.character, ⟨6⟩, 1, 3⟩)
      cutOff.toArray stepLimit ⟨0, rs⟩ = cutOff.run ⟨.character, ⟨6⟩, 1, 3⟩ := fun rs _ =>
    (runFrom_cutOff _ rs).trans hrun.symm
  obtain ⟨p, hp⟩ : ∃ p, compile cutOff [⟨true, "c", some 4294967295, none, "rw"⟩] = .ok p :=
    ⟨_, rfl⟩
  have hlength : p.length = 15 := by
    cases hp
    rfl
  have hverdict : lastVerdict? [⟨true, "c", some 4294967295, none, "rw"⟩] ⟨.character, ⟨6⟩, 1, 3⟩
      = none := by decide
  have hshort : p.length < stepLimit := by
    rw [hlength]
    decide
  have h := (run_compile (by decide) hforward (by decide) hsame hp hshort).2 hverdict
  refine ⟨p, hp, hshort, hverdict, hrun, h.2.trans ?_⟩
  rw [hrun, hlength]
  rfl

/-! ## Over a constant program -/

/-- From clean registers the program gives each event the result that is said. -/
def Answers (order : ByteOrder) (p : Program) (result : Event → UInt64) : Prop :=
  ∀ e : Event, e.access.bits.toNat < 65536 → ∀ rs, Clean rs →
    Ends order (e.context order) p.toArray ⟨0, rs⟩ (.ok (result e))

theorem answers_constant (fallback : Bool) :
    Answers order (constant fallback) fun _ => verdict fallback := by
  intro e _ rs _
  exact ends_answer (lies_toArray [] (Compile.answer fallback))

theorem Answers.compile {result : Event → UInt64} {rules : List DeviceRule}
    (h : Answers order tail result) (htail : tail ≠ []) (hforward : tail.Forward)
    (hp : Program.compile tail rules = .ok p) : Answers order p (overridden result rules) := by
  intro e he rs hrs
  unfold overridden
  cases hverdict : lastVerdict? rules e with
  | some allow => exact ends_compile htail hp he hrs hverdict
  | none =>
    obtain ⟨front, rfl, rs', hrs', hreach⟩ := reaches_tail order htail hp he hrs hverdict
    have hmoved := ends_append front hforward (h e he rs' hrs')
    have hstart : State.shift front.length ⟨0, rs'⟩ = ⟨front.length, rs'⟩ := by
      simp [State.shift]
    rw [hstart] at hmoved
    exact hreach.ends hmoved

theorem constant_ne_nil (fallback : Bool) : constant fallback ≠ [] := by
  cases fallback <;> decide

theorem encodable_constant (fallback : Bool) : (constant fallback).Encodable := by
  cases fallback <;> (unfold Encodable; decide)

theorem forward_constant (fallback : Bool) : (constant fallback).Forward := by
  cases fallback <;> (unfold Forward; decide)

theorem answers_compileAll {result : Event → UInt64} {lists : List (List DeviceRule)}
    (h : Answers order tail result) (htail : tail ≠ []) (hforward : tail.Forward)
    (hp : compileAll tail lists = .ok p) :
    p.Forward ∧ Answers order p (overridden result lists.flatten) := by
  induction lists generalizing tail result with
  | nil =>
    have hp' : tail = p := Except.ok.inj hp
    subst hp'
    exact ⟨hforward, h⟩
  | cons rules later ih =>
    obtain ⟨q, hcompile, hlater⟩ := exists_of_compileAll_cons hp
    rw [List.flatten_cons, overridden_append]
    exact ih (h.compile htail hforward hcompile) (compile_ne_nil htail hcompile)
      (forward_compile htail hforward hcompile) hlater

theorem runOn_compileAll {fallback : Bool} {lists : List (List DeviceRule)}
    (hp : compileAll (constant fallback) lists = .ok p) (hshort : p.length < stepLimit)
    (he : e.access.bits.toNat < 65536) :
    p.runOn order e = .ok (verdict ((lastVerdict? lists.flatten e).getD fallback)) := by
  obtain ⟨hforward, hanswers⟩ := answers_compileAll (answers_constant fallback)
    (constant_ne_nil fallback) (forward_constant fallback) hp
  rw [← overridden_verdict]
  exact runOn_of_ends hforward hshort (hanswers e he _ clean_initial)

/-- Compiled over one another, lists of rules mean their concatenation. -/
theorem run_compileAll {fallback : Bool} {lists : List (List DeviceRule)}
    (hp : compileAll (constant fallback) lists = .ok p) (hshort : p.length < stepLimit)
    (he : e.access.bits.toNat < 65536) :
    (p.run e = .ok 1 ∨ p.run e = .ok 0) ∧
      p.allows e = .ok ((lastVerdict? lists.flatten e).getD fallback) := by
  have hrun : p.run e = .ok (verdict ((lastVerdict? lists.flatten e).getD fallback)) :=
    runOn_compileAll hp hshort he
  cases hallow : (lastVerdict? lists.flatten e).getD fallback with
  | true =>
    rw [hallow] at hrun
    exact ⟨.inl hrun, by rw [allows, hrun]; rfl⟩
  | false =>
    rw [hallow] at hrun
    exact ⟨.inr hrun, by rw [allows, hrun]; rfl⟩

/-- A rule about a number beyond 31 bits over one for all devices, with an empty list between. -/
theorem run_compileAll_large_major : ∃ p,
    compileAll (constant false) [[⟨true, "a", none, none, "rwm"⟩], [],
      [⟨false, "c", some 4294967295, none, "rm"⟩]] = .ok p ∧ p.length < stepLimit ∧
      p.allows ⟨.character, ⟨3⟩, 4294967295, 7⟩ = .ok false ∧
      p.allows ⟨.character, ⟨7⟩, 4294967295, 7⟩ = .ok true := by
  obtain ⟨p, hp⟩ : ∃ p, compileAll (constant false) [[⟨true, "a", none, none, "rwm"⟩], [],
      [⟨false, "c", some 4294967295, none, "rm"⟩]] = .ok p := ⟨_, rfl⟩
  have hshort : p.length < stepLimit := by
    cases hp
    decide
  refine ⟨p, hp, hshort, ?_, ?_⟩
  · exact (run_compileAll hp hshort (by decide)).2.trans (by decide)
  · exact (run_compileAll hp hshort (by decide)).2.trans (by decide)

end Program

end DeviceFilter

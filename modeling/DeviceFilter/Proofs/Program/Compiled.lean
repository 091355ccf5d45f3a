import DeviceFilter.Proofs.Machine.Shift
import DeviceFilter.Proofs.Instruction.Codec
import DeviceFilter.Proofs.Program.Blocks
import DeviceFilter.Proofs.Program.Deciding

/-!
One compilation. A program that `compile` returns answers the events that some valid rule applies
to, by the last such rule, and sends all others to its tail. The tail then starts with other values
in the working registers than on its own, which is the only difference it can notice.
-/
set_option autoImplicit false

namespace DeviceFilter

open Machine Compile

/-! ## The rules that decide -/

theorem lastVerdict?_append (rules later : List DeviceRule) (e : Event) :
    lastVerdict? (rules ++ later) e = (lastVerdict? later e).or (lastVerdict? rules e) := by
  simp only [lastVerdict?, List.reverse_append, List.findSome?_append]

theorem lastVerdict?_concat (rules : List DeviceRule) (rule : DeviceRule) (e : Event) :
    lastVerdict? (rules ++ [rule]) e =
      (match rule.validate with
        | .ok r => if r.applies e then some r.allow else none
        | .error _ => none).or (lastVerdict? rules e) := by
  rw [lastVerdict?_append]
  congr 1
  simp only [lastVerdict?, List.reverse_singleton, List.findSome?_cons, List.findSome?_nil]
  cases rule.validate with
  | error cause => rfl
  | ok r => cases happlies : r.applies e <;> simp [happlies]

/-- What is cut off behind a rule that compares nothing never decides. -/
theorem firstVerdict?_of_deciding {rules : List DeviceRule} {rs : List RuleMatch}
    (h : deciding rules = .ok rs) (e : Event) :
    firstVerdict? rs e = lastVerdict? rules.reverse e := by
  induction rules generalizing rs with
  | nil =>
    cases h
    rfl
  | cons rule rules ih =>
    rw [List.reverse_cons, lastVerdict?_concat]
    obtain ⟨r, hrule, ⟨hr, rfl⟩ | ⟨-, later, hlater, rfl⟩⟩ := exists_of_deciding_cons h
    · have happlies := RuleMatch.applies_of_isWildcard hr e
      simp [firstVerdict?, hrule, happlies]
    · have hrest := ih hlater
      cases happlies : r.applies e with
      | true => simp [firstVerdict?, hrule, happlies]
      | false => simpa [firstVerdict?, hrule, happlies] using hrest

theorem firstVerdict?_ne_none {rs : List RuleMatch} (h : isClosed rs = true) (e : Event) :
    firstVerdict? rs e ≠ none := by
  intro hnone
  obtain ⟨r, hlast, hwildcard⟩ := (Option.any_eq_true _ _).mp h
  have hr := List.findSome?_eq_none_iff.mp hnone r (List.mem_of_getLast? hlast)
  simp [RuleMatch.applies_of_isWildcard hwildcard e] at hr

/-! ## The shape of the result -/

/-- Apart from invalid rules, and from a last block without a tail, only the test of all branches
can fail. -/
theorem compile_of_deciding {tail : Program} {rules : List DeviceRule} {rs : List RuleMatch}
    (hrules : rules ≠ []) (hdeciding : deciding rules.reverse = .ok rs)
    (h : isClosed rs = true ∨ tail ≠ []) :
    Program.compile tail rules =
      ((Program.checkBranches (prologue ++ rs.flatMap linked ++ keptTail tail rs)).mapError
        .defect).map fun _ => prologue ++ rs.flatMap linked ++ keptTail tail rs := by
  simp only [Program.compile, hrules, if_false, hdeciding, Except.mapError, bind, Except.bind,
    resolve_layout h]
  cases Program.checkBranches (prologue ++ rs.flatMap linked ++ keptTail tail rs) <;> rfl

theorem compile_of_invalid (tail : Program) {rules : List DeviceRule} {cause : RuleError}
    (hdeciding : deciding rules.reverse = .error cause) :
    Program.compile tail rules = .error (.invalidRule cause) := by
  have hrules : rules ≠ [] := by
    rintro rfl
    cases hdeciding
  simp only [Program.compile, hrules, if_false, hdeciding]
  rfl

theorem compile_shape {tail p : Program} {rules : List DeviceRule} (htail : tail ≠ [])
    (hrules : rules ≠ []) (hp : Program.compile tail rules = .ok p) :
    ∃ rs, deciding rules.reverse = .ok rs ∧
      p = prologue ++ rs.flatMap linked ++ keptTail tail rs := by
  cases hdeciding : deciding rules.reverse with
  | error cause =>
    rw [compile_of_invalid tail hdeciding] at hp
    cases hp
  | ok rs =>
    rw [compile_of_deciding hrules hdeciding (.inr htail)] at hp
    cases hbranches : Program.checkBranches (prologue ++ rs.flatMap linked ++ keptTail tail rs) with
    | error d =>
      rw [hbranches] at hp
      cases hp
    | ok _ =>
      rw [hbranches] at hp
      exact ⟨rs, rfl, (Except.ok.inj hp).symm⟩

variable {order : ByteOrder} {e : Event} {tail p : Program} {rules : List DeviceRule}
  {rs : Registers}

/-- Events that a valid rule applies to are answered by the last such rule. -/
theorem ends_compile {allow : Bool} (htail : tail ≠ [])
    (hp : Program.compile tail rules = .ok p) (he : e.access.bits.toNat < 65536)
    (hrs : Clean rs) (hverdict : lastVerdict? rules e = some allow) :
    Ends order (e.context order) p.toArray ⟨0, rs⟩ (.ok (verdict allow)) := by
  have hrules : rules ≠ [] := by
    rintro rfl
    cases hverdict
  obtain ⟨ms, hdeciding, rfl⟩ := compile_shape htail hrules hp
  have hcode := lies_toArray [] (prologue ++ ms.flatMap linked ++ keptTail tail ms)
  rw [List.nil_append, lies_append, lies_append] at hcode
  obtain ⟨⟨hprologue, hblocks⟩, -⟩ := hcode
  obtain ⟨rs', hrs', hreach⟩ := reaches_prologue order he hrs hprologue
  have hfirst : firstVerdict? ms e = some allow := by
    rw [firstVerdict?_of_deciding hdeciding, List.reverse_reverse, hverdict]
  rw [List.length_nil, Nat.zero_add] at hblocks
  exact hreach.ends (ends_blocks hblocks hrs' hfirst)

variable (order) in
/-- All other events reach the tail. -/
theorem reaches_tail (htail : tail ≠ []) (hp : Program.compile tail rules = .ok p)
    (he : e.access.bits.toNat < 65536) (hrs : Clean rs) (hverdict : lastVerdict? rules e = none) :
    ∃ front, p = front ++ tail ∧ ∃ rs', Clean rs' ∧
      Reaches order (e.context order) p.toArray ⟨0, rs⟩ ⟨front.length, rs'⟩ := by
  by_cases hrules : rules = []
  · subst hrules
    have hp' : tail = p := Except.ok.inj hp
    exact ⟨[], hp'.symm, rs, hrs, .refl⟩
  · obtain ⟨ms, hdeciding, rfl⟩ := compile_shape htail hrules hp
    have hfirst : firstVerdict? ms e = none := by
      rw [firstVerdict?_of_deciding hdeciding, List.reverse_reverse, hverdict]
    have hopen : isClosed ms = false := by
      cases hclosed : isClosed ms with
      | false => rfl
      | true => exact absurd hfirst (firstVerdict?_ne_none hclosed e)
    have hkept : keptTail tail ms = tail := by simp [keptTail, hopen]
    have hcode := lies_toArray [] (prologue ++ ms.flatMap linked ++ keptTail tail ms)
    rw [List.nil_append, lies_append, lies_append] at hcode
    obtain ⟨⟨hprologue, hblocks⟩, -⟩ := hcode
    obtain ⟨rs', hrs', hreach⟩ := reaches_prologue order he hrs hprologue
    rw [List.length_nil, Nat.zero_add] at hblocks
    obtain ⟨rs'', hrs'', hreach'⟩ := reaches_blocks order hblocks hrs' hfirst
    refine ⟨prologue ++ ms.flatMap linked, by rw [hkept], rs'', hrs''.clean, ?_⟩
    rw [List.length_append]
    exact hreach.trans hreach'

/-! ## Instructions of a compiled program -/

theorem forall_mem_compile {property : Instruction → Prop} (hprologue : ∀ i ∈ prologue, property i)
    (hlinked : ∀ r, ∀ i ∈ linked r, property i) (htail : tail ≠ [])
    (hkept : ∀ i ∈ tail, property i) (hp : Program.compile tail rules = .ok p) :
    ∀ i ∈ p, property i := by
  by_cases hrules : rules = []
  · subst hrules
    have hp' : tail = p := Except.ok.inj hp
    exact hp' ▸ hkept
  · obtain ⟨ms, -, rfl⟩ := compile_shape htail hrules hp
    refine List.forall_mem_append.mpr ⟨List.forall_mem_append.mpr ⟨hprologue, ?_⟩, ?_⟩
    · intro i hi
      obtain ⟨r, -, hr⟩ := List.mem_flatMap.mp hi
      exact hlinked r i hr
    · unfold keptTail
      split
      · exact List.forall_mem_nil _
      · exact hkept

/-! ## No branch goes backwards -/

theorem forward_link {after : Nat} {ps : List Pending} (hsmall : ps.length + after ≤ 32767)
    (hplain : ∀ q ∈ ps, q.target = none → q.instruction.isJump = false) :
    Program.Forward (link after ps) := by
  induction ps with
  | nil =>
    intro i hi
    cases hi
  | cons q ps ih =>
    simp only [List.length_cons] at hsmall
    intro i hi hjump
    rcases List.mem_cons.mp hi with rfl | hi
    · cases htarget : q.target with
      | none =>
        have hq := hplain q List.mem_cons_self htarget
        simp [htarget, hq] at hjump
      | some label =>
        simp only
        rw [Int16.toInt_ofInt_of_le (by omega) (by omega)]
        omega
    · exact ih (by omega) (fun q hq => hplain q (List.mem_cons_of_mem _ hq)) i hi hjump

theorem isJump_eq_false_of_mem_block {next : Label} {r : RuleMatch} {q : Pending}
    (hq : q ∈ block next r) (htarget : q.target = none) : q.instruction.isJump = false := by
  have hbranch (i : Instruction) :
      (Pending.branch i next).target = none → i.isJump = false := by
    intro h
    cases h
  have hexit : Instruction.exit.isJump = false := by decide
  have hall : ∀ q ∈ block next r, q.target = none → q.instruction.isJump = false :=
    forall_mem_block
      (forall_mem_comparisons (fun _ => hbranch _) (fun _ => isJump_mov32Reg _ _)
        (fun _ _ => isJump_alu32Imm _ _ _) (hbranch _) (fun _ => hbranch _) (fun _ => hbranch _))
      (fun _ _ => isJump_alu32Imm _ _ _) (fun _ => hexit)
  exact hall q hq htarget

theorem forward_linked (r : RuleMatch) : Program.Forward (linked r) := by
  have hsmall := length_block_le 0 r
  exact forward_link (by omega) fun q hq => isJump_eq_false_of_mem_block hq

theorem forward_prologue : Program.Forward prologue := by
  unfold Program.Forward
  decide

theorem forward_compile (htail : tail ≠ []) (hforward : tail.Forward)
    (hp : Program.compile tail rules = .ok p) : p.Forward :=
  forall_mem_compile forward_prologue forward_linked htail hforward hp

/-! ## Registers fit their records -/

theorem jumpUnless_registers {reg : UInt8} (hreg : reg < 16) (value : UInt32) :
    (jumpUnless reg value).dst < 16 ∧ (jumpUnless reg value).src < 16 := by
  have hzero : (0 : UInt8) < 16 := by decide
  unfold jumpUnless
  split
  · exact ⟨hreg, hzero⟩
  · exact ⟨hreg, hzero⟩

theorem registers_of_mem_block {next : Label} {r : RuleMatch} {q : Pending}
    (hq : q ∈ block next r) : q.instruction.dst < 16 ∧ q.instruction.src < 16 := by
  have hzero : (0 : UInt8) < 16 := by decide
  have htype : register.type < 16 := by decide
  have haccess : register.access < 16 := by decide
  have hscratch : register.scratch < 16 := by decide
  have hresult : register.result < 16 := by decide
  have hall : ∀ q ∈ block next r, q.instruction.dst < 16 ∧ q.instruction.src < 16 :=
    forall_mem_block
      (forall_mem_comparisons (fun _ => ⟨htype, hzero⟩) ⟨hscratch, haccess⟩
        (fun _ => ⟨hscratch, hzero⟩) ⟨hscratch, haccess⟩
        (fun value => jumpUnless_registers (by decide) value)
        (fun value => jumpUnless_registers (by decide) value))
      (fun _ => ⟨hresult, hzero⟩) ⟨hzero, hzero⟩
  exact hall q hq

theorem registers_of_mem_blocks {label : Label} {ms : List RuleMatch} {q : Pending}
    (hq : q ∈ blocks label ms) : q.instruction.dst < 16 ∧ q.instruction.src < 16 := by
  induction ms generalizing label with
  | nil => cases hq
  | cons r ms ih =>
    rw [blocks, List.mem_append] at hq
    rcases hq with hblock | hlater
    · exact registers_of_mem_block hblock
    · exact ih hlater

theorem encodable_prologue : Program.Encodable prologue := by
  unfold Program.Encodable
  decide

theorem registers_of_mem_layout (hencodable : tail.Encodable) {ms : List RuleMatch} {q : Pending}
    (hq : q ∈ layout tail ms) : q.instruction.dst < 16 ∧ q.instruction.src < 16 := by
  simp only [layout, List.mem_append] at hq
  rcases hq with (hprologue | hblocks) | htail
  · obtain ⟨i, hi, rfl⟩ := List.mem_map.mp hprologue
    exact encodable_prologue i hi
  · exact registers_of_mem_blocks hblocks
  · split at htail
    · cases htail
    · obtain ⟨i, hi, rfl⟩ := List.mem_map.mp htail
      exact hencodable i hi

/-- Only the offset of a branch depends on the place of its label. -/
theorem resolveAt_registers {labels : Array Nat} {size position : Nat} {q : Pending}
    {i : Instruction} (h : resolveAt labels size position q = .ok i) :
    i.dst = q.instruction.dst ∧ i.src = q.instruction.src := by
  unfold resolveAt at h
  split at h
  · cases h
    exact ⟨rfl, rfl⟩
  · split at h
    · cases h
    · split at h
      · cases h
      · dsimp only at h
        split at h
        · cases h
          exact ⟨rfl, rfl⟩
        · cases h

theorem encodable_resolve {labels : Array Nat} {size position : Nat} {ps : List Pending}
    (hps : ∀ q ∈ ps, q.instruction.dst < 16 ∧ q.instruction.src < 16)
    (h : resolve labels size position ps = .ok p) : p.Encodable := by
  induction ps generalizing position p with
  | nil =>
    cases h
    exact List.forall_mem_nil _
  | cons q ps ih =>
    obtain ⟨hq, hrest⟩ := List.forall_mem_cons.mp hps
    simp only [resolve, bind, Except.bind] at h
    cases hi : resolveAt labels size position q with
    | error cause => simp [hi] at h
    | ok i =>
      cases hp : resolve labels size (position + 1) ps with
      | error cause => simp [hi, hp] at h
      | ok rest =>
        simp only [hi, hp] at h
        cases h
        obtain ⟨hdst, hsrc⟩ := resolveAt_registers hi
        exact List.forall_mem_cons.mpr ⟨⟨hdst ▸ hq.1, hsrc ▸ hq.2⟩, ih hrest hp⟩

theorem encodable_compile (hencodable : tail.Encodable)
    (hp : Program.compile tail rules = .ok p) : p.Encodable := by
  by_cases hrules : rules = []
  · subst hrules
    have hp' : tail = p := Except.ok.inj hp
    exact hp' ▸ hencodable
  · simp only [Program.compile, hrules, if_false, bind, Except.bind] at hp
    cases hdeciding : deciding rules.reverse with
    | error cause => simp [hdeciding, Except.mapError] at hp
    | ok ms =>
      simp only [hdeciding, Except.mapError] at hp
      cases hresolved : resolve (labels ms) (layout tail ms).length 0 (layout tail ms) with
      | error defect => simp [hresolved] at hp
      | ok program =>
        simp only [hresolved] at hp
        split at hp
        · cases hp
        · cases hp
          exact encodable_resolve (fun q hq => registers_of_mem_layout hencodable hq) hresolved

theorem compile_ne_nil (htail : tail ≠ []) (hp : Program.compile tail rules = .ok p) : p ≠ [] := by
  by_cases hrules : rules = []
  · subst hrules
    have hp' : tail = p := Except.ok.inj hp
    exact hp' ▸ htail
  · obtain ⟨ms, -, rfl⟩ := compile_shape htail hrules hp
    simp [prologue]

end DeviceFilter

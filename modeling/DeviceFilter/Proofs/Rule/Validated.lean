import DeviceFilter.Proofs.Traversal
import DeviceFilter.Rule.ControlLine
import Mathlib.Data.UInt

/-!
What rules mean. A rule is valid when each of its fields is, and of several faults the first is
reported. The match of a valid rule applies to the events that the rule's text covers, in whatever
order and however often the text names the access modes; and it compares nothing exactly if it
applies to every event.
-/
set_option autoImplicit false

namespace DeviceFilter

/-! ## Access modes, bit by bit and letter by letter -/

namespace Access

variable {a b x mode : Access} {c : Char} {k : Nat}

theorem contains_iff_testBit :
    a.contains b = true ↔ ∀ k, b.bits.toNat.testBit k = true → a.bits.toNat.testBit k = true := by
  simp only [contains, beq_iff_eq, ← UInt32.toNat_inj, UInt32.toNat_and]
  constructor
  · intro h k hk
    rw [← h, Nat.testBit_and, Bool.and_eq_true] at hk
    exact hk.1
  · intro h
    apply Nat.eq_of_testBit_eq
    intro k
    rw [Nat.testBit_and]
    cases hk : b.bits.toNat.testBit k with
    | false => exact Bool.and_false _
    | true => rw [h k hk, Bool.and_true]

/-- The bit of a single mode. -/
theorem exists_bit (h : ofLetter? c = some mode) : ∃ k < 3, mode.bits.toNat = 2 ^ k := by
  unfold ofLetter? at h
  split at h
  · cases h
    exact ⟨1, by omega, rfl⟩
  · cases h
    exact ⟨2, by omega, rfl⟩
  · cases h
    exact ⟨0, by omega, rfl⟩
  · cases h

theorem exists_letter (hk : k < 3) :
    ∃ c mode, ofLetter? c = some mode ∧ mode.bits.toNat = 2 ^ k := by
  rcases k with _ | _ | _ | k
  · exact ⟨'m', mknod, rfl, rfl⟩
  · exact ⟨'r', read, rfl, rfl⟩
  · exact ⟨'w', write, rfl, rfl⟩
  · omega

theorem contains_eq_testBit (h : mode.bits.toNat = 2 ^ k) :
    a.contains mode = a.bits.toNat.testBit k := by
  rw [Bool.eq_iff_iff, contains_iff_testBit]
  simp only [h, Nat.testBit_two_pow, decide_eq_true_eq]
  constructor
  · intro hall
    exact hall k rfl
  · rintro hbit j rfl
    exact hbit

theorem mem_letters_iff :
    c ∈ a.letters ↔ ∃ mode, ofLetter? c = some mode ∧ a.contains mode = true := by
  have hletters : c ∈ a.letters ↔ (c = 'r' ∧ a.contains read = true) ∨
      (c = 'w' ∧ a.contains write = true) ∨ (c = 'm' ∧ a.contains mknod = true) := by
    cases hr : a.contains read <;> cases hw : a.contains write <;> cases hm : a.contains mknod <;>
      simp [letters, hr, hw, hm]
  rw [hletters]
  constructor
  · rintro (⟨rfl, h⟩ | ⟨rfl, h⟩ | ⟨rfl, h⟩)
    · exact ⟨read, rfl, h⟩
    · exact ⟨write, rfl, h⟩
    · exact ⟨mknod, rfl, h⟩
  · rintro ⟨mode, hmode, h⟩
    unfold ofLetter? at hmode
    split at hmode
    · cases hmode
      exact .inl ⟨rfl, h⟩
    · cases hmode
      exact .inr (.inl ⟨rfl, h⟩)
    · cases hmode
      exact .inr (.inr ⟨rfl, h⟩)
    · cases hmode

theorem contains_all_iff : all.contains x = true ↔ ∀ k, x.bits.toNat.testBit k = true → k < 3 := by
  have hbits : all.bits.toNat = 2 ^ 3 - 1 := rfl
  simp only [contains_iff_testBit, hbits, Nat.testBit_two_pow_sub_one, decide_eq_true_eq]

/-- Among sets of the three modes the letters decide. -/
theorem contains_iff_letters (hx : all.contains x = true) :
    a.contains x = true ↔ ∀ c ∈ x.letters, c ∈ a.letters := by
  constructor
  · intro h c hc
    obtain ⟨mode, hmode, hbit⟩ := mem_letters_iff.mp hc
    obtain ⟨k, -, hk⟩ := exists_bit hmode
    rw [contains_eq_testBit hk] at hbit
    refine mem_letters_iff.mpr ⟨mode, hmode, ?_⟩
    rw [contains_eq_testBit hk]
    exact contains_iff_testBit.mp h k hbit
  · intro h
    apply contains_iff_testBit.mpr
    intro k hbit
    obtain ⟨c, mode, hmode, hk⟩ := exists_letter (contains_all_iff.mp hx k hbit)
    rw [← contains_eq_testBit hk] at hbit ⊢
    obtain ⟨mode', hmode', h'⟩ := mem_letters_iff.mp (h c (mem_letters_iff.mpr ⟨mode, hmode, hbit⟩))
    rw [hmode] at hmode'
    cases hmode'
    exact h'

theorem testBit_union (k : Nat) :
    (a.union b).bits.toNat.testBit k = (a.bits.toNat.testBit k || b.bits.toNat.testBit k) := by
  rw [union, UInt32.toNat_or, Nat.testBit_or]

theorem letter_unique {d : Char} {mode' : Access} (h : ofLetter? c = some mode)
    (h' : ofLetter? d = some mode') (hbit : mode.contains mode' = true) : d = c := by
  unfold ofLetter? at h h'
  split at h <;> cases h <;> split at h' <;> cases h' <;> first | rfl | cases hbit

theorem mem_letters_union_iff (hmode : ofLetter? c = some mode) {d : Char} :
    d ∈ (a.union mode).letters ↔ d ∈ a.letters ∨ d = c := by
  have hunion {mode' : Access} (hmode' : ofLetter? d = some mode') :
      (a.union mode).contains mode' = (a.contains mode' || mode.contains mode') := by
    obtain ⟨k, -, hk⟩ := exists_bit hmode'
    rw [contains_eq_testBit hk, contains_eq_testBit hk, contains_eq_testBit hk, testBit_union]
  rw [mem_letters_iff, mem_letters_iff]
  constructor
  · rintro ⟨mode', hmode', h⟩
    rw [hunion hmode', Bool.or_eq_true] at h
    rcases h with h | h
    · exact .inl ⟨mode', hmode', h⟩
    · exact .inr (letter_unique hmode hmode' h)
  · rintro (⟨mode', hmode', h⟩ | rfl)
    · exact ⟨mode', hmode', by rw [hunion hmode', h, Bool.true_or]⟩
    · have hself : mode.contains mode = true := contains_iff_testBit.mpr fun _ hbit => hbit
      exact ⟨mode, hmode, by rw [hunion hmode, hself, Bool.or_true]⟩

theorem all_contains_union (ha : all.contains a = true) (hmode : ofLetter? c = some mode) :
    all.contains (a.union mode) = true := by
  apply contains_all_iff.mpr
  intro k hbit
  rw [testBit_union, Bool.or_eq_true] at hbit
  rcases hbit with hbit | hbit
  · exact contains_all_iff.mp ha k hbit
  · obtain ⟨j, hj, hbits⟩ := exists_bit hmode
    rw [hbits, Nat.testBit_two_pow, decide_eq_true_eq] at hbit
    omega

/-! ## Reading access modes -/

/-- The letters of the access modes. -/
def IsLetter (c : Char) : Prop := c = 'r' ∨ c = 'w' ∨ c = 'm'

theorem isLetter_iff : IsLetter c ↔ ∃ mode, ofLetter? c = some mode := by
  constructor
  · rintro (rfl | rfl | rfl)
    · exact ⟨read, rfl⟩
    · exact ⟨write, rfl⟩
    · exact ⟨mknod, rfl⟩
  · rintro ⟨mode, hmode⟩
    unfold ofLetter? at hmode
    split at hmode
    · exact .inl rfl
    · exact .inr (.inl rfl)
    · exact .inr (.inr rfl)
    · cases hmode

theorem ofLetter?_eq_none (h : ¬ IsLetter c) : ofLetter? c = Option.none := by
  cases hmode : ofLetter? c with
  | none => rfl
  | some mode => exact absurd (isLetter_iff.mpr ⟨mode, hmode⟩) h

/-- The letters that are read are those of the text. -/
theorem exists_ofLetters {cs : List Char} (hcs : ∀ c ∈ cs, IsLetter c) (ha : all.contains a = true) :
    ∃ b, ofLetters a cs = .ok b ∧ all.contains b = true ∧
      ∀ c, c ∈ b.letters ↔ c ∈ a.letters ∨ c ∈ cs := by
  induction cs generalizing a with
  | nil => exact ⟨a, rfl, ha, fun c => by simp⟩
  | cons d cs ih =>
    obtain ⟨hd, hcs⟩ := List.forall_mem_cons.mp hcs
    obtain ⟨mode, hmode⟩ := isLetter_iff.mp hd
    obtain ⟨b, hb, hall, hletters⟩ := ih hcs (all_contains_union ha hmode)
    refine ⟨b, ?_, hall, ?_⟩
    · rw [ofLetters, hmode]
      exact hb
    · intro c
      rw [hletters, mem_letters_union_iff hmode, List.mem_cons, or_assoc]

theorem ofLetters_eq_error {before after : List Char} (hbefore : ∀ c ∈ before, IsLetter c)
    (hc : ¬ IsLetter c) (a : Access) :
    ofLetters a (before ++ c :: after) = .error (.unknownAccess c) := by
  induction before generalizing a with
  | nil => rw [List.nil_append, ofLetters, ofLetter?_eq_none hc]
  | cons d before ih =>
    obtain ⟨hd, hbefore⟩ := List.forall_mem_cons.mp hbefore
    obtain ⟨mode, hmode⟩ := isLetter_iff.mp hd
    rw [List.cons_append, ofLetters, hmode]
    exact ih hbefore _

theorem eq_of_contains (h : a.contains b = true) (h' : b.contains a = true) : a = b := by
  simp only [contains, beq_iff_eq] at h h'
  rw [UInt32.and_comm, h'] at h
  cases a
  cases h
  rfl

theorem exists_parse {text : String} (h : ∀ c ∈ text.toList, IsLetter c) :
    ∃ b, parse text = .ok b ∧ all.contains b = true ∧ ∀ c, c ∈ b.letters ↔ c ∈ text.toList := by
  obtain ⟨b, hb, hall, hletters⟩ := exists_ofLetters (a := none) h (by decide)
  refine ⟨b, hb, hall, ?_⟩
  intro c
  have hnone : c ∉ none.letters := List.not_mem_nil
  rw [hletters, or_iff_right hnone]

end Access

/-! ## Matches that compare nothing -/

theorem RuleMatch.isWildcard_iff {m : RuleMatch}
    (haccess : ∀ a, m.access = some a → a.contains .all = false) :
    m.isWildcard = true ↔
      ∀ e, Access.all.contains e.access = true → m.applies e = true := by
  constructor
  · intro h e _
    exact applies_of_isWildcard h e
  · intro h
    -- No value of a field agrees with all of these events.
    have hwithin : Access.all.contains .all = true := rfl
    have hat (t : DeviceType) (n : UInt32) : m.applies ⟨t, .all, n, n⟩ = true := h _ hwithin
    simp only [applies, Bool.and_eq_true] at hat
    have hnumber {v : Option UInt32} (hv : ∀ n, v.all (· == n) = true) : v = none := by
      cases v with
      | none => rfl
      | some v =>
        have hzero : v = 0 := eq_of_beq (hv 0)
        have hone : v = 1 := eq_of_beq (hv 1)
        rw [hzero] at hone
        cases hone
    have htype : m.type = none := by
      cases htype : m.type with
      | none => rfl
      | some t =>
        rw [htype] at hat
        have hblock : t = .block := eq_of_beq (hat .block 0).1.1.1
        have hcharacter : t = .character := eq_of_beq (hat .character 0).1.1.1
        rw [hblock] at hcharacter
        cases hcharacter
    have hmodes : m.access = none := by
      cases hmodes : m.access with
      | none => rfl
      | some a =>
        have hall := (hat .block 0).1.1.2
        rw [hmodes, Option.all_some, haccess a hmodes] at hall
        cases hall
    have hmajor : m.major = none := hnumber fun n => (hat .block n).1.2
    have hminor : m.minor = none := hnumber fun n => (hat .block n).2
    simp [isWildcard, htype, hmodes, hmajor, hminor]

/-! ## Fields -/

namespace DeviceRule

variable {type : String} {number : Option Int} {r : DeviceRule} {m : RuleMatch}

def KnownType (type : String) : Prop := type = "a" ∨ type = "b" ∨ type = "c"

theorem exists_typeOf (h : KnownType type) :
    ∃ t, typeOf type = .ok t ∧
      ∀ u, t.all (· == u) = true ↔ type = "a" ∨ type.toList = [u.letter] := by
  rcases h with rfl | rfl | rfl
  · exact ⟨none, rfl, fun u => by simp⟩
  · refine ⟨some .block, rfl, ?_⟩
    intro u
    cases u <;> simp [DeviceType.letter]
  · refine ⟨some .character, rfl, ?_⟩
    intro u
    cases u <;> simp [DeviceType.letter]

theorem typeOf_eq_error (h : ¬ KnownType type) : typeOf type = .error (.unknownType type) := by
  have hne {text : String} (htext : type ≠ text) : type.toList ≠ text.toList := by
    intro heq
    exact htext (String.toList_inj.mp heq)
  obtain ⟨ha, hb, hc⟩ : type ≠ "a" ∧ type ≠ "b" ∧ type ≠ "c" := by
    simpa [KnownType] using h
  unfold typeOf
  split
  · exact absurd ‹_› (hne hc)
  · exact absurd ‹_› (hne hb)
  · exact absurd ‹_› (hne ha)
  · rfl

/-- No number, -1, or one of 32 bits. -/
def Fits (number : Option Int) : Prop := ∀ n, number = some n → -1 ≤ n ∧ n ≤ 4294967295

theorem exists_of_not_fits (h : ¬ Fits number) :
    ∃ n, number = some n ∧ ¬ (-1 ≤ n ∧ n ≤ 4294967295) := by
  simpa only [Fits, not_forall, exists_prop] using h

theorem exists_numberOf (h : Fits number) (field : RuleField) :
    ∃ v, numberOf field number = .ok v ∧
      ∀ w : UInt32, v.all (· == w) = true ↔ ∀ n, number = some n → n = -1 ∨ n = w.toNat := by
  cases number with
  | none => exact ⟨none, rfl, fun w => by simp⟩
  | some n =>
    obtain ⟨hlow, hhigh⟩ := h n rfl
    by_cases hany : n = -1
    · exact ⟨none, if_pos hany, fun w => by simp [hany]⟩
    · have hrange : 0 ≤ n ∧ n < 4294967296 := by omega
      refine ⟨some (UInt32.ofNat n.toNat), ?_, ?_⟩
      · rw [numberOf, if_neg hany, if_pos hrange]
      · intro w
        have hw := w.toNat_lt
        have hvalue : (UInt32.ofNat n.toNat).toNat = n.toNat := by
          rw [UInt32.toNat_ofNat']
          omega
        simp only [Option.all_some, beq_iff_eq, ← UInt32.toNat_inj, hvalue, Option.some.injEq]
        constructor
        · rintro heq k rfl
          exact .inr (by omega)
        · intro heq
          have hn := heq n rfl
          omega

theorem numberOf_eq_error {n : Int} (h : ¬ (-1 ≤ n ∧ n ≤ 4294967295)) (field : RuleField) :
    numberOf field (some n) = .error (.outOfRange field n) := by
  have hany : n ≠ -1 := by omega
  have hrange : ¬ (0 ≤ n ∧ n < 4294967296) := by omega
  rw [numberOf, if_neg hany, if_neg hrange]

/-! ## Rules -/

structure WellFormed (r : DeviceRule) : Prop where
  type : KnownType r.type
  access : ∀ c ∈ r.access.toList, Access.IsLetter c
  major : Fits r.major
  minor : Fits r.minor

/-- The fault that comes first: in the type, in the access modes from left to right, in the major
and then in the minor number. -/
inductive FirstFault (r : DeviceRule) : RuleError → Prop where
  | type : ¬ KnownType r.type → FirstFault r (.unknownType r.type)
  | access {before after : List Char} {c : Char} : KnownType r.type →
      r.access.toList = before ++ c :: after → (∀ b ∈ before, Access.IsLetter b) →
      ¬ Access.IsLetter c → FirstFault r (.unknownAccess c)
  | major {n : Int} : KnownType r.type → (∀ c ∈ r.access.toList, Access.IsLetter c) →
      r.major = some n → ¬ (-1 ≤ n ∧ n ≤ 4294967295) → FirstFault r (.outOfRange .major n)
  | minor {n : Int} : KnownType r.type → (∀ c ∈ r.access.toList, Access.IsLetter c) →
      Fits r.major → r.minor = some n → ¬ (-1 ≤ n ∧ n ≤ 4294967295) →
      FirstFault r (.outOfRange .minor n)

/-- The text of the rule speaks of the event. -/
structure Covers (r : DeviceRule) (e : Event) : Prop where
  type : r.type = "a" ∨ r.type.toList = [e.type.letter]
  access : ∀ c ∈ e.access.letters, c ∈ r.access.toList
  major : ∀ n, r.major = some n → n = -1 ∨ n = e.major.toNat
  minor : ∀ n, r.minor = some n → n = -1 ∨ n = e.minor.toNat

theorem wellFormed_or_firstFault (r : DeviceRule) : r.WellFormed ∨ ∃ cause, r.FirstFault cause := by
  by_cases htype : KnownType r.type
  · rcases exists_first_or_forall Access.IsLetter r.access.toList with
      ⟨before, c, after, haccess, hbefore, hc⟩ | haccess
    · exact .inr ⟨_, .access htype haccess hbefore hc⟩
    · by_cases hmajor : Fits r.major
      · by_cases hminor : Fits r.minor
        · exact .inl ⟨htype, haccess, hmajor, hminor⟩
        · obtain ⟨n, hn, hout⟩ := exists_of_not_fits hminor
          exact .inr ⟨_, .minor htype haccess hmajor hn hout⟩
      · obtain ⟨n, hn, hout⟩ := exists_of_not_fits hmajor
        exact .inr ⟨_, .major htype haccess hn hout⟩
  · exact .inr ⟨_, .type htype⟩

/-- A match has what each field of its rule reads as. -/
theorem exists_fields (h : r.validate = .ok m) :
    ∃ t a major minor, typeOf r.type = .ok t ∧ Access.parse r.access = .ok a ∧
      numberOf .major r.major = .ok major ∧ numberOf .minor r.minor = .ok minor ∧
      m = ⟨r.allow, t, if a = .all then none else some a, major, minor⟩ := by
  obtain ⟨t, ht, h⟩ := exists_of_bind_eq_ok h
  obtain ⟨a, ha, h⟩ := exists_of_bind_eq_ok h
  obtain ⟨major, hmajor, h⟩ := exists_of_bind_eq_ok h
  obtain ⟨minor, hminor, h⟩ := exists_of_bind_eq_ok h
  exact ⟨t, a, major, minor, ht, ha, hmajor, hminor, (Except.ok.inj h).symm⟩

theorem allow_of_validate (h : r.validate = .ok m) : m.allow = r.allow := by
  obtain ⟨t, a, major, minor, -, -, -, -, rfl⟩ := exists_fields h
  rfl

theorem exists_validate (h : r.WellFormed) :
    ∃ m, r.validate = .ok m ∧ (∀ a, m.access = some a → a.contains .all = false) ∧
      ∀ e, Access.all.contains e.access = true → (m.applies e = true ↔ r.Covers e) := by
  obtain ⟨t, ht, htype⟩ := exists_typeOf h.type
  obtain ⟨a, ha, hwithin, hletters⟩ := Access.exists_parse h.access
  obtain ⟨major, hM, hmajor⟩ := exists_numberOf h.major .major
  obtain ⟨minor, hm, hminor⟩ := exists_numberOf h.minor .minor
  refine ⟨⟨r.allow, t, if a = .all then none else some a, major, minor⟩, ?_, ?_, ?_⟩
  · rw [validate, ht, ha, hM, hm]
    rfl
  · intro b hb
    split at hb
    · cases hb
    · cases hb
      exact Bool.eq_false_iff.mpr fun hall => ‹¬ a = .all› (Access.eq_of_contains hall hwithin)
  · intro e he
    have haccess : (if a = .all then none else some a).all (·.contains e.access) = true ↔
        ∀ c ∈ e.access.letters, c ∈ r.access.toList := by
      simp only [← hletters, ← Access.contains_iff_letters he]
      split
      · simp [*]
      · rfl
    simp only [RuleMatch.applies, Bool.and_eq_true, htype, haccess, hmajor, hminor]
    constructor
    · rintro ⟨⟨⟨ht, ha⟩, hM⟩, hm⟩
      exact ⟨ht, ha, hM, hm⟩
    · intro hcovers
      exact ⟨⟨⟨hcovers.type, hcovers.access⟩, hcovers.major⟩, hcovers.minor⟩

theorem validate_eq_error {cause : RuleError} (h : r.FirstFault cause) :
    r.validate = .error cause := by
  cases h with
  | type htype =>
    rw [validate, typeOf_eq_error htype]
    rfl
  | access htype haccess hbefore hc =>
    obtain ⟨t, ht, -⟩ := exists_typeOf htype
    rw [validate, ht, Access.parse, haccess, Access.ofLetters_eq_error hbefore hc]
    rfl
  | major htype haccess hn hout =>
    obtain ⟨t, ht, -⟩ := exists_typeOf htype
    obtain ⟨a, ha, -⟩ := Access.exists_parse haccess
    rw [validate, ht, ha, hn, numberOf_eq_error hout]
    rfl
  | minor htype haccess hmajor hn hout =>
    obtain ⟨t, ht, -⟩ := exists_typeOf htype
    obtain ⟨a, ha, -⟩ := Access.exists_parse haccess
    obtain ⟨major, hM, -⟩ := exists_numberOf hmajor .major
    rw [validate, ht, ha, hM, hn, numberOf_eq_error hout]
    rfl

theorem validate_means (r : DeviceRule) :
    ((∃ m, r.validate = .ok m) ↔ r.WellFormed) ∧
      (∀ cause, r.validate = .error cause ↔ r.FirstFault cause) ∧
      ∀ m, r.validate = .ok m →
        (∀ e, Access.all.contains e.access = true → (m.applies e = true ↔ r.Covers e)) ∧
          (m.isWildcard = true ↔
            ∀ e, Access.all.contains e.access = true → m.applies e = true) := by
  rcases wellFormed_or_firstFault r with hwell | ⟨cause, hfault⟩
  · obtain ⟨m, hm, haccess, hcovers⟩ := exists_validate hwell
    refine ⟨⟨fun _ => hwell, fun _ => ⟨m, hm⟩⟩, ?_, ?_⟩
    · intro cause
      constructor
      · intro h
        rw [hm] at h
        cases h
      · exact validate_eq_error
    · intro m' hm'
      rw [hm] at hm'
      cases hm'
      exact ⟨hcovers, RuleMatch.isWildcard_iff haccess⟩
  · have herror := validate_eq_error hfault
    refine ⟨?_, ?_, ?_⟩
    · constructor
      · rintro ⟨m, hm⟩
        rw [herror] at hm
        cases hm
      · intro hwell
        obtain ⟨m, hm, -⟩ := exists_validate hwell
        exact ⟨m, hm⟩
    · intro cause'
      constructor
      · intro h
        rw [herror] at h
        cases h
        exact hfault
      · exact validate_eq_error
    · intro m hm
      rw [herror] at hm
      cases hm

theorem validate_means_reordered :
    validate ⟨true, "c", some 195, some (-1), "wrw"⟩ =
        .ok ⟨true, some .character, some ⟨6⟩, some 195, none⟩ ∧
      Access.all.contains .write = true ∧
      Covers ⟨true, "c", some 195, some (-1), "wrw"⟩ ⟨.character, .write, 195, 3⟩ ∧
      ∃ e, Access.all.contains e.access = true ∧
        ¬ Covers ⟨true, "c", some 195, some (-1), "wrw"⟩ e := by
  have hvalid : validate ⟨true, "c", some 195, some (-1), "wrw"⟩ =
      .ok ⟨true, some .character, some ⟨6⟩, some 195, none⟩ := rfl
  obtain ⟨hcovers, -⟩ := (validate_means ⟨true, "c", some 195, some (-1), "wrw"⟩).2.2 _ hvalid
  refine ⟨hvalid, rfl, (hcovers ⟨.character, .write, 195, 3⟩ rfl).mp rfl, ?_⟩
  refine ⟨⟨.character, .mknod, 195, 3⟩, rfl, ?_⟩
  intro hmknod
  cases (hcovers ⟨.character, .mknod, 195, 3⟩ rfl).mpr hmknod

end DeviceRule

end DeviceFilter

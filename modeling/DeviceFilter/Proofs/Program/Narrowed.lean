import DeviceFilter.Proofs.Program.Meaning
import DeviceFilter.Proofs.Program.Sealed

/-!
Asking for less. A rule that applies to an event applies to the same event with fewer access modes,
but not the other way round, so a denial of some modes does not apply to an event that asks for
these and others. Such a denial is the only way in which less can be refused than is allowed.
-/
set_option autoImplicit false

namespace DeviceFilter

open Machine Compile Program

/-! ## Rules and smaller access sets -/

section
variable {type : DeviceType} {major minor : UInt32} {x y : Access}

theorem Access.contains_trans {a : Access} (hy : a.contains y = true) (hx : y.contains x = true) :
    a.contains x = true := by
  simp only [contains, beq_iff_eq] at hy hx ⊢
  calc a.bits &&& x.bits
    _ = a.bits &&& (y.bits &&& x.bits) := by rw [hx]
    _ = a.bits &&& y.bits &&& x.bits := (UInt32.and_assoc _ _ _).symm
    _ = x.bits := by rw [hy, hx]

namespace RuleMatch

variable {r : RuleMatch}

theorem applies_narrowed (hx : y.contains x = true) (h : r.applies ⟨type, y, major, minor⟩ = true) :
    r.applies ⟨type, x, major, minor⟩ = true := by
  simp only [applies, Bool.and_eq_true] at h ⊢
  obtain ⟨⟨⟨htype, haccess⟩, hmajor⟩, hminor⟩ := h
  refine ⟨⟨⟨htype, ?_⟩, hmajor⟩, hminor⟩
  cases hr : r.access with
  | none => rfl
  | some a =>
    rw [hr] at haccess
    exact Access.contains_trans haccess hx

/-- Between events on one device only the access set of a rule can make a difference. -/
theorem exists_access_of_not_applies (hx : r.applies ⟨type, x, major, minor⟩ = true)
    (hy : r.applies ⟨type, y, major, minor⟩ = false) :
    ∃ a, r.access = some a ∧ a.contains y = false := by
  simp only [applies, Bool.and_eq_true] at hx
  obtain ⟨⟨⟨htype, -⟩, hmajor⟩, hminor⟩ := hx
  simp only [applies, htype, hmajor, hminor, Bool.true_and, Bool.and_true] at hy
  cases hr : r.access with
  | none => simp [hr] at hy
  | some a => exact ⟨a, rfl, by simpa [hr] using hy⟩

end RuleMatch

end

/-! ## The rule that decides -/

/-- The match of a rule that is valid and applies. -/
def DeviceRule.matching? (rule : DeviceRule) (e : Event) : Option RuleMatch :=
  match rule.validate with
  | .ok r => if r.applies e then some r else none
  | .error _ => none

/-- The last rule that is valid and applies to the event. -/
def lastMatch? (rules : List DeviceRule) (e : Event) : Option RuleMatch :=
  rules.reverse.findSome? fun rule => rule.matching? e

theorem matching?_eq_some {rule : DeviceRule} {e : Event} {r : RuleMatch} :
    rule.matching? e = some r ↔ rule.validate = .ok r ∧ r.applies e = true := by
  unfold DeviceRule.matching?
  cases rule.validate with
  | error cause => simp
  | ok r' => by_cases happlies : r'.applies e = true <;> grind

theorem map_allow_lastMatch? (rules : List DeviceRule) (e : Event) :
    (lastMatch? rules e).map RuleMatch.allow = lastVerdict? rules e := by
  unfold lastMatch? lastVerdict?
  rw [List.map_findSome?]
  congr 1
  funext rule
  simp only [Function.comp_apply, DeviceRule.matching?]
  cases rule.validate with
  | error cause => rfl
  | ok r => cases happlies : r.applies e <;> simp [happlies]

section
variable {rules : List DeviceRule} {type : DeviceType} {major minor : UInt32} {x y : Access}

theorem matching?_narrowed {rule : DeviceRule} (hx : y.contains x = true)
    (h : rule.matching? ⟨type, x, major, minor⟩ = none) :
    rule.matching? ⟨type, y, major, minor⟩ = none := by
  cases hy : rule.matching? ⟨type, y, major, minor⟩ with
  | none => rfl
  | some r =>
    obtain ⟨hvalid, happlies⟩ := matching?_eq_some.mp hy
    have hsome := matching?_eq_some.mpr ⟨hvalid, RuleMatch.applies_narrowed hx happlies⟩
    rw [h] at hsome
    cases hsome

theorem lastMatch?_narrowed_none (hx : y.contains x = true)
    (h : lastMatch? rules ⟨type, x, major, minor⟩ = none) :
    lastMatch? rules ⟨type, y, major, minor⟩ = none :=
  List.findSome?_eq_none_iff.mpr fun rule hrule =>
    matching?_narrowed hx (List.findSome?_eq_none_iff.mp h rule hrule)

/-- The rule that decides the smaller access decides the larger one too, where it applies to it. -/
theorem lastMatch?_of_narrowed {r : RuleMatch} (hx : y.contains x = true)
    (h : lastMatch? rules ⟨type, x, major, minor⟩ = some r) :
    r.applies ⟨type, x, major, minor⟩ = true ∧
      (r.applies ⟨type, y, major, minor⟩ = true →
        lastMatch? rules ⟨type, y, major, minor⟩ = some r) := by
  obtain ⟨later, rule, earlier, hrules, hrule, hlater⟩ := List.findSome?_eq_some_iff.mp h
  obtain ⟨hvalid, happlies⟩ := matching?_eq_some.mp hrule
  refine ⟨happlies, fun hy => List.findSome?_eq_some_iff.mpr ?_⟩
  exact ⟨later, rule, earlier, hrules, matching?_eq_some.mpr ⟨hvalid, hy⟩, fun rule' hrule' =>
    matching?_narrowed hx (hlater rule' hrule')⟩

/-- Where the larger access is allowed, the smaller one is denied by no rule but one that denies a
part of the larger one. -/
theorem lastVerdict?_narrowed {fallback : Bool} (hx : y.contains x = true)
    (hy : (lastVerdict? rules ⟨type, y, major, minor⟩).getD fallback = true) :
    (lastVerdict? rules ⟨type, x, major, minor⟩).getD fallback = false ↔
      ∃ r, lastMatch? rules ⟨type, x, major, minor⟩ = some r ∧ r.allow = false ∧
        ∃ a, r.access = some a ∧ a.contains y = false := by
  rw [← map_allow_lastMatch?] at hy ⊢
  cases hmatch : lastMatch? rules ⟨type, x, major, minor⟩ with
  | none =>
    rw [lastMatch?_narrowed_none hx hmatch] at hy
    have hfallback : fallback = true := hy
    simp [hfallback]
  | some r =>
    obtain ⟨happlies, hsame⟩ := lastMatch?_of_narrowed hx hmatch
    constructor
    · intro hdenied
      have hallow : r.allow = false := hdenied
      refine ⟨r, rfl, hallow, RuleMatch.exists_access_of_not_applies happlies ?_⟩
      cases hlarger : r.applies ⟨type, y, major, minor⟩ with
      | false => rfl
      | true =>
        rw [hsame hlarger, Option.map_some, Option.getD_some, hallow] at hy
        cases hy
    · rintro ⟨r', hr', hallow, -⟩
      cases hr'
      exact hallow

end

/-! ## Valid rules compile -/

theorem exists_deciding {rules : List DeviceRule}
    (h : ∀ rule ∈ rules, ∃ r, rule.validate = .ok r) : ∃ rs, deciding rules = .ok rs := by
  induction rules with
  | nil => exact ⟨[], rfl⟩
  | cons rule rules ih =>
    obtain ⟨⟨r, hr⟩, hrules⟩ := List.forall_mem_cons.mp h
    obtain ⟨rs, hrs⟩ := ih hrules
    cases hwildcard : r.isWildcard with
    | true => exact ⟨[r], deciding_cons_of_wildcard hr hwildcard⟩
    | false =>
      refine ⟨r :: rs, ?_⟩
      rw [deciding_cons_of_compares hr hwildcard, hrs]
      rfl

namespace Program

theorem sealed_constant (fallback : Bool) : (constant fallback).Sealed := by
  have hfirst : (constant fallback)[0]?
      = some (.mov32Imm register.result (if fallback then 1 else 0)) := rfl
  have hnext : Reachable (constant fallback) 1 := by
    refine Reachable.start.next hfirst ?_
    cases fallback <;> decide
  have hinside : ∀ k : Fin (constant fallback).length, ∀ n ∈ successors k (constant fallback)[k],
      0 ≤ n ∧ n < (constant fallback).length := by
    cases fallback <;> decide
  constructor
  · intro position hposition
    rcases position with _ | _ | position
    · exact .start
    · exact hnext
    · exact absurd hposition (Nat.not_lt.mpr (Nat.le_add_left 2 position))
  · intro position i hi
    obtain ⟨hlt, rfl⟩ := List.getElem?_eq_some_iff.mp hi
    exact hinside ⟨position, hlt⟩

theorem exists_compile_constant (fallback : Bool) {rules : List DeviceRule}
    (h : ∀ rule ∈ rules, ∃ r, rule.validate = .ok r) :
    ∃ p, compile (constant fallback) rules = .ok p := by
  by_cases hrules : rules = []
  · exact ⟨constant fallback, by simp [compile, hrules]⟩
  · have hreversed : ∀ rule ∈ rules.reverse, ∃ r, rule.validate = .ok r := fun rule hrule =>
      h rule (List.mem_reverse.mp hrule)
    obtain ⟨rs, hrs⟩ := exists_deciding hreversed
    exact ⟨_, compile_eq_ok (constant_ne_nil fallback) (sealed_constant fallback) hrules hrs⟩

theorem allows_compile_constant {fallback : Bool} {rules : List DeviceRule} {p : Program}
    {e : Event} (hp : compile (constant fallback) rules = .ok p) (hshort : p.length < stepLimit)
    (he : e.access.bits.toNat < 65536) :
    p.allows e = .ok ((lastVerdict? rules e).getD fallback) := by
  have hcompiled : compileAll (constant fallback) [rules] = .ok p := by
    simp [compileAll, hp, bind, Except.bind]
  have hrun : p.run e = .ok (verdict ((lastVerdict? [rules].flatten e).getD fallback)) :=
    runOn_compileAll hcompiled hshort he
  rw [List.flatten_singleton] at hrun
  simp only [allows, hrun, Except.map, verdict_bne_zero]

/-- Less access is allowed with more, unless the last rule that applies to the smaller request is a
denial whose access set does not have all of the larger one. -/
theorem allows_narrowed (fallback : Bool) {rules : List DeviceRule}
    (hrules : ∀ rule ∈ rules, ∃ r, rule.validate = .ok r) :
    ∃ p, compile (constant fallback) rules = .ok p ∧ (p.length < stepLimit →
      ∀ (type : DeviceType) (major minor : UInt32) (x y : Access), y.bits.toNat < 65536 →
        y.contains x = true → p.allows ⟨type, y, major, minor⟩ = .ok true →
        (p.allows ⟨type, x, major, minor⟩ = .ok true ∨
          p.allows ⟨type, x, major, minor⟩ = .ok false) ∧
        (p.allows ⟨type, x, major, minor⟩ = .ok false ↔
          ∃ r, lastMatch? rules ⟨type, x, major, minor⟩ = some r ∧ r.allow = false ∧
            ∃ a, r.access = some a ∧ a.contains y = false)) := by
  obtain ⟨p, hp⟩ := exists_compile_constant fallback hrules
  refine ⟨p, hp, fun hshort type major minor x y hbits hx hallows => ?_⟩
  have hxbits : x.bits.toNat < 65536 := by
    have hand : y.bits &&& x.bits = x.bits := by simpa [Access.contains] using hx
    have hle : (y.bits &&& x.bits).toNat ≤ y.bits.toNat := by
      rw [UInt32.toNat_and]
      exact Nat.and_le_left
    rw [hand] at hle
    exact Nat.lt_of_le_of_lt hle hbits
  have hlarger : p.allows ⟨type, y, major, minor⟩ = _ := allows_compile_constant hp hshort hbits
  have hsmaller : p.allows ⟨type, x, major, minor⟩ = _ := allows_compile_constant hp hshort hxbits
  have hy := Except.ok.inj (hlarger.symm.trans hallows)
  have hiff := lastVerdict?_narrowed hx hy
  rw [hsmaller]
  refine ⟨?_, Iff.trans ⟨Except.ok.inj, congrArg Except.ok⟩ hiff⟩
  cases (lastVerdict? rules ⟨type, x, major, minor⟩).getD fallback with
  | true => exact .inl rfl
  | false => exact .inr rfl

/-- With reading denied on one device, writing is still allowed to those who may do both. -/
theorem allows_narrowed_write : ∃ p,
    compile (constant false)
      [⟨true, "c", some 1, none, "rwm"⟩, ⟨false, "c", some 1, some 3, "r"⟩] = .ok p ∧
    p.length < stepLimit ∧
      p.allows ⟨.character, ⟨6⟩, 1, 3⟩ = .ok true ∧ p.allows ⟨.character, .write, 1, 3⟩ = .ok true ∧
      p.allows ⟨.character, .read, 1, 3⟩ = .ok false := by
  have hrules : ∀ rule ∈ [⟨true, "c", some 1, none, "rwm"⟩, ⟨false, "c", some 1, some 3, "r"⟩],
      ∃ r, DeviceRule.validate rule = .ok r := by
    intro rule hrule
    simp only [List.mem_cons, List.not_mem_nil, or_false] at hrule
    rcases hrule with rfl | rfl
    · exact ⟨_, rfl⟩
    · exact ⟨_, rfl⟩
  obtain ⟨p, hp, hless⟩ := allows_narrowed false hrules
  have hshort : p.length < stepLimit := by
    cases hp
    decide
  have hboth : p.allows ⟨.character, ⟨6⟩, 1, 3⟩ = .ok true :=
    (allows_compile_constant hp hshort (by decide)).trans (by decide)
  have hwrite := hless hshort .character 1 3 .write ⟨6⟩ (by decide) (by decide) hboth
  have hread := hless hshort .character 1 3 .read ⟨6⟩ (by decide) (by decide) hboth
  refine ⟨p, hp, hshort, hboth, hwrite.1.resolve_right fun hdenied => ?_, hread.2.mpr ?_⟩
  · obtain ⟨r, hr, hallow, -⟩ := hwrite.2.mp hdenied
    have hlast : lastMatch? [⟨true, "c", some 1, none, "rwm"⟩, ⟨false, "c", some 1, some 3, "r"⟩]
        ⟨.character, .write, 1, 3⟩ = some ⟨true, some .character, none, some 1, none⟩ := by decide
    rw [hlast] at hr
    cases hr
    cases hallow
  · exact ⟨⟨false, some .character, some .read, some 1, some 3⟩, by decide, rfl, .read, rfl,
      by decide⟩

/-- A denial of reading alone lets requests for reading and writing through. -/
theorem allows_wider_than_denied : ∃ p,
    compile (constant true) [⟨false, "c", some 1, some 3, "r"⟩] = .ok p ∧ p.length < stepLimit ∧
      (∀ rule ∈ [⟨false, "c", some 1, some 3, "r"⟩], ∃ r, DeviceRule.validate rule = .ok r) ∧
      Access.read ≠ .none ∧ Access.all.contains ⟨6⟩ = true ∧
      Access.contains ⟨6⟩ .read = true ∧ p.allows ⟨.character, ⟨6⟩, 1, 3⟩ = .ok true ∧
      p.allows ⟨.character, .read, 1, 3⟩ = .ok false := by
  obtain ⟨p, hp⟩ : ∃ p, compile (constant true) [⟨false, "c", some 1, some 3, "r"⟩] = .ok p :=
    ⟨_, rfl⟩
  have hshort : p.length < stepLimit := by
    cases hp
    decide
  refine ⟨p, hp, hshort, ?_, by decide, by decide, by decide, ?_, ?_⟩
  · intro rule hrule
    rw [List.mem_singleton.mp hrule]
    exact ⟨_, rfl⟩
  · exact (allows_compile_constant hp hshort (by decide)).trans (by decide)
  · exact (allows_compile_constant hp hshort (by decide)).trans (by decide)

end Program

end DeviceFilter

import DeviceFilter.Program.Compile
import Mathlib.Data.List.Basic

/-!
Compiled programs without labels. Every branch of a block goes to the end of the block, so a block
can be linked on its own: the offset of a branch is the number of records behind it. A compiled
program is the prologue, the linked blocks one after another, and the tail unless the last block
answers every event.
-/
set_option autoImplicit false

namespace DeviceFilter.Compile

open Instruction

/-- Instructions whose branches all go `after` records past the last of them. -/
def link (after : Nat) : List Pending → Program
  | [] => []
  | p :: ps =>
    (match p.target with
      | none => p.instruction
      | some _ => { p.instruction with offset := Int16.ofInt (ps.length + after : Nat) })
      :: link after ps

@[simp] theorem length_link (after : Nat) (ps : List Pending) :
    (link after ps).length = ps.length := by
  induction ps with
  | nil => rfl
  | cons p ps ih => simp [link, ih]

theorem link_append (after : Nat) (ps qs : List Pending) :
    link after (ps ++ qs) = link (qs.length + after) ps ++ link after qs := by
  induction ps with
  | nil => rfl
  | cons p ps ih =>
    simp only [List.cons_append, link, ih, List.length_append, Nat.add_assoc]

@[simp] theorem link_plain (after : Nat) (p : Program) : link after (p.map .plain) = p := by
  induction p with
  | nil => rfl
  | cons i p ih => simp [link, Pending.plain, ih]

/-- The block of a rule with its branches resolved. -/
def linked (r : RuleMatch) : Program := link 0 (block 0 r)

theorem link_comparisons (after : Nat) (next : Label) (r : RuleMatch) :
    link after (comparisons next r) = link after (comparisons 0 r) := by
  obtain ⟨allow, type, access, major, minor⟩ := r
  cases type <;> cases access <;> cases major <;> cases minor <;> rfl

theorem length_comparisons_le (next : Label) (r : RuleMatch) :
    (comparisons next r).length ≤ 6 := by
  obtain ⟨allow, type, access, major, minor⟩ := r
  cases type <;> cases access <;> cases major <;> cases minor <;> simp [comparisons]

theorem link_block (next : Label) (r : RuleMatch) : link 0 (block next r) = linked r := by
  simp only [linked, block, link_append, link_comparisons _ next]

theorem length_block (next : Label) (r : RuleMatch) :
    (block next r).length = (block 0 r).length := by
  simpa [linked] using congrArg List.length (link_block next r)

theorem length_answer (allow : Bool) : (answer allow).length = 2 := rfl

theorem length_block_pos (next : Label) (r : RuleMatch) : 0 < (block next r).length := by
  simp [block, length_answer]

theorem length_block_le (next : Label) (r : RuleMatch) : (block next r).length ≤ 8 := by
  have h := length_comparisons_le next r
  simp only [block, List.length_append, List.length_map, length_answer]
  omega

section
variable {property : Pending → Prop} {next : Label} {r : RuleMatch}

/-- The records that comparisons are built from, whichever fields the rule has. -/
theorem forall_mem_comparisons
    (htype : ∀ value, property (.branch (jumpNeImm register.type value 0) next))
    (hcopy : property (.plain (mov32Reg register.scratch register.access)))
    (hmask : ∀ mask, property (.plain (and32Imm register.scratch mask)))
    (haccess : property (.branch (jumpNeReg register.scratch register.access 0) next))
    (hmajor : ∀ value, property (.branch (jumpUnless register.major value) next))
    (hminor : ∀ value, property (.branch (jumpUnless register.minor value) next)) :
    ∀ q ∈ comparisons next r, property q := by
  obtain ⟨allow, type, access, major, minor⟩ := r
  intro q hq
  simp only [comparisons, List.mem_append] at hq
  rcases hq with ((hq | hq) | hq) | hq
  · cases type with
    | none => cases hq
    | some type =>
      rw [List.mem_singleton.mp hq]
      exact htype _
  · cases access with
    | none => cases hq
    | some access =>
      simp only [List.mem_cons, List.not_mem_nil, or_false] at hq
      rcases hq with rfl | rfl | rfl
      · exact hcopy
      · exact hmask _
      · exact haccess
  · cases major with
    | none => cases hq
    | some major =>
      rw [List.mem_singleton.mp hq]
      exact hmajor major
  · cases minor with
    | none => cases hq
    | some minor =>
      rw [List.mem_singleton.mp hq]
      exact hminor minor

theorem forall_mem_block (hcomparisons : ∀ q ∈ comparisons next r, property q)
    (hset : ∀ value, property (.plain (mov32Imm register.result value)))
    (hexit : property (.plain exit)) : ∀ q ∈ block next r, property q := by
  intro q hq
  rcases List.mem_append.mp hq with hq | hq
  · exact hcomparisons q hq
  · obtain ⟨i, hi, rfl⟩ := List.mem_map.mp hq
    simp only [answer, List.mem_cons, List.not_mem_nil, or_false] at hi
    rcases hi with rfl | rfl
    · exact hset _
    · exact hexit

end

/-- Branches of a block go to the next block, and a rule that compares nothing has none. -/
theorem target_of_mem_block {next : Label} {r : RuleMatch} {p : Pending} {label : Label}
    (hp : p ∈ block next r) (htarget : p.target = some label) :
    label = next ∧ r.isWildcard = false := by
  have hcomparison : p ∈ comparisons next r := by
    rcases List.mem_append.mp hp with hp | hp
    · exact hp
    · obtain ⟨i, _, rfl⟩ := List.mem_map.mp hp
      simp [Pending.plain] at htarget
  constructor
  · have hbranch (i : Instruction) : ∀ l, (Pending.branch i next).target = some l → l = next := by
      intro l hl
      exact (Option.some.inj hl).symm
    have hplain (i : Instruction) : ∀ l, (Pending.plain i).target = some l → l = next := by
      intro l hl
      cases hl
    have htargets : ∀ q ∈ comparisons next r, ∀ l, q.target = some l → l = next :=
      forall_mem_comparisons (fun _ => hbranch _) (hplain _) (fun _ => hplain _) (hbranch _)
        (fun _ => hbranch _) (fun _ => hbranch _)
    exact htargets p hcomparison label htarget
  · cases hw : r.isWildcard with
    | false => rfl
    | true =>
      obtain ⟨allow, type, access, major, minor⟩ := r
      simp only [RuleMatch.isWildcard, Bool.and_eq_true, Option.isNone_iff_eq_none] at hw
      obtain ⟨⟨⟨rfl, rfl⟩, rfl⟩, rfl⟩ := hw
      simp [comparisons] at hcomparison

/-! ## Resolving -/

section
variable {labels : Array Nat} {size : Nat}

theorem resolve_append (position : Nat) (ps qs : List Pending) :
    resolve labels size position (ps ++ qs) = (do
      let p ← resolve labels size position ps
      let q ← resolve labels size (position + ps.length) qs
      return p ++ q) := by
  induction ps generalizing position with
  | nil =>
    simp only [List.nil_append, resolve, List.length_nil, Nat.add_zero]
    cases resolve labels size position qs <;> rfl
  | cons p ps ih =>
    have hnext : position + (ps.length + 1) = position + 1 + ps.length := by omega
    simp only [List.cons_append, resolve, ih, List.length_cons, hnext]
    cases resolveAt labels size position p with
    | error e => rfl
    | ok i =>
      cases resolve labels size (position + 1) ps with
      | error e => rfl
      | ok rest => cases resolve labels size (position + 1 + ps.length) qs <;> rfl

theorem resolve_plain (position : Nat) (p : Program) :
    resolve labels size position (p.map .plain) = .ok p := by
  induction p generalizing position with
  | nil => rfl
  | cons i p ih =>
    simp only [List.map_cons, resolve, ih]
    rfl

/-- Instructions whose labels all have their place right behind them. -/
theorem resolve_eq_link {position : Nat} {ps : List Pending} (hsmall : ps.length ≤ 32767)
    (hlabels : ∀ p ∈ ps, ∀ label, p.target = some label →
      labels[label]? = some (position + ps.length) ∧ position + ps.length < size) :
    resolve labels size position ps = .ok (link 0 ps) := by
  induction ps generalizing position with
  | nil => rfl
  | cons p ps ih =>
    have hnext : position + (p :: ps).length = position + 1 + ps.length := by
      simp only [List.length_cons]
      omega
    rw [hnext] at hlabels
    simp only [List.length_cons] at hsmall
    have hrest := ih (by omega) fun q hq => hlabels q (List.mem_cons_of_mem p hq)
    have hhead : resolveAt labels size position p = .ok (match p.target with
        | none => p.instruction
        | some _ => { p.instruction with offset := Int16.ofInt (ps.length + 0 : Nat) }) := by
      cases htarget : p.target with
      | none => simp only [resolveAt, htarget]
      | some label =>
        obtain ⟨hbound, hsize⟩ := hlabels p List.mem_cons_self label htarget
        have hdistance : ((position + 1 + ps.length : Nat) : Int) - ((position : Int) + 1)
            = ps.length := by omega
        have hfits : fitsOffset (ps.length : Int) = true := by
          simp only [fitsOffset, Bool.and_eq_true, decide_eq_true_eq]
          omega
        simp only [resolveAt, htarget, hbound, Nat.not_le.mpr hsize, if_false, hdistance, hfits,
          if_true, Nat.add_zero]
    simp only [resolve, hhead, hrest, link]
    rfl

end

/-- The places of the labels when the first block starts at `position`. -/
def boundStarts (position : Nat) (rs : List RuleMatch) : List Nat :=
  if isClosed rs then (starts position rs).dropLast else starts position rs

theorem labels_eq (rs : List RuleMatch) :
    labels rs = (boundStarts prologue.length rs).toArray := rfl

theorem isClosed_cons_cons (r r' : RuleMatch) (rs : List RuleMatch) :
    isClosed (r :: r' :: rs) = isClosed (r' :: rs) := by
  simp [isClosed, List.getLast?_cons_cons]

theorem boundStarts_cons_cons (position : Nat) (r r' : RuleMatch) (rs : List RuleMatch) :
    boundStarts position (r :: r' :: rs)
      = position :: boundStarts (position + (block 0 r).length) (r' :: rs) := by
  simp only [boundStarts, isClosed_cons_cons, starts]
  split
  · cases rs <;> rfl
  · rfl

/-- The label after a block, if its rule compares something, is bound to the end of the block. -/
theorem boundStarts_next {position : Nat} {r : RuleMatch} {rs : List RuleMatch}
    (h : rs ≠ [] ∨ r.isWildcard = false) :
    (boundStarts position (r :: rs))[1]? = some (position + (block 0 r).length) := by
  cases rs with
  | nil =>
    have hr : r.isWildcard = false := h.resolve_left (· rfl)
    simp [boundStarts, isClosed, starts, hr]
  | cons r' rs =>
    rw [boundStarts_cons_cons]
    cases rs with
    | nil => cases hr : r'.isWildcard <;> simp [boundStarts, isClosed, starts, hr]
    | cons r'' rs => rw [boundStarts_cons_cons]; rfl

theorem resolve_blocks {all : Array Nat} {size after : Nat} {rs : List RuleMatch}
    {label position : Nat}
    (hlabels : ∀ k start, (boundStarts position rs)[k]? = some start →
      all[label + k]? = some start)
    (hsize : size = position + (blocks label rs).length + after)
    (hend : isClosed rs = true ∨ 0 < after) :
    resolve all size position (blocks label rs) = .ok (rs.flatMap linked) := by
  induction rs generalizing label position with
  | nil => rfl
  | cons r rs ih =>
    have hlength := length_block (label + 1) r
    simp only [blocks, List.length_append, hlength] at hsize
    have hblock : resolve all size position (block (label + 1) r) = .ok (linked r) := by
      rw [← link_block (label + 1) r]
      have hsmall := length_block_le (label + 1) r
      apply resolve_eq_link (by omega)
      intro p hp l htarget
      obtain ⟨rfl, hr⟩ := target_of_mem_block hp htarget
      rw [hlength]
      refine ⟨hlabels 1 _ (boundStarts_next (.inr hr)), ?_⟩
      cases rs with
      | nil =>
        have hafter : 0 < after := by simpa [isClosed, hr] using hend
        omega
      | cons r' rs =>
        have hpos := length_block_pos (label + 1 + 1) r'
        simp only [blocks, List.length_append] at hsize
        omega
    have hrest : resolve all size (position + (block 0 r).length) (blocks (label + 1) rs)
        = .ok (rs.flatMap linked) := by
      cases rs with
      | nil => rfl
      | cons r' rs =>
        apply ih
        · intro k start hk
          have hcons := hlabels (k + 1) start (by rw [boundStarts_cons_cons]; exact hk)
          rwa [Nat.add_assoc, Nat.add_comm 1 k]
        · omega
        · rwa [isClosed_cons_cons] at hend
    rw [blocks, resolve_append, hblock, hlength]
    simp only [bind, Except.bind, hrest, List.flatMap_cons]
    rfl

/-- The tail as far as it is part of the program. -/
def keptTail (tail : Program) (rs : List RuleMatch) : Program :=
  if isClosed rs then [] else tail

theorem resolve_layout {tail : Program} {rs : List RuleMatch}
    (h : isClosed rs = true ∨ tail ≠ []) :
    resolve (labels rs) (layout tail rs).length 0 (layout tail rs)
      = .ok (prologue ++ rs.flatMap linked ++ keptTail tail rs) := by
  have hlayout : layout tail rs
      = prologue.map .plain ++ blocks 0 rs ++ (keptTail tail rs).map .plain := by
    simp only [layout, keptTail]
    split <;> rfl
  have hafter : isClosed rs = true ∨ 0 < (keptTail tail rs).length := by
    cases hclosed : isClosed rs with
    | true => exact .inl rfl
    | false =>
      have htail : tail ≠ [] := h.resolve_left (by simp [hclosed])
      exact .inr (by simpa [keptTail, hclosed] using List.length_pos_iff.mpr htail)
  rw [hlayout, resolve_append, resolve_append, resolve_plain, resolve_plain]
  simp only [List.length_map, Nat.zero_add, bind, Except.bind]
  rw [resolve_blocks ?_ ?_ hafter]
  · rfl
  · intro k start hk
    rw [labels_eq, Nat.zero_add, List.getElem?_toArray]
    exact hk
  · simp only [List.length_append, List.length_map]

end DeviceFilter.Compile

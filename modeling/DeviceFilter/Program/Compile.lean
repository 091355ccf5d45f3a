import DeviceFilter.Instruction.Basic
import DeviceFilter.Rule.Basic

/-!
Compiling rules into a program that runs in front of an existing one, its tail. The program first
loads the event into registers, then tries the rules from the last to the first; each rule is a
block that answers the event or goes on to the next block, and the tail follows the last block.

Branches are laid out with labels first: label `k` is the start of block `k`, and the label after
the last block is the start of the tail. A rule that compares nothing ends the search, so the rules
before it and the tail are left out and their label stays without a place.
-/
set_option autoImplicit false

namespace DeviceFilter

/-- Inconsistencies of a laid-out program; only the tail can bring about one. -/
inductive Defect where
  | unboundLabel (label position : Nat)
  | labelPastEnd (label target size : Nat)
  | offsetTooLarge (offset : Int) (position : Nat)
  | branchOutside (position : Nat) (target : Int) (size : Nat)
deriving DecidableEq, Repr

def Defect.message : Defect → String
  | unboundLabel label position =>
    "unbound label " ++ toString label ++ " at " ++ toString position
  | labelPastEnd label target size =>
    "label " ++ toString label ++ " resolves to " ++ toString target ++ " past end "
      ++ toString size
  | offsetTooLarge offset position =>
    "jump offset " ++ toString offset ++ " at " ++ toString position ++ " exceeds i16"
  | branchOutside position target size =>
    "branch at " ++ toString position ++ " targets " ++ toString target ++ " outside [0, "
      ++ toString size ++ ")"

inductive CompileError where
  | invalidRule (cause : RuleError)
  | defect (what : Defect)
deriving DecidableEq, Repr

def CompileError.message : CompileError → String
  | invalidRule cause => "invalid device rule: " ++ cause.message
  | defect what => "assembler defect: " ++ what.message

/-- Register numbers with a fixed use in compiled programs. -/
structure RegisterUse where
  result : UInt8 := 0
  context : UInt8 := 1
  type : UInt8 := 2
  access : UInt8 := 3
  major : UInt8 := 4
  minor : UInt8 := 5
  scratch : UInt8 := 6

def register : RegisterUse := {}

/-- Offsets of the three words of an event as the kernel passes it. -/
def accessTypeOffset : Int16 := 0
def majorOffset : Int16 := 4
def minorOffset : Int16 := 8

abbrev Label := Nat

/-- An instruction whose branch may still go to a label. -/
structure Pending where
  instruction : Instruction
  target : Option Label
deriving DecidableEq, Repr

namespace Pending

def plain (i : Instruction) : Pending := ⟨i, none⟩

def branch (i : Instruction) (label : Label) : Pending := ⟨i, some label⟩

end Pending

namespace Compile

open Instruction

/-- Splits the word of type and access by mask and shift, which does not depend on byte order. -/
def prologue : Program :=
  [ loadWord register.type register.context accessTypeOffset,
    and32Imm register.type 0xFFFF,
    loadWord register.access register.context accessTypeOffset,
    rsh32Imm register.access 16,
    loadWord register.major register.context majorOffset,
    loadWord register.minor register.context minorOffset ]

/-- Branches unless the register holds `value`. A 64-bit comparison extends the sign of its
operand, so numbers beyond 31 bits are compared in 32 bits. -/
def jumpUnless (reg : UInt8) (value : UInt32) : Instruction :=
  if value.toNat < 2147483648 then jumpNeImm reg value.toInt32 0
  else jumpNe32Imm reg value.toInt32 0

/-- The answer of a program: register 0 is 1 to allow and 0 to deny. -/
def answer (allow : Bool) : Program :=
  [mov32Imm register.result (if allow then 1 else 0), exit]

/-- Comparisons of one rule, each going to `next` where the event disagrees. -/
def comparisons (next : Label) (r : RuleMatch) : List Pending :=
  (match r.type with
    | some type => [.branch (jumpNeImm register.type type.number.toInt32 0) next]
    | none => [])
  ++ (match r.access with
    | some access =>
      [ .plain (mov32Reg register.scratch register.access),
        .plain (and32Imm register.scratch access.bits.toInt32),
        .branch (jumpNeReg register.scratch register.access 0) next ]
    | none => [])
  ++ (match r.major with
    | some major => [.branch (jumpUnless register.major major) next]
    | none => [])
  ++ (match r.minor with
    | some minor => [.branch (jumpUnless register.minor minor) next]
    | none => [])

/-- The block of one rule: its comparisons, then its verdict. -/
def block (next : Label) (r : RuleMatch) : List Pending :=
  comparisons next r ++ (answer r.allow).map .plain

/-- The blocks of the rules, the first one labelled `label`. -/
def blocks : Label → List RuleMatch → List Pending
  | _, [] => []
  | label, r :: rs => block (label + 1) r ++ blocks (label + 1) rs

/-- Where the blocks start when the first one starts at `position`, and where they end. -/
def starts : Nat → List RuleMatch → List Nat
  | position, [] => [position]
  | position, r :: rs => position :: starts (position + (block 0 r).length) rs

/-- The rules that can decide an event, given latest first: up to the first that compares nothing.
Rules beyond it are not even validated. -/
def deciding : List DeviceRule → Except RuleError (List RuleMatch)
  | [] => .ok []
  | rule :: rules => do
    let r ← rule.validate
    if r.isWildcard then return [r] else return r :: (← deciding rules)

/-- Whether the last of the deciding rules answers every event. -/
def isClosed (rs : List RuleMatch) : Bool := rs.getLast?.any RuleMatch.isWildcard

/-- The program with labels in place of offsets. -/
def layout (tail : Program) (rs : List RuleMatch) : List Pending :=
  prologue.map .plain ++ blocks 0 rs ++ (if isClosed rs then [] else tail.map .plain)

/-- The places of the labels; the label after a block that answers everything has none. -/
def labels (rs : List RuleMatch) : Array Nat :=
  let all := starts prologue.length rs
  (if isClosed rs then all.dropLast else all).toArray

/-- Whether a distance fits the offset of an instruction. -/
def fitsOffset (distance : Int) : Bool := -32768 ≤ distance && distance < 32768

/-- The instruction at `position`, its label replaced by the distance to the label's place. -/
def resolveAt (labels : Array Nat) (size position : Nat) (p : Pending) :
    Except Defect Instruction :=
  match p.target with
  | none => .ok p.instruction
  | some label =>
    match labels[label]? with
    | none => .error (.unboundLabel label position)
    | some target =>
      if size ≤ target then .error (.labelPastEnd label target size)
      else
        let distance : Int := (target : Int) - ((position : Int) + 1)
        if fitsOffset distance then
          .ok { p.instruction with offset := Int16.ofInt distance }
        else .error (.offsetTooLarge distance position)

def resolve (labels : Array Nat) (size : Nat) : Nat → List Pending → Except Defect Program
  | _, [] => .ok []
  | position, p :: ps => do
    let i ← resolveAt labels size position p
    let rest ← resolve labels size (position + 1) ps
    return i :: rest

end Compile

namespace Program

/-- Where the branch of an instruction at `position` goes. -/
def branchTarget (position : Nat) (i : Instruction) : Int :=
  (position : Int) + 1 + i.offset.toInt

def checkBranchesFrom (size : Nat) : Nat → Program → Except Defect Unit
  | _, [] => .ok ()
  | position, i :: rest =>
    let target := branchTarget position i
    if i.isJump ∧ (target < 0 ∨ (size : Int) ≤ target) then
      .error (.branchOutside position target size)
    else checkBranchesFrom size (position + 1) rest

/-- Every branch lands inside the program, or the first that does not is named. -/
def checkBranches (p : Program) : Except Defect Unit := checkBranchesFrom p.length 0 p

/-- Gives the same answer to every event. -/
def constant (allow : Bool) : Program := Compile.answer allow

/-- The rules in front of `tail`; no rules leave the tail as it is. -/
def compile (tail : Program) (rules : List DeviceRule) : Except CompileError Program :=
  if rules = [] then .ok tail
  else do
    let rs ← (Compile.deciding rules.reverse).mapError .invalidRule
    let pending := Compile.layout tail rs
    let program ← (Compile.resolve (Compile.labels rs) pending.length 0 pending).mapError .defect
    (checkBranches program).mapError .defect
    return program

end Program

end DeviceFilter

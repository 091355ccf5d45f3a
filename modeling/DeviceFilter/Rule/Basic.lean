import DeviceFilter.Text.Quoted

/-!
Device access rules. A `DeviceRule` is what a caller writes; validating it gives a `RuleMatch`, in
which an absent field is one that is not compared. A rule applies to an event when every field it
has agrees with the event and the event asks for no access mode beyond the rule's.
-/
set_option autoImplicit false

namespace DeviceFilter

inductive DeviceType where
  | block
  | character
deriving DecidableEq, Repr

namespace DeviceType

/-- The number the kernel knows the type by. -/
def number : DeviceType → UInt32
  | block => 1
  | character => 2

def letter : DeviceType → Char
  | block => 'b'
  | character => 'c'

end DeviceType

/-- A set of access modes as the kernel's bits; bits beyond the three modes may occur in events. -/
structure Access where
  bits : UInt32
deriving DecidableEq, Repr

inductive RuleField where
  | major
  | minor
deriving DecidableEq, Repr

def RuleField.name : RuleField → String
  | major => "major"
  | minor => "minor"

inductive RuleError where
  | unknownType (type : String)
  | unknownAccess (letter : Char)
  | outOfRange (field : RuleField) (value : Int)
deriving DecidableEq, Repr

def RuleError.message : RuleError → String
  | unknownType type => "invalid device type " ++ Text.quoted type
  | unknownAccess letter => "unknown device access " ++ Text.quotedChar letter
  | outOfRange field value => "invalid " ++ field.name ++ " " ++ toString value

namespace Access

def none : Access := ⟨0⟩
def mknod : Access := ⟨1⟩
def read : Access := ⟨2⟩
def write : Access := ⟨4⟩
def all : Access := ⟨7⟩

def union (a b : Access) : Access := ⟨a.bits ||| b.bits⟩

/-- Whether every bit of `b` is in `a`. -/
def contains (a b : Access) : Bool := a.bits &&& b.bits == b.bits

def ofLetter? : Char → Option Access
  | 'r' => some read
  | 'w' => some write
  | 'm' => some mknod
  | _ => Option.none

/-- The modes that the letters add to `a`; the first unknown letter is an error. -/
def ofLetters (a : Access) : List Char → Except RuleError Access
  | [] => .ok a
  | c :: cs =>
    match ofLetter? c with
    | some mode => ofLetters (a.union mode) cs
    | Option.none => .error (.unknownAccess c)

/-- Letters may stand in any order and more than once. -/
def parse (text : String) : Except RuleError Access := ofLetters none text.toList

/-- The modes as letters in the order read, write, mknod. -/
def letters (a : Access) : List Char :=
  (if a.contains read then ['r'] else []) ++ (if a.contains write then ['w'] else [])
    ++ (if a.contains mknod then ['m'] else [])

def toText (a : Access) : String := String.ofList a.letters

end Access

/-- One rule as written: a number of -1 means any, as an absent one does. -/
structure DeviceRule where
  allow : Bool
  type : String := "a"
  major : Option Int := none
  minor : Option Int := none
  access : String := "rwm"
deriving DecidableEq, Repr

/-- A device access attempt. -/
structure Event where
  type : DeviceType
  access : Access
  major : UInt32
  minor : UInt32
deriving DecidableEq, Repr

/-- The fields of a valid rule that have to agree with an event. -/
structure RuleMatch where
  allow : Bool
  type : Option DeviceType
  access : Option Access
  major : Option UInt32
  minor : Option UInt32
deriving DecidableEq, Repr

namespace RuleMatch

/-- A rule that compares nothing decides every event. -/
def isWildcard (r : RuleMatch) : Bool :=
  r.type.isNone && r.access.isNone && r.major.isNone && r.minor.isNone

/-- Whether the rule applies: a field that is present agrees, and no more access is asked for. -/
def applies (r : RuleMatch) (e : Event) : Bool :=
  r.type.all (· == e.type) && r.access.all (·.contains e.access)
    && r.major.all (· == e.major) && r.minor.all (· == e.minor)

theorem applies_of_isWildcard {r : RuleMatch} (h : r.isWildcard = true) (e : Event) :
    r.applies e = true := by
  simp only [isWildcard, Bool.and_eq_true, Option.isNone_iff_eq_none] at h
  obtain ⟨⟨⟨ht, ha⟩, hm⟩, hn⟩ := h
  simp [applies, ht, ha, hm, hn]

end RuleMatch

namespace DeviceRule

def typeOf (type : String) : Except RuleError (Option DeviceType) :=
  match type.toList with
  | ['c'] => .ok (some .character)
  | ['b'] => .ok (some .block)
  | ['a'] => .ok none
  | _ => .error (.unknownType type)

def numberOf (field : RuleField) : Option Int → Except RuleError (Option UInt32)
  | none => .ok none
  | some n =>
    if n = -1 then .ok none
    else if 0 ≤ n ∧ n < 4294967296 then .ok (some (UInt32.ofNat n.toNat))
    else .error (.outOfRange field n)

/-- Faults are reported in the order type, access, major, minor. All three access modes together
are no constraint. -/
def validate (r : DeviceRule) : Except RuleError RuleMatch := do
  let type ← typeOf r.type
  let access ← Access.parse r.access
  let major ← numberOf .major r.major
  let minor ← numberOf .minor r.minor
  return { allow := r.allow
           type
           access := if access = .all then none else some access
           major
           minor }

end DeviceRule

/-- The verdict of the last rule that is valid and applies to the event. -/
def lastVerdict? (rules : List DeviceRule) (e : Event) : Option Bool :=
  rules.reverse.findSome? fun rule =>
    match rule.validate with
    | .ok r => if r.applies e then some r.allow else none
    | .error _ => none

end DeviceFilter

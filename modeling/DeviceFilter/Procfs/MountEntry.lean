import DeviceFilter.Path
import DeviceFilter.Text.Blank
import DeviceFilter.Text.Utf8

/-!
Lines of a process's mount table: fields between single spaces, of which a varying number of
optional ones ends with a lone dash. The type of the file system and its options are found from the
dash. Paths have some characters written as a backslash and three octal digits.
-/
set_option autoImplicit false

namespace DeviceFilter

/-- Why a line of a mount or cgroup table is refused. -/
inductive LineFault where
  | tooFewFields
  | noSeparator
  | noFileSystem
  | relativeRoot
  | malformedEntry
deriving DecidableEq, Repr

def LineFault.message : LineFault → String
  | tooFewFields => "fewer than 5 fields"
  | noSeparator => "missing optional-field separator"
  | noFileSystem => "missing filesystem type"
  | relativeRoot => "relative path in mount prefix"
  | malformedEntry => "malformed cgroup entry"

namespace Octal

def digit? (b : UInt8) : Option Nat :=
  if 0x30 ≤ b ∧ b ≤ 0x37 then some (b.toNat - 0x30) else none

/-- The byte that three octal digits write after a backslash, and what follows them. -/
def escape? : List UInt8 → Option (UInt8 × List UInt8)
  | a :: b :: c :: rest =>
    match digit? a, digit? b, digit? c with
    | some x, some y, some z =>
      if x * 64 + y * 8 + z < 256 then some (UInt8.ofNat (x * 64 + y * 8 + z), rest) else none
    | _, _, _ => none
  | _ => none

theorem length_of_escape? {bytes rest : List UInt8} {b : UInt8}
    (h : escape? bytes = some (b, rest)) : rest.length < bytes.length := by
  unfold escape? at h
  split at h
  · split at h
    · split at h
      · simp only [Option.some.injEq, Prod.mk.injEq] at h
        simp only [List.length_cons, ← h.2]
        omega
      · simp at h
    · simp at h
  · simp at h

/-- Replaces every octal escape by its byte; a backslash that begins none stays. -/
def unescape : List UInt8 → List UInt8
  | [] => []
  | b :: bytes =>
    if b = 0x5C then
      match h : escape? bytes with
      | some (value, rest) =>
        have := length_of_escape? h
        value :: unescape rest
      | none => b :: unescape bytes
    else b :: unescape bytes
termination_by bytes => bytes.length

/-- Writes spaces, tabs, line feeds and backslashes as octal escapes. -/
def escape (bytes : List UInt8) : List UInt8 :=
  bytes.flatMap fun b =>
    if b = 0x20 ∨ b = 0x09 ∨ b = 0x0A ∨ b = 0x5C then
      [0x5C, 0x30 + b / 64, 0x30 + b / 8 % 8, 0x30 + b % 8]
    else [b]

end Octal

/-- The text of a field with escapes; escaped bytes need not be UTF-8. -/
def unescapedField (cs : List Char) : List Char :=
  Utf8.decodeLossy (Octal.unescape (Utf8.encode cs))

structure MountEntry where
  root : String
  mountPoint : String
  fileSystem : String
  superOptions : List String
deriving DecidableEq, Repr

/-- Where a hierarchy is mounted, and which part of it. -/
structure MountPoint where
  root : String
  mountPath : String
deriving DecidableEq, Repr

namespace MountEntry

def devices : String := "devices"

/-- A hierarchy of the first version with the devices controller, known by its options or else by
the name of its mount point. -/
def isDevicesV1 (e : MountEntry) : Bool :=
  e.fileSystem == "cgroup"
    && (e.superOptions.contains devices
      || Path.fileName? e.mountPoint.toList == some devices.toList)

def isV2 (e : MountEntry) : Bool := e.fileSystem == "cgroup2"

/-- The index of the lone dash at or after `start`. -/
def separator? (fields : List (List Char)) (start : Nat) : Option Nat :=
  ((fields.drop start).findIdx? (· == ['-'])).map (· + start)

def ofLine (line : List Char) : Except LineFault MountEntry :=
  let fields := Text.split ' ' line
  match fields with
  | _ :: _ :: _ :: root :: mountPoint :: _ =>
    match separator? fields 6 with
    | none => .error .noSeparator
    | some dash =>
      match fields[dash + 1]? with
      | none => .error .noFileSystem
      | some fileSystem =>
        .ok { root := String.ofList (unescapedField root)
              mountPoint := String.ofList (unescapedField mountPoint)
              fileSystem := String.ofList fileSystem
              superOptions :=
                (Text.split ',' (fields[dash + 3]?.getD [])).map String.ofList }
  | _ => .error .tooFewFields

end MountEntry

end DeviceFilter

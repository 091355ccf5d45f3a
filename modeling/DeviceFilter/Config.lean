import DeviceFilter.Files.Access
import DeviceFilter.Json.Reader
import DeviceFilter.Kernel.ProgramInfo

/-!
Configuration of the device filter. Every field has a default, so a file holds only what differs.
-/
set_option autoImplicit false

namespace DeviceFilter

/-- The verdict on events that no rule mentions, for cgroups without a program. -/
inductive Fallback where
  | allow
  | deny
deriving DecidableEq, Repr

def Fallback.allows : Fallback → Bool
  | allow => true
  | deny => false

/-- How to recognise cgroups whose program another manager owns. -/
structure ExternalManager where
  enabled : Bool := true
  /-- How the last component of such a cgroup's path ends. -/
  scopeSuffix : String := ".scope"
  /-- Names of the runtimes that manage programs themselves. -/
  managers : List String := ["crun"]
  /-- How many ancestors of the calling process are looked at. -/
  maxAncestors : Nat := 10
deriving DecidableEq, Repr

structure Config where
  fallback : Fallback := .allow
  license : String := "Apache"
  /-- Whether a merged program keeps the license of the program it replaces. -/
  inheritLicense : Bool := false
  programName : String := "devcgroup"
  generation : Generation := .early
  externalManager : ExternalManager := {}
deriving DecidableEq, Repr

inductive ConfigError where
  | unreadable (path : Path) (cause : SystemError)
  | invalid (path : Path) (cause : Json.Error)

def ConfigError.message : ConfigError → String
  | unreadable path cause => "cannot read config " ++ path ++ ": " ++ cause.message
  | invalid path cause => "invalid config " ++ path ++ ": " ++ cause.message

open Json

def Fallback.names : List (String × Fallback) := [("allow", .allow), ("deny", .deny)]

def Generation.names : List (String × Generation) := [("linux5_1", .early), ("linux5_16", .late)]

def ExternalManager.format : RecordFormat ExternalManager where
  name := "struct ExternalManagerConfig"
  default := {}
  fields :=
    [ { name := "enabled", required := false
        read := fun _ => do let b ← Reader.boolean; return fun c => { c with enabled := b } },
      { name := "scope_suffix", required := false
        read := fun _ => do
          let s ← Reader.string "a string"
          return fun c => { c with scopeSuffix := s } },
      { name := "managers", required := false
        read := fun levels => do
          let names ← Reader.list levels fun _ => Reader.string "a string"
          return fun c => { c with managers := names } },
      { name := "max_ancestor_hops", required := false
        read := fun _ => do
          let n ← Reader.integer .unsigned64 "usize"
          return fun c => { c with maxAncestors := n.toNat } } ]

def Config.format : RecordFormat Config where
  name := "struct DeviceFilterConfig"
  default := {}
  fields :=
    [ { name := "fallback", required := false
        read := fun levels => do
          let f ← readName levels Fallback.names
          return fun c => { c with fallback := f } },
      { name := "license", required := false
        read := fun _ => do
          let s ← Reader.string "a string"
          return fun c => { c with license := s } },
      { name := "inherit_license", required := false
        read := fun _ => do
          let b ← Reader.boolean
          return fun c => { c with inheritLicense := b } },
      { name := "program_name", required := false
        read := fun _ => do
          let s ← Reader.string "a string"
          return fun c => { c with programName := s } },
      { name := "prog_info_abi", required := false
        read := fun levels => do
          let g ← readName levels Generation.names
          return fun c => { c with generation := g } },
      { name := "external_manager", required := false
        read := fun levels => do
          let e ← ExternalManager.format.read levels
          return fun c => { c with externalManager := e } } ]

namespace Config

def parse (text : String) : Except Json.Error Config := Json.parse Config.format.read text

variable {m : Type → Type} [Monad m]

def load (files : FileAccess m) (path : Path) : m (Except ConfigError Config) := do
  match ← files.readText path with
  | .error cause => return .error (.unreadable path cause)
  | .ok text => return (parse text).mapError (.invalid path)

end Config

end DeviceFilter

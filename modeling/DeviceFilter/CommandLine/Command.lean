import DeviceFilter.CommandLine.Argument
import DeviceFilter.Path

/-!
The commands of the program and how its command line names them. Three options may stand before or
after the subcommand; given in both places, the later one counts.
-/
set_option autoImplicit false

namespace DeviceFilter.CommandLine

/-- Whose device cgroup is meant, and the root under which process files and mounts are found. -/
structure ProcessOptions where
  /-- The program's own process, if none is given. -/
  pid : Option Int
  procRoot : Path
deriving DecidableEq, Repr

inductive Command where
  | version (process : ProcessOptions)
  | mountPath (process : ProcessOptions)
  | rootPath (process : ProcessOptions) (root : Option String)
  | path (process : ProcessOptions)
  | addRules (process : ProcessOptions) (cgroup : Option Path) (rules : Path)
  | list (cgroup : Path)
  | dump (cgroup : Path)
  | compile (rules : Path)
  | explain (rules : Path) (type : String) (major minor : UInt32) (access : String)
deriving DecidableEq, Repr

structure GlobalOptions where
  config : Option Path
  jsonLogs : Bool
  metrics : Bool
deriving DecidableEq, Repr

structure Invocation where
  options : GlobalOptions
  command : Command
deriving DecidableEq, Repr

def globalArguments : List Argument :=
  [ { name := "config", short := some 'c', kind := .path },
    { name := "json-logs", kind := .flag },
    { name := "metrics", kind := .flag } ]

def processArguments : List Argument :=
  [ { name := "pid", short := some 'p', kind := .integer .signed32 },
    { name := "proc-root", kind := .path } ]

def rulesArgument : Argument := { name := "rules", kind := .path }

/-- A number that a device can have. -/
def deviceNumber : ValueKind := .integer .unsigned32

/-- The options and positional arguments of each subcommand, besides the global ones. -/
def subcommands : List (String × List Argument × List Argument) :=
  [ ("version", processArguments, []),
    ("mount-path", processArguments, []),
    ("root-path", processArguments ++ [{ name := "prefix", kind := .text }], []),
    ("path", processArguments, []),
    ("add-rules", processArguments ++ [{ name := "cgroup", kind := .path }], [rulesArgument]),
    ("list", [{ name := "cgroup", kind := .path }], []),
    ("dump", [{ name := "cgroup", kind := .path }], []),
    ("compile", [], [rulesArgument]),
    ("explain",
      [ { name := "type", kind := .text }, { name := "major", kind := deviceNumber },
        { name := "minor", kind := deviceNumber }, { name := "access", kind := .text } ],
      [rulesArgument]) ]

def helpCommand : String := "help"

def topLevel : Level where
  options := globalArguments
  commands := subcommands.map (·.1) ++ [helpCommand]
  hasVersion := true

def levelOf? (name : String) : Option Level :=
  (subcommands.lookup name).map fun (options, positionals) =>
    { options := globalArguments ++ options, positionals }

namespace Values

def text? (values : Values) (name : String) : Option String :=
  (values.lookup name).map String.ofList

def integer? (values : Values) (name : String) : Option Int :=
  (values.lookup name).bind (Decimal.readInteger? .signed64)

def number? (values : Values) (name : String) : Option UInt32 :=
  (integer? values name).map fun n => UInt32.ofNat n.toNat

def hasFlag (values : Values) (name : String) : Bool := (values.lookup name).isSome

def process (values : Values) : ProcessOptions where
  pid := integer? values "pid"
  procRoot := (text? values "proc-root").getD "/"

end Values

/-- The command that a subcommand's values make, if none that it needs is missing. -/
def Command.ofValues? (name : String) (values : Values) : Option Command :=
  let process := Values.process values
  match name with
  | "version" => some (version process)
  | "mount-path" => some (mountPath process)
  | "root-path" => some (rootPath process (Values.text? values "prefix"))
  | "path" => some (path process)
  | "add-rules" => do
    let rules ← Values.text? values "rules"
    some (addRules process (Values.text? values "cgroup") rules)
  | "list" => (Values.text? values "cgroup").map list
  | "dump" => (Values.text? values "cgroup").map dump
  | "compile" => (Values.text? values "rules").map compile
  | "explain" => do
    let rules ← Values.text? values "rules"
    let type ← Values.text? values "type"
    let major ← Values.number? values "major"
    let minor ← Values.number? values "minor"
    some (explain rules type major minor ((Values.text? values "access").getD "rwm"))
  | _ => none

/-- Options given before and after the subcommand's name. -/
def GlobalOptions.ofValues (before after : Values) : GlobalOptions where
  config := (Values.text? after "config").or (Values.text? before "config")
  jsonLogs := Values.hasFlag before "json-logs" || Values.hasFlag after "json-logs"
  metrics := Values.hasFlag before "metrics" || Values.hasFlag after "metrics"

/-- Help may be asked for about one subcommand. -/
def helpFor (args : List (List Char)) : Interruption :=
  match args with
  | [] => .help
  | [name] => if topLevel.commands.contains (String.ofList name) then .help else .misuse
  | _ => .misuse

def Invocation.parse (args : List String) : Except Interruption Invocation := do
  let before ← topLevel.read (args.map String.toList)
  match before.command with
  | none => .error .misuse
  | some (name, rest) =>
    match levelOf? name with
    | none => .error (helpFor rest)
    | some level =>
      let after ← level.read rest
      match Command.ofValues? name after.values with
      | none => .error .misuse
      | some command => .ok ⟨.ofValues before.values after.values, command⟩

end DeviceFilter.CommandLine

import DeviceFilter.Backend
import DeviceFilter.Bytes.Hex
import DeviceFilter.CommandLine.Command
import DeviceFilter.Instruction.Disassembly
import DeviceFilter.Machine
import DeviceFilter.Rule.Format

/-!
Running a command line on a host. A run gives an exit code, what goes to the standard output and
what goes to the standard error; it touches the host through its file system, kernel, processes and
standard input only.
-/
set_option autoImplicit false

namespace DeviceFilter.CommandLine

structure Host (m : Type → Type) (Handle Cgroup : Type) where
  files : FileAccess m
  /-- The whole of the standard input. -/
  input : m (Except SystemError (List UInt8))
  processes : ProcessTable m
  kernel : Kernel m Handle Cgroup

inductive CommandError where
  | config (cause : ConfigError)
  | input (cause : SystemError)
  | unreadable (path : Path) (cause : SystemError)
  | rules (cause : Json.Error)
  | deviceType (text : String)
  | access (cause : RuleError)
  | compile (cause : CompileError)
  | machine (fault : Fault)
  | backend (cause : BackendError)
  | filter (cause : FilterError)

def CommandError.message : CommandError → String
  | config cause => cause.message
  | input cause => cause.message
  | unreadable path cause => path ++ ": " ++ cause.message
  | rules cause => cause.message
  | deviceType text => "device type must be c or b, got " ++ Text.quoted text
  | access cause => cause.message
  | compile cause => cause.message
  | machine fault => fault.message
  | backend cause => cause.message
  | filter cause => cause.message

structure Outcome where
  exitCode : UInt32
  output : String
  complaint : String
deriving DecidableEq, Repr

/-! ## Text -/

/-- Filled up with blanks on the right. -/
def padRight (width : Nat) (s : String) : String :=
  s ++ String.ofList (List.replicate (width - s.length) ' ')

/-- Filled up with blanks on the left. -/
def padLeft (width : Nat) (s : String) : String :=
  String.ofList (List.replicate (width - s.length) ' ') ++ s

def line (s : String) : String := s ++ "\n"

/-- Instructions one a line, numbered from `start`. -/
def listing (lead : String) : Nat → Program → String
  | _, [] => ""
  | start, i :: rest =>
    line (lead ++ padLeft 4 (toString start) ++ ": " ++ i.toText)
      ++ listing lead (start + 1) rest

def tableRow (id name tag gpl instructions runs : String) : String :=
  line (padRight 8 id ++ " " ++ padRight 16 name ++ " " ++ padRight 16 tag ++ " "
    ++ padRight 6 gpl ++ " " ++ padLeft 6 instructions ++ " " ++ padLeft 10 runs)

def tagText (p : DecodedProgram) : String := Hex.encode p.info.tag.toList

def programRow (p : DecodedProgram) : String :=
  tableRow (toString p.info.id) p.info.nameText (tagText p)
    (if p.info.gplCompatible then "true" else "false") (toString p.instructions.length)
    (toString p.info.runCount)

def programTable (programs : List DecodedProgram) : String :=
  tableRow "ID" "NAME" "TAG" "GPL" "INSNS" "RUNS" ++ String.join (programs.map programRow)

def programDump (p : DecodedProgram) : String :=
  line ("program " ++ toString p.info.id ++ " (" ++ p.info.nameText ++ ") tag " ++ tagText p
    ++ " license " ++ p.license) ++ listing "  " 0 p.instructions

/-! ## Commands -/

section
variable {m : Type → Type} [Monad m] {Handle Cgroup : Type} (host : Host m Handle Cgroup)

abbrev Action (m : Type → Type) := Counted CommandError m

def fromExcept {ε α : Type} (f : ε → CommandError) (result : Except ε α) : Action m α :=
  ExceptT.mk (return result.mapError f)

def lookup {α : Type} (action : m (Except LookupError α)) : Action m α :=
  Counted.ofExceptWith (fun e => .backend (.lookup e)) action

/-- The rules in a file, or on the standard input. -/
def readRules (path : Path) : Action m (List DeviceRule) := do
  let text ←
    if Path.isStandardInput path then
      Counted.ofExceptWith .input do return (← host.input).bind textOf
    else Counted.ofExceptWith (.unreadable path) (host.files.readText path)
  fromExcept .rules (DeviceRule.parseList text)

def pidOf (process : ProcessOptions) : Int := process.pid.getD host.processes.current

def managerOf (config : Config) : Manager m Handle Cgroup :=
  { kernel := host.kernel, processes := host.processes, config }

def versionOf (process : ProcessOptions) : Action m CgroupVersion :=
  lookup (Procfs.detectVersion host.files process.procRoot (pidOf host process))

def mountOf (version : CgroupVersion) (process : ProcessOptions) : Action m MountPoint :=
  lookup (Procfs.deviceMount host.files version process.procRoot (pidOf host process))

def rootOf (version : CgroupVersion) (process : ProcessOptions) (root : String) :
    Action m String :=
  lookup (Procfs.deviceRoot host.files version process.procRoot root (pidOf host process))

def directoryOf (version : CgroupVersion) (process : ProcessOptions) : Action m Path :=
  lookup (Procfs.deviceDirectory host.files version process.procRoot (pidOf host process))

def compiled (config : Config) (rules : List DeviceRule) : Action m Program :=
  fromExcept .compile (Program.compile (Program.constant config.fallback.allows) rules)

def inspected (config : Config) (cgroup : Path) : Action m (List DecodedProgram) :=
  ((managerOf host config).inspect cgroup).adapt .filter

def addRules (config : Config) (process : ProcessOptions) (cgroup : Option Path)
    (rules : Path) : Action m String := do
  let rules ← readRules host rules
  let version ← versionOf host process
  let path ← match cgroup with
    | some path => pure path
    | none => directoryOf host version process
  let backend : Backend m Handle Cgroup :=
    { version, files := host.files, manager := managerOf host config }
  (backend.addRules path rules).adapt .backend
  return line ("[DEVCGROUP] " ++ toString rules.length ++ " rules applied to " ++ path ++ " ("
    ++ version.name ++ ")")

def explainedType (text : String) : Except CommandError DeviceType :=
  match text.toList with
  | ['c'] => .ok .character
  | ['b'] => .ok .block
  | _ => .error (.deviceType text)

def explain (config : Config) (rules : Path) (type : String) (major minor : UInt32)
    (access : String) : Action m String := do
  let type ← fromExcept id (explainedType type)
  let access ← fromExcept .access (Access.parse access)
  let program ← compiled config (← readRules host rules)
  let event : Event := { type, access, major, minor }
  let allowed ← fromExcept .machine (program.allows event)
  return line (String.ofList [type.letter] ++ " " ++ toString major ++ ":" ++ toString minor
    ++ " " ++ access.toText ++ " -> " ++ (if allowed then "allow" else "deny"))

/-- What a command prints. -/
def execute (config : Config) : Command → Action m String
  | .version process => do
    return line (toString (← versionOf host process).number)
  | .mountPath process => do
    let mount ← mountOf host (← versionOf host process) process
    return line (mount.mountPath ++ " " ++ mount.root)
  | .rootPath process root => do
    let version ← versionOf host process
    let root ← match root with
      | some root => pure root
      | none => do
        let mount ← mountOf host version process
        pure mount.root
    return line (← rootOf host version process root)
  | .path process => do
    let version ← versionOf host process
    let mount ← mountOf host version process
    let root ← rootOf host version process mount.root
    let path ← directoryOf host version process
    return line ("version: " ++ version.name)
      ++ line ("mount:   " ++ mount.mountPath ++ " (root " ++ mount.root ++ ")")
      ++ line ("cgroup:  " ++ root) ++ line ("path:    " ++ path)
  | .addRules process cgroup rules => addRules host config process cgroup rules
  | .list cgroup => do return programTable (← inspected host config cgroup)
  | .dump cgroup => do return String.join ((← inspected host config cgroup).map programDump)
  | .compile rules => do
    return listing "" 0 (← compiled config (← readRules host rules))
  | .explain rules type major minor access => explain host config rules type major minor access

def configured (options : GlobalOptions) : Action m Config :=
  match options.config with
  | some path => Counted.ofExceptWith .config (Config.load host.files path)
  | none => return {}

def perform (invocation : Invocation) : Action m String := do
  let config ← configured host invocation.options
  execute host config invocation.command

/-- A command and, if they were asked for, the metrics of its run, also of one that failed. -/
def runInvocation (invocation : Invocation) : m Outcome := do
  let (result, metrics) ← (perform host invocation).run.run Metrics.empty
  let shown := if invocation.options.metrics then metrics.exposition else ""
  match result with
  | .ok output => return { exitCode := 0, output := output ++ shown, complaint := "" }
  | .error e =>
    return { exitCode := 1, output := shown, complaint := line ("[ERROR] " ++ e.message) }

def versionText : String := line "devcgroup 0.1.0"

def usageText : String :=
  line "usage: devcgroup [-c FILE] [--json-logs] [--metrics] COMMAND"
    ++ line ("commands: " ++ ", ".intercalate topLevel.commands)

/-- Runs the program with these arguments. -/
def run (args : List String) : m Outcome :=
  match Invocation.parse args with
  | .ok invocation => runInvocation host invocation
  | .error .help => return { exitCode := 0, output := usageText, complaint := "" }
  | .error .version => return { exitCode := 0, output := versionText, complaint := "" }
  | .error .misuse => return { exitCode := 2, output := "", complaint := usageText }

end

end DeviceFilter.CommandLine

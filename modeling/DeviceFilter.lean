import DeviceFilter.Backend
import DeviceFilter.Bytes.Hex
import DeviceFilter.Bytes.Lemmas
import DeviceFilter.Bytes.Order
import DeviceFilter.CgroupVersion
import DeviceFilter.CommandLine.Argument
import DeviceFilter.CommandLine.Command
import DeviceFilter.CommandLine.Run
import DeviceFilter.Config
import DeviceFilter.ControlFiles
import DeviceFilter.Decimal.Integer
import DeviceFilter.Decimal.Shortest
import DeviceFilter.Files.Access
import DeviceFilter.Files.Tree
import DeviceFilter.Instruction.Basic
import DeviceFilter.Instruction.Codec
import DeviceFilter.Instruction.Disassembly
import DeviceFilter.Json.Error
import DeviceFilter.Json.Number
import DeviceFilter.Json.Reader
import DeviceFilter.Kernel.Attached
import DeviceFilter.Kernel.Command
import DeviceFilter.Kernel.DecodedProgram
import DeviceFilter.Kernel.Failure
import DeviceFilter.Kernel.Interface
import DeviceFilter.Kernel.Layout
import DeviceFilter.Kernel.ObjectName
import DeviceFilter.Kernel.ProgramInfo
import DeviceFilter.Kernel.Requests
import DeviceFilter.Kernel.SystemCalls
import DeviceFilter.Machine
import DeviceFilter.Main
import DeviceFilter.Manager
import DeviceFilter.Metrics
import DeviceFilter.Path
import DeviceFilter.Privileges
import DeviceFilter.Process
import DeviceFilter.Procfs.CgroupEntry
import DeviceFilter.Procfs.Lookup
import DeviceFilter.Procfs.MountEntry
import DeviceFilter.Program.Compile
import DeviceFilter.Rule.Basic
import DeviceFilter.Rule.ControlLine
import DeviceFilter.Rule.Format
import DeviceFilter.Simulation.Fault
import DeviceFilter.Simulation.Host
import DeviceFilter.Simulation.Kernel
import DeviceFilter.SystemError
import DeviceFilter.Text.Blank
import DeviceFilter.Text.Combining
import DeviceFilter.Text.Quoted
import DeviceFilter.Text.Split
import DeviceFilter.Text.Unprintable
import DeviceFilter.Text.Utf8
import DeviceFilter.Proofs.Counted
import DeviceFilter.Proofs.Instruction.Codec
import DeviceFilter.Proofs.Kernel.Faithful
import DeviceFilter.Proofs.Kernel.Layout
import DeviceFilter.Proofs.Kernel.Order
import DeviceFilter.Proofs.Kernel.Preparing
import DeviceFilter.Proofs.Kernel.Trace
import DeviceFilter.Proofs.Kernel.Verdict
import DeviceFilter.Proofs.Machine.Run
import DeviceFilter.Proofs.Machine.Shift
import DeviceFilter.Proofs.Machine.Steps
import DeviceFilter.Proofs.Manager.Applied
import DeviceFilter.Proofs.Manager.Faithful
import DeviceFilter.Proofs.Manager.History
import DeviceFilter.Proofs.Manager.Meaning
import DeviceFilter.Proofs.Manager.Order
import DeviceFilter.Proofs.Manager.Phases
import DeviceFilter.Proofs.Manager.Sweep
import DeviceFilter.Proofs.Program.Blocks
import DeviceFilter.Proofs.Program.Compiled
import DeviceFilter.Proofs.Program.Linked
import DeviceFilter.Proofs.Program.Meaning
import DeviceFilter.Proofs.Program.Prologue
import DeviceFilter.Proofs.Simulation.Faithful
import DeviceFilter.Proofs.Instruction.Records
import DeviceFilter.Proofs.Machine.Control
import DeviceFilter.Proofs.Program.Sealed
import DeviceFilter.Proofs.Program.Flow
import DeviceFilter.Proofs.Program.Narrowed
import DeviceFilter.Proofs.Kernel.Guarded
import DeviceFilter.Proofs.Manager.Replaced
import DeviceFilter.Proofs.Kernel.Enumeration
import DeviceFilter.Proofs.Path
import DeviceFilter.Proofs.Procfs.Search
import DeviceFilter.Proofs.Text.Utf8
import DeviceFilter.Proofs.Procfs.Stripped
import DeviceFilter.Proofs.Procfs.Directory
import DeviceFilter.Proofs.Manager.Size
import DeviceFilter.Proofs.Procfs.Version
import DeviceFilter.Proofs.Program.Absorbed
import DeviceFilter.Proofs.Program.Outcome
import DeviceFilter.Proofs.Kernel.Introspection
import DeviceFilter.Proofs.Text.Lines
import DeviceFilter.Proofs.Procfs.Entry
import DeviceFilter.Proofs.Procfs.Detection
import DeviceFilter.Proofs.Manager.Ownership
import DeviceFilter.Proofs.Kernel.Fields
import DeviceFilter.Proofs.Kernel.Generations
import DeviceFilter.Proofs.Kernel.Requests
import DeviceFilter.Proofs.Kernel.Sizing
import DeviceFilter.Proofs.Machine.Loads
import DeviceFilter.Proofs.Program.Bounded
import DeviceFilter.Proofs.Machine.Trail
import DeviceFilter.Proofs.Program.Portable
import DeviceFilter.Proofs.Rule.Validated
import DeviceFilter.Proofs.ControlFiles
import DeviceFilter.Proofs.Text.Fields
import DeviceFilter.Proofs.Rule.ControlLine
import DeviceFilter.Proofs.Procfs.Octal
import DeviceFilter.Proofs.Procfs.MountLine
import DeviceFilter.Proofs.Kernel.Tally
import DeviceFilter.Proofs.Kernel.Retries
import DeviceFilter.Proofs.Kernel.Listing
import DeviceFilter.Proofs.Manager.Inspection
import DeviceFilter.Proofs.Manager.Account
import DeviceFilter.Proofs.Manager.Commuting
import DeviceFilter.Proofs.Kernel.Naming
import DeviceFilter.Proofs.Program.SignBoundary
import DeviceFilter.Proofs.Text.Trimmed
import DeviceFilter.Proofs.Kernel.Loading

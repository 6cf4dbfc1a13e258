import ChildProcess.Bytes
import ChildProcess.ChildStatus
import ChildProcess.Decimal.Binary64
import ChildProcess.Decimal.Reading
import ChildProcess.Decimal.Shortest
import ChildProcess.Duration
import ChildProcess.Environment
import ChildProcess.Errno
import ChildProcess.ExecRequest
import ChildProcess.Handle
import ChildProcess.Inherited.Close
import ChildProcess.Inherited.DirectoryRecord
import ChildProcess.Launch
import ChildProcess.LaunchError
import ChildProcess.LogRecord
import ChildProcess.Machine.Answer
import ChildProcess.Machine.Basic
import ChildProcess.Machine.DescriptorTable
import ChildProcess.Machine.Execution
import ChildProcess.Machine.Fault
import ChildProcess.Machine.FileSystem
import ChildProcess.Machine.Lifecycle
import ChildProcess.Machine.NativeImage
import ChildProcess.Machine.Path
import ChildProcess.Machine.Run
import ChildProcess.Machine.Setup
import ChildProcess.Machine.Storage
import ChildProcess.Main
import ChildProcess.OrderedMap
import ChildProcess.Program
import ChildProcess.Program.Directory
import ChildProcess.Program.Transfer
import ChildProcess.Proofs.Concurrency.Isolation
import ChildProcess.Proofs.Concurrency.Ledger
import ChildProcess.Proofs.Concurrency.Threads
import ChildProcess.Proofs.Decimal.NearestEven
import ChildProcess.Proofs.Descriptors.Additions
import ChildProcess.Proofs.Descriptors.Answers
import ChildProcess.Proofs.Descriptors.Closing
import ChildProcess.Proofs.Descriptors.Listing
import ChildProcess.Proofs.Descriptors.Names
import ChildProcess.Proofs.Descriptors.RecordWalk
import ChildProcess.Proofs.Descriptors.Remainder
import ChildProcess.Proofs.ExecutableSearch
import ChildProcess.Proofs.Filling
import ChildProcess.Proofs.InheritedVariables
import ChildProcess.Proofs.LaunchSequences
import ChildProcess.Proofs.LaunchSettings
import ChildProcess.Proofs.Marshalling
import ChildProcess.Proofs.Runner.Completion
import ChildProcess.Proofs.Runner.EnvironmentLayers
import ChildProcess.Proofs.Runner.LimitOptions
import ChildProcess.Proofs.Runner.TimeLimits
import ChildProcess.Proofs.Runner.Watching
import ChildProcess.Proofs.Runs
import ChildProcess.Proofs.Spawn.Accounting
import ChildProcess.Proofs.Spawn.AtExecution
import ChildProcess.Proofs.Spawn.Conduct
import ChildProcess.Proofs.Spawn.Exchange
import ChildProcess.Proofs.Spawn.Leftovers
import ChildProcess.Proofs.Spawn.MissingPrograms
import ChildProcess.Proofs.Spawn.Ownership
import ChildProcess.Proofs.Spawn.Preparation
import ChildProcess.Proofs.Spawn.ReportDescriptor
import ChildProcess.Proofs.Spawn.SetUp
import ChildProcess.Proofs.Spawn.Supervision
import ChildProcess.Proofs.Spawn.Survivors
import ChildProcess.Proofs.Spawn.Transport
import ChildProcess.Proofs.Spawn.TwoSides
import ChildProcess.Proofs.Spawn.Wiring
import ChildProcess.Proofs.StartErrors
import ChildProcess.Proofs.Waiting.FinalCodes
import ChildProcess.Proofs.Waiting.Life
import ChildProcess.Proofs.Waiting.Looks
import ChildProcess.Proofs.Waiting.Outcome
import ChildProcess.Proofs.Waiting.Parenthood
import ChildProcess.Proofs.Waiting.RememberedCode
import ChildProcess.Proofs.Waiting.Signals
import ChildProcess.Proofs.Waiting.Uses
import ChildProcess.Proofs.Windows.CommandLine
import ChildProcess.Proofs.Windows.EnvironmentBlock
import ChildProcess.Proofs.Windows.Overrides
import ChildProcess.Proofs.Windows.ZeroCharacters
import ChildProcess.Runner.Arguments
import ChildProcess.Runner.Command
import ChildProcess.Runner.Error
import ChildProcess.Runner.LogFilter
import ChildProcess.Runner.Options
import ChildProcess.Runner.Settings
import ChildProcess.Runner.SettingsFile
import ChildProcess.Runner.Supervision
import ChildProcess.SearchPath
import ChildProcess.Session.Basic
import ChildProcess.Session.Bindings
import ChildProcess.Session.Children
import ChildProcess.Session.Closing
import ChildProcess.Session.Command
import ChildProcess.Session.Execution
import ChildProcess.Session.Stranger
import ChildProcess.Session.Streams
import ChildProcess.Shell.Arithmetic
import ChildProcess.Shell.Builtin
import ChildProcess.Shell.Command
import ChildProcess.Shell.Condition
import ChildProcess.Shell.Expansion
import ChildProcess.Shell.Invocation
import ChildProcess.Shell.Job
import ChildProcess.Shell.Pattern
import ChildProcess.Shell.Printing
import ChildProcess.Shell.Redirect
import ChildProcess.Shell.Run
import ChildProcess.Shell.State
import ChildProcess.Shell.Token
import ChildProcess.Shell.Utility
import ChildProcess.Signal
import ChildProcess.Spawn.Binding
import ChildProcess.Spawn.Child
import ChildProcess.Spawn.Execution
import ChildProcess.Spawn.Report
import ChildProcess.Spawn.Start
import ChildProcess.StandardStream
import ChildProcess.SystemError
import ChildProcess.Text.Lossy
import ChildProcess.Text.Quoted
import ChildProcess.Text.Terminal
import ChildProcess.Text.Unprintable
import ChildProcess.Text.Uppercase
import ChildProcess.Toml.Document
import ChildProcess.Toml.Scalar
import ChildProcess.Toml.Table
import ChildProcess.Toml.Text
import ChildProcess.Toml.Value
import ChildProcess.Tools.Basic
import ChildProcess.Tools.Copying
import ChildProcess.Tools.Standard
import ChildProcess.Tools.Surroundings
import ChildProcess.Wait
import ChildProcess.Windows.CommandLine
import ChildProcess.Windows.EnvironmentBlock

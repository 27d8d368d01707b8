import TraceAgent.SortedMap
import TraceAgent.Text.Blank
import TraceAgent.Text.Quoted
import TraceAgent.Text.Utf8
import TraceAgent.Log
import TraceAgent.Trace.RunLog
import TraceAgent.File.Error
import TraceAgent.Class
import TraceAgent.ClassFile
import TraceAgent.Options
import TraceAgent.Hook.Script
import TraceAgent.File.Tree
import TraceAgent.Archive
import TraceAgent.Pipe
import TraceAgent.Sink
import TraceAgent.Recorder
import TraceAgent.Shutdown
import TraceAgent.Session
import TraceAgent.Host
import TraceAgent.Scene
import TraceAgent.Snapshot
import TraceAgent.Interception
import TraceAgent.Host.Scripted
import TraceAgent.Support
import TraceAgent.Attach
import TraceAgent.Jvm.State
import TraceAgent.Jvm.ToolInterface
import TraceAgent.Jvm.NativeInterface
import TraceAgent.Jvm
import TraceAgent.Jvm.Host
import TraceAgent.Jvm.LoadHook
import TraceAgent.Jvm.SupportRuntime
import TraceAgent.Jvm.Scripted
import TraceAgent.Agent
import TraceAgent.Library.Zip.Writer
import TraceAgent.Text.Hexadecimal
import TraceAgent.Failure
import TraceAgent.Jvm.Process
import TraceAgent.Library.Pattern
import TraceAgent.Library.Pattern.Cursor
import TraceAgent.Library.Pattern.Atom
import TraceAgent.Library.Pattern.Bracket
import TraceAgent.Library.Pattern.Written
import TraceAgent.Proofs.Text.Lines
import TraceAgent.Proofs.Text.Utf8
import TraceAgent.Proofs.Text.Numeral
import TraceAgent.Proofs.Options
import TraceAgent.Proofs.Text.ByteLines
import TraceAgent.Proofs.ClassFile
import TraceAgent.Proofs.ClassFile.Name
import TraceAgent.Proofs.SortedMap
import TraceAgent.Proofs.Trace.Line
import TraceAgent.Proofs.Trace.Codec
import TraceAgent.Proofs.Trace.Merge
import TraceAgent.Proofs.Trace.History
import TraceAgent.Proofs.Hook.Registry
import TraceAgent.Proofs.Hook.Course
import TraceAgent.Proofs.Hook.Stage
import TraceAgent.Proofs.Scene.Deliveries
import TraceAgent.Proofs.Scene.Depth
import TraceAgent.Proofs.Scene.Work
import TraceAgent.Proofs.Scene.Perform
import TraceAgent.Proofs.Scene.Hooks
import TraceAgent.Proofs.Jvm.Tools
import TraceAgent.Proofs.Attach.Attempt
import TraceAgent.Proofs.Attach.Hooks
import TraceAgent.Proofs.Attach.Trace
import TraceAgent.Proofs.Attach.Calls
import TraceAgent.Proofs.Attach.Lifetime
import TraceAgent.Proofs.Attach.Order
import TraceAgent.Proofs.File.Tree
import TraceAgent.Proofs.Scene.Files
import TraceAgent.Proofs.Trace.RunLog
import TraceAgent.Proofs.Attach.Log
import TraceAgent.Proofs.File.Writing
import TraceAgent.Proofs.Archive.Claims
import TraceAgent.Proofs.Archive.Path
import TraceAgent.Proofs.Archive.Batch
import TraceAgent.Proofs.Archive.History
import TraceAgent.Proofs.Snapshot.Pass
import TraceAgent.Proofs.Snapshot.Account
import TraceAgent.Proofs.Sink.Life
import TraceAgent.Proofs.Shutdown.Ending
import TraceAgent.Proofs.Shutdown.Rundown
import TraceAgent.Proofs.Shutdown.Closing
import TraceAgent.Proofs.Trace.ReadBack
import TraceAgent.Proofs.Trace.KeyedSum
import TraceAgent.Proofs.Trace.Composition
import TraceAgent.Proofs.Archive.Part
import TraceAgent.Proofs.Attach.Since
import TraceAgent.Proofs.Attach.Archived
import TraceAgent.Proofs.Attach.Late
import TraceAgent.Proofs.Attach.Independence
import TraceAgent.Proofs.Sink.Merge
import TraceAgent.Proofs.Sink.Foreign
import TraceAgent.Proofs.Scene.Watch
import TraceAgent.Proofs.Attach.Coverage
import TraceAgent.Proofs.Jvm.LoadHook
import TraceAgent.Proofs.Jvm.Naming
import TraceAgent.Proofs.Pipe
import TraceAgent.Proofs.Attach.Stream
import TraceAgent.Proofs.ClassFile.Extent
import TraceAgent.Proofs.ClassFile.Slots
import TraceAgent.Proofs.Archive.Contained
import TraceAgent.Proofs.Interception
import TraceAgent.Proofs.Sink.Status
import TraceAgent.Proofs.Jvm.Loans
import TraceAgent.Proofs.Jvm.Listing
import TraceAgent.Proofs.Jvm.Native
import TraceAgent.Proofs.Jvm.Instrumenting
import TraceAgent.Library.ControlSequence
import TraceAgent.Library.WrittenFilter

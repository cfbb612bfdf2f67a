import Descriptors.Text.WhiteSpace
import Descriptors.Text.GraphemeExtend
import Descriptors.Text.Printable
import Descriptors.Binary64
import Descriptors.Decimal.Shortest
import Descriptors.Bytes
import Descriptors.Error
import Descriptors.Buffer
import Descriptors.SocketAddress
import Descriptors.Transfer
import Descriptors.Job
import Descriptors.JobQueue
import Descriptors.WorkerProtocol
import Descriptors.Monitor
import Descriptors.Kernel.Flags
import Descriptors.Kernel.PipeRing
import Descriptors.Kernel.Tree
import Descriptors.Kernel.State
import Descriptors.Kernel.Calls
import Descriptors.Kernel.Io
import Descriptors.Kernel.Sockets
import Descriptors.Session.Doc
import Descriptors.Session.Op
import Descriptors.Session.World
import Descriptors.Session.Threads
import Descriptors.Session.Act
import Descriptors.Session.Buffers
import Descriptors.Session.Resources
import Descriptors.Session.Transfers
import Descriptors.Session.Async
import Descriptors.Session.Lifecycle
import Descriptors.Session.Watch
import Descriptors.Session.Logging
import Descriptors.Session.Debug
import Descriptors.Session.Script
import Descriptors.Session.Reader
import Descriptors.Session.Request
import Descriptors.Session.Exchange
import Descriptors.Proofs.WorkerInvariant
import Descriptors.Proofs.WorkerLifecycle
import Descriptors.Proofs.WorkerJobs
import Descriptors.Proofs.MonitorCalls
import Descriptors.Proofs.MonitorWait
import Descriptors.Proofs.TransferSchedules
import Descriptors.Proofs.SessionSteps
import Descriptors.Proofs.CapacityChecks
import Descriptors.Proofs.JobReports
import Descriptors.Proofs.DescriptorRelease
import Descriptors.Proofs.SocketPaths
import Descriptors.Proofs.BufferFill
import Descriptors.Proofs.WorkerRefinement

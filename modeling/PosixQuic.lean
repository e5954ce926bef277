import PosixQuic.Machine.Reachable
import PosixQuic.ToMathlib.ListScatter
import PosixQuic.Model.Basic
import PosixQuic.Model.StreamEntry
import PosixQuic.Soundness.StreamReads
import PosixQuic.Model.TaskRunner
import PosixQuic.Machine.CallStacks
import PosixQuic.Soundness.TaskCancel
import PosixQuic.Model.World
import PosixQuic.Model.Epoller
import PosixQuic.Model.Socket
import PosixQuic.Model.System
import PosixQuic.Machine.Outcome
import PosixQuic.Soundness.Directory
import PosixQuic.Soundness.CloseRule
import PosixQuic.Soundness.DirectorySteps
import PosixQuic.Machine.HandleTable
import PosixQuic.Machine.Queues
import PosixQuic.Soundness.DescriptorTable
import PosixQuic.Soundness.Routing
import PosixQuic.Soundness.Handshake
import PosixQuic.Soundness.Roles
import PosixQuic.Machine.RefCount
import PosixQuic.Soundness.Registry
import PosixQuic.Soundness.RegistryFrame
import PosixQuic.Soundness.UdpRefcount
import PosixQuic.Soundness.Registration
import PosixQuic.Soundness.CountedRuns
import PosixQuic.Soundness.Linkage
import PosixQuic.Soundness.LinkedRuns
import PosixQuic.Soundness.Departure
import PosixQuic.Soundness.Silence
import PosixQuic.Soundness.Following
import PosixQuic.Soundness.Deregistration
import PosixQuic.Soundness.TimerLinks
import PosixQuic.Soundness.OneEpoller
import PosixQuic.Model.Custody
import PosixQuic.Soundness.Backlog
import PosixQuic.Soundness.Orphans
import PosixQuic.Model.ConnectionVisitor
import PosixQuic.Soundness.AckTimeout
import PosixQuic.Model.SimpleStream
import PosixQuic.Soundness.SimpleOutput
import PosixQuic.Model.Notification
import PosixQuic.Soundness.Wakeup
import PosixQuic.Model.ReadWatch
import PosixQuic.Soundness.ReadFrame
import PosixQuic.Soundness.EdgeReads
import PosixQuic.Model.TaskProxy
import PosixQuic.Soundness.TaskCoupling
import PosixQuic.Soundness.TaskMoves
import PosixQuic.Soundness.TaskOnce
import PosixQuic.Model.SimpleConnection
import PosixQuic.Soundness.Tenure
import PosixQuic.Soundness.Isolation
import PosixQuic.Model.SocketLife
import PosixQuic.Soundness.StateMachine
import PosixQuic.Model.Reception
import PosixQuic.Soundness.AcceptOrder
import PosixQuic.Soundness.NewConnections
import PosixQuic.Model.EntryTimers
import PosixQuic.Soundness.HalfOpenTimers
import PosixQuic.Machine.Since
import PosixQuic.Model.PollTable
import PosixQuic.Soundness.PollHistory
import PosixQuic.Model.SharedEvent
import PosixQuic.Soundness.Readiness
import PosixQuic.Soundness.FailedAdd
import PosixQuic.Soundness.Rearm
import PosixQuic.Soundness.AckAlarm
import PosixQuic.Model.StreamOutput
import PosixQuic.Soundness.StreamWrites
import PosixQuic.Soundness.OutputDrain
import PosixQuic.Model.TaskLog
import PosixQuic.Soundness.TaskOrder
import PosixQuic.Soundness.RunOnce
import PosixQuic.Soundness.RunOnceEnds
import PosixQuic.Model.TimedWait
import PosixQuic.Soundness.WaitTimeout
import PosixQuic.Model.IOService
import PosixQuic.Soundness.ContextTable
import PosixQuic.Soundness.StreamOrder
import PosixQuic.Soundness.StreamSelectors
import PosixQuic.Machine.IntervalSet
import PosixQuic.Model.SequencerBuffer
import PosixQuic.Soundness.StreamCallbacks
import PosixQuic.Soundness.StreamSending
import PosixQuic.Soundness.EndToEnd

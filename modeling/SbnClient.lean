import SbnClient.Model.StandardPlatform
import SbnClient.Registry.Consequences
import SbnClient.Registry.Subscriptions
import SbnClient.Registry.DistinctSubscriptions
import SbnClient.Registry.UnknownPipes
import SbnClient.Registry.AcrossConnections
import SbnClient.Mailboxes.Refinement
import SbnClient.Mailboxes.Pending
import SbnClient.Mailboxes.Held
import SbnClient.Mailboxes.Depth
import SbnClient.Mailboxes.Isolation
import SbnClient.Mailboxes.Commuting
import SbnClient.Mailboxes.Bus
import SbnClient.Mailboxes.HandedOut
import SbnClient.Mailboxes.Delivered
import SbnClient.Mailboxes.EndToEnd
import SbnClient.Mailboxes.HeldBuffers
import SbnClient.Stream.Receiver
import SbnClient.Stream.Segmentation
import SbnClient.Stream.Minder
import SbnClient.Stream.FrameStatus
import SbnClient.Stream.Decoder
import SbnClient.Input.Publishing
import SbnClient.Threads.WakeUp
import SbnClient.Threads.FailedReceives
import SbnClient.Threads.Deadlines
import SbnClient.Threads.Atomicity
import SbnClient.Threads.Progress
import SbnClient.Threads.Discipline
import SbnClient.Output.Stream
import SbnClient.Output.RoundTrip
import SbnClient.Output.ShortWrites
import SbnClient.Output.SizeGate
import SbnClient.Output.Announcements
import SbnClient.Output.Writers
import SbnClient.Client.Retries
import SbnClient.Client.Liveness
import SbnClient.Client.Shutdown
import SbnClient.Client.Restart

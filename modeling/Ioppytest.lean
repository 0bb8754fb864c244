import Ioppytest.Lib.Raising
import Ioppytest.Lib.Transitions
import Ioppytest.Lib.Runs
import Ioppytest.Lib.CyclicSearch
import Ioppytest.Lib.OrderedDict
import Ioppytest.Lib.PyString
import Ioppytest.TestSuite.Progress
import Ioppytest.TestCoordinator.Coordinator
import Ioppytest.TestCoordinator.Reactions
import Ioppytest.TestCoordinator.Handling
import Ioppytest.TestCoordinator.Coherence
import Ioppytest.TestCoordinator.Moves
import Ioppytest.TestCoordinator.Nesting
import Ioppytest.TestCoordinator.Sessions
import Ioppytest.TestCoordinator.Endings
import Ioppytest.TestCoordinator.Sending
import Ioppytest.Properties.Coupling
import Ioppytest.Properties.StepEvents
import Ioppytest.Properties.Rest
import Ioppytest.Properties.UnknownTestcase
import Ioppytest.Properties.Survival
import Ioppytest.Properties.Sniffing
import Ioppytest.Properties.Completion
import Ioppytest.Properties.Announcements
import Ioppytest.Properties.PassReports
import Ioppytest.EventBus.Bus
import Ioppytest.Properties.Replies
import Ioppytest.Properties.Starts
import Ioppytest.TestSuite.Selection
import Ioppytest.TestCoordinator.Settings
import Ioppytest.Properties.NodeConfiguration
import Ioppytest.Properties.Selection
import Ioppytest.Properties.Addresses
import Ioppytest.Properties.PacketLoss
import Ioppytest.Properties.Lifecycle
import Ioppytest.Properties.Identity
import Ioppytest.Properties.Bystanders
import Ioppytest.PacketRouter.RoutingTable
import Ioppytest.Properties.Forwarding
import Ioppytest.Properties.Pending
import Ioppytest.Properties.FinalVerdict
import Ioppytest.Properties.Closing
import Ioppytest.Properties.Iteration
import Ioppytest.Properties.Reexecution
import Ioppytest.UiAdaptor.Answers
import Ioppytest.Properties.RejectedReplies
import Ioppytest.Properties.ChainedMessages
import Ioppytest.Lib.Base64
import Ioppytest.PacketSniffer.Service
import Ioppytest.Properties.SnifferReplies
import Ioppytest.Properties.LastCapture
import Ioppytest.Properties.UserAddressing
import Ioppytest.Properties.WaitingRoom
import Ioppytest.Properties.Joining
import Ioppytest.Lib.MutableLists
import Ioppytest.Lib.Nesting
import Ioppytest.TestSuite.Topology
import Ioppytest.Properties.PeerLookup
import Ioppytest.UiAdaptor.BoundedQueues
import Ioppytest.Properties.QueueBounds
import Ioppytest.Properties.RoleAssignment
import Ioppytest.EventBus.AutomatedSession
import Ioppytest.Lib.Inevitability
import Ioppytest.Properties.AutomatedSessions
import Ioppytest.Properties.Scripts
import Ioppytest.Lib.Framing
import Ioppytest.UiAdaptor.Desk
import Ioppytest.Properties.Dispatching
import Ioppytest.Properties.Rounds
import Ioppytest.TestCoordinator.Services
import Ioppytest.Properties.Status
import Ioppytest.TestCoordinator.Consultations
import Ioppytest.Properties.Captures
import Ioppytest.Lib.Paths
import Ioppytest.EventBus.SavedResults
import Ioppytest.Properties.SavedResults
import Ioppytest.Lib.Catalogue
import Ioppytest.TestSuite.Import
import Ioppytest.Properties.Import
import Ioppytest.Lib.Emission
import Ioppytest.UiAdaptor.Startup
import Ioppytest.Properties.Startup
import Ioppytest.Properties.Listening
import Ioppytest.UiAdaptor.Questions
import Ioppytest.EventBus.InteractiveSession
import Ioppytest.Properties.Questions
import Ioppytest.Properties.Prompts
import Ioppytest.Properties.InteractiveSessions

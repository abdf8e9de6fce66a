import BuzzWeb.Net.FrameOutcome
import BuzzWeb.Net.SignalingRelay
import BuzzWeb.Net.WritePipeline
import BuzzWeb.Net.EventLoop
import BuzzWeb.Net.Ghosts
import BuzzWeb.Net.FaultyDelivery
import BuzzWeb.Net.RoomSecrets
import BuzzWeb.Net.RosterReplay
import BuzzWeb.Net.RoomIsolation
import BuzzWeb.App.Interleaving
import BuzzWeb.App.ConcurrentMembership
import BuzzWeb.App.ConcurrentStore
import BuzzWeb.App.SoloCalls
import BuzzWeb.App.DisconnectSweep
import BuzzWeb.App.FaultPoints
import BuzzWeb.App.MessageGrammar
import BuzzWeb.Net.RoomCreation
import BuzzWeb.Net.DirectReply
import BuzzWeb.Net.PasswordRenaming
import BuzzWeb.Net.Draining
import BuzzWeb.App.Linearization
import BuzzWeb.App.TornCommit
import BuzzWeb.App.FaultyRooms
import BuzzWeb.Net.FaultyServer
import BuzzWeb.Net.Listener
import BuzzWeb.Net.SessionHandles
import BuzzWeb.Util.Config
import BuzzWeb.Client.IceQueue
import BuzzWeb.Client.RoomView

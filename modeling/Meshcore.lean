import Meshcore.Codec
import Meshcore.MeshSend
import Meshcore.FloodPath
import Meshcore.PoolConservation
import Meshcore.Duplicates
import Meshcore.RequestOutcome
import Meshcore.LateAnswers
import Meshcore.ReceiveBounds
import Meshcore.LostRequests
import Meshcore.NodeDiscover
import Meshcore.TraceRoute
import Meshcore.SnrTuples
import Meshcore.AckRelay
import Meshcore.AckBatches
import Meshcore.ChannelText
import Meshcore.Adverts
import Meshcore.QueueTables
import Meshcore.Deadlines
import Meshcore.SeenTable
import Meshcore.AckTable
import Meshcore.TraceGrowth
import Meshcore.SignedAdverts
import Meshcore.PathReturns
import Meshcore.Constructors
import Meshcore.PeerRoutes
import Meshcore.Transmission
import Meshcore.TxtData
import Meshcore.CayenneLppWriter
import Meshcore.ForwardPolicy
import Meshcore.Wakeups
import Meshcore.LoopTurns
import Meshcore.IdleTimer
import Meshcore.DutyCycle
import Meshcore.FloodNetwork
import Meshcore.Attested
import Meshcore.ZeroHop
import Meshcore.AdvertCodec
import Meshcore.Malformed
import Meshcore.Retransmit
import Meshcore.LearntRoute
import Meshcore.Datagrams
import Meshcore.BinaryRequests
import Meshcore.Addressed
import Meshcore.ResponseCarriers
import Meshcore.Responses
import Meshcore.BinaryResponses
import Meshcore.Telemetry
import Meshcore.PathDiscovery
import Meshcore.Texts
import Meshcore.TextAcks

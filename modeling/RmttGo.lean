import RmttGo.ByteReader
import RmttGo.LengthField
import RmttGo.ControlPackets
import RmttGo.PacketReader
import RmttGo.StreamRoundTrip
import RmttGo.EventRuns
import RmttGo.Channels
import RmttGo.ConnectionStatus
import RmttGo.StatusSystem
import RmttGo.StatusPhases
import RmttGo.ReconnectFlag
import RmttGo.StatusGuarantees
import RmttGo.RequestedDisconnect
import RmttGo.ClientSystem
import RmttGo.ClientCoherence
import RmttGo.ClientAgreement
import RmttGo.Transport
import RmttGo.PushPipeline
import RmttGo.DeviceConnection
import RmttGo.WireFraming
import RmttGo.ServerSystem
import RmttGo.Takeover
import RmttGo.SessionRegistry
import RmttGo.SessionSteps
import RmttGo.ServerRecords
import RmttGo.SingleSession
import RmttGo.FloatRounding
import RmttGo.KeepaliveLoops
import RmttGo.FixedKeepalive
import RmttGo.PushDelivery
import RmttGo.HandshakeGate
import RmttGo.LifecycleEvents
import RmttGo.Presence
import RmttGo.ExactParsing
import RmttGo.FrameAcceptance
import RmttGo.LengthLimits
import RmttGo.ServerClose
import RmttGo.StreamReaders
import RmttGo.ChunkingIndependence
import RmttGo.ClientHandshake
import RmttGo.KeepaliveNegotiation
import RmttGo.PeriodicSampling
import RmttGo.KeepaliveCadence
import RmttGo.AdaptiveKeepalive
import RmttGo.AdaptiveRange
import RmttGo.ServerAttempts
import RmttGo.FailOver
import RmttGo.AlreadyDisconnected
import RmttGo.ProbeVerdicts
import RmttGo.AdaptiveSearch
import RmttGo.AdaptiveRounds
import RmttGo.AdaptiveConvergence
import RmttGo.AdaptiveMaximum
import RmttGo.PacketErrors
import RmttGo.StoppingPoint
import RmttGo.ReadLoopProtocol
import RmttGo.ReadLoopSteps
import RmttGo.ServerReadLoop
import RmttGo.FifoChannel
import RmttGo.IncomingPipeline
import RmttGo.IncomingShutdown
import RmttGo.IncomingDelivery
import RmttGo.Reencoding
import RmttGo.CappedDoubling
import RmttGo.Backoff
import RmttGo.ReconnectLoop
import RmttGo.DismissedConnections
import RmttGo.LastWord
import RmttGo.CommsNetwork
import RmttGo.NetworkConsistency
import RmttGo.NetworkProgress
import RmttGo.Teardown
import RmttGo.FramedStreams
import RmttGo.PushLanes
import RmttGo.PushOrder
import RmttGo.PipelineStarts
import RmttGo.PushTokens
import RmttGo.ReceivedPushes
import RmttGo.PushReception
import RmttGo.PushAttribution
import RmttGo.DeviceReception
import RmttGo.Succession
import RmttGo.ConnectionRoles
import RmttGo.ConnectionLedger

import SecuritySocket.FixedWidth
import SecuritySocket.Transition
import SecuritySocket.Progress
import SecuritySocket.Framing
import SecuritySocket.SocketResult
import SecuritySocket.SocketEvent
import SecuritySocket.EventRegistry
import SecuritySocket.ActiveSocket
import SecuritySocket.TlsConfiguration
import SecuritySocket.TLSClientActiveSocket
import SecuritySocket.SocketClient
import SecuritySocket.SocketClientWrite
import SecuritySocket.SocketClientConnect
import SecuritySocket.SocketClientHandshake
import SecuritySocket.SocketClientProbe
import SecuritySocket.SocketClientPolicy
import SecuritySocket.ObjectPool
import SecuritySocket.SocketConnection
import SecuritySocket.ConnectionMoves
import SecuritySocket.ConnectionBuffers
import SecuritySocket.ConnectionFraming
import SecuritySocket.Kernel
import SecuritySocket.SocketRequestServer
import SecuritySocket.RequestServerMoves
import SecuritySocket.RequestServerInvariant
import SecuritySocket.RequestServerFraming
import SecuritySocket.RequestServerEndOfStream
import SecuritySocket.HandlerView
import SecuritySocket.SocketBroadcastServer
import SecuritySocket.BroadcastMoves
import SecuritySocket.Custody
import SecuritySocket.CustodyLedger
import SecuritySocket.BroadcastCustody
import SecuritySocket.BroadcastRegistry
import SecuritySocket.BroadcastAgreement
import SecuritySocket.SocketBroadcastWrite
import SecuritySocket.BroadcastWrite
import SecuritySocket.BroadcastSystem
import SecuritySocket.BroadcastLifetime
import SecuritySocket.BroadcastEndOfStream
import SecuritySocket.BroadcastCallbacks
import SecuritySocket.RequestServerAdmission
import SecuritySocket.RequestServerDispatch
import SecuritySocket.RequestServerInterest
import SecuritySocket.PassiveSocket
import SecuritySocket.SocketBroadcastOpen
import SecuritySocket.SocketRequestServerOpen
import SecuritySocket.BroadcastDelivery
import SecuritySocket.MessageStreams
import SecuritySocket.BroadcastStreams
import SecuritySocket.SocketBroadcastAwait
import SecuritySocket.BroadcastAwait
import SecuritySocket.LockOrder
import SecuritySocket.SocketBroadcastThreads
import SecuritySocket.ReceiveQueue
import SecuritySocket.SocketClientRead
import SecuritySocket.SocketClientHeld
import SecuritySocket.SocketClientThread
import SecuritySocket.RequestServerQueues
import SecuritySocket.ServerFlags
import SecuritySocket.HandleLedger
import SecuritySocket.SocketClientLifetime
import SecuritySocket.SocketEventWindows
import SecuritySocket.BroadcastPrefix
import SecuritySocket.SocketClientStream
import SecuritySocket.SocketClientRetries
import SecuritySocket.CStrings
import SecuritySocket.SocketAddress
import SecuritySocket.ConfiguredNames
import SecuritySocket.SocketClientConnected
import SecuritySocket.TransferLengths
import SecuritySocket.Fifo
import SecuritySocket.ObjectPoolMemory
import SecuritySocket.SocketConnectionWorker
import SecuritySocket.RequestServerTraffic
import SecuritySocket.SocketClientOutput
import SecuritySocket.SocketClientReturns
import SecuritySocket.RequestSystem
import SecuritySocket.RequestServerProgress
import SecuritySocket.ReadChannels
import SecuritySocket.BroadcastSubscribers
import SecuritySocket.BroadcastMixing
import SecuritySocket.ConnectionWorkerProgress
import SecuritySocket.BroadcastWakeups
import SecuritySocket.BroadcastProgress
import SecuritySocket.RequestServerCallbacks
import SecuritySocket.CipherLists
import SecuritySocket.EventRegistrations

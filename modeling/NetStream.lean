import NetStream.Library.TransitionSystem
import NetStream.Library.HashMap
import NetStream.Library.ReverseIndex
import NetStream.Library.Channel
import NetStream.Library.EventLog
import NetStream.MessageTypes
import NetStream.Actors
import NetStream.Actors.ReadActor
import NetStream.Actors.WriteActor
import NetStream.Server.Event
import NetStream.Server.State
import NetStream.Server.Actor
import NetStream.Server.System
import NetStream.Server.Registry
import NetStream.Server.Refinement
import NetStream.Server.Lifecycle
import NetStream.Server.NameIndex
import NetStream.Server.TcpWindow
import NetStream.Server.AddressIndex
import NetStream.Server.SanityCheck
import NetStream.Server.Announce
import NetStream.Server.TcpDelivery
import NetStream.Server.Provenance
import NetStream.Library.SharedChannel
import NetStream.Client.Actor
import NetStream.Client.System
import NetStream.Server.Datagrams
import NetStream.Server.Handshake
import NetStream.Network.System
import NetStream.Network.Handshake
import NetStream.Server.Connections
import NetStream.Server.Panics
import NetStream.Server.StoppedActors
import NetStream.Server.DeadConnections
import NetStream.Server.Isolation
import NetStream.Server.Shutdown
import NetStream.Client.Backpressure
import NetStream.Client.Readiness
import NetStream.Network.Readiness
import NetStream.Server.Wraparound
import NetStream.Server.HandshakeIndex
import NetStream.Network.Wraparound
import NetStream.Server.ReadPipeline
import NetStream.Networking
import NetStream.Server.DisconnectReasons
import NetStream.Server.Transport
import NetStream.Client.TcpForwarding
import NetStream.Network.Link
import NetStream.Network.Delivery
import NetStream.Actors.ReadLoop
import NetStream.Actors.WriteLoop
import NetStream.Client.Status
import NetStream.Server.AnnounceTcp
import NetStream.Server.PeerDrop
import NetStream.Network.UdpReceive
import NetStream.Server.Commands
import NetStream.Server.ActorHandle
import NetStream.TcpChat.Server
import NetStream.TcpChat.System
import NetStream.TcpChat.Room
import NetStream.TcpChat.Audience
import NetStream.Client.Narration
import NetStream.Network.Downlink
import NetStream.Network.Addresses
import NetStream.Client.UdpForwarding
import NetStream.Library.DatagramLink
import NetStream.Network.Uplink
import NetStream.Server.UdpOutput
import NetStream.Client.Heartbeats
import NetStream.Network.UdpDownlink
import NetStream.Network.TcpUplink
import NetStream.TcpChat.Conversation
import NetStream.TcpChat.Chat

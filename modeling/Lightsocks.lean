import Lightsocks.Lib.Machine
import Lightsocks.Lib.Lane
import Lightsocks.Lib.Bits
import Lightsocks.Lib.CInt
import Lightsocks.Lib.CText
import Lightsocks.Lib.Ledger
import Lightsocks.Lib.Returns
import Lightsocks.Lib.Framing
import Lightsocks.Lib.Ring
import Lightsocks.Lib.Resume
import Lightsocks.Lib.Intrusive
import Lightsocks.Lib.Avl
import Lightsocks.Lib.Heap
import Lightsocks.Lib.Keyed
import Lightsocks.Cipher.Base64
import Lightsocks.Cipher.RoundTrip
import Lightsocks.Cipher.BitStream
import Lightsocks.Cipher.Encryptor
import Lightsocks.Relay.Filter
import Lightsocks.Relay.Signedness
import Lightsocks.Relay.InetPton
import Lightsocks.Relay.Model
import Lightsocks.Relay.Session
import Lightsocks.Relay.Simulation
import Lightsocks.Relay.Invariant
import Lightsocks.Relay.Stream
import Lightsocks.Relay.Teardown
import Lightsocks.Relay.Close
import Lightsocks.Proxy.Lifecycle
import Lightsocks.Proxy.Stop
import Lightsocks.Tunnel.Lwip
import Lightsocks.Tunnel.Engine
import Lightsocks.Tunnel.Intercept
import Lightsocks.Tunnel.Stop
import Lightsocks.Tunnel.Addr
import Lightsocks.Tunnel.Packet
import Lightsocks.Tunnel.Mtu
import Lightsocks.Tunnel.Clients
import Lightsocks.Tunnel.Ownership
import Lightsocks.Tunnel.Transfer
import Lightsocks.Tunnel.Exits
import Lightsocks.Tunnel.Process
import Lightsocks.Tunnel.Balance
import Lightsocks.Tunnel.Streams
import Lightsocks.Tunnel.Buffers
import Lightsocks.Tunnel.Passing
import Lightsocks.Tunnel.StreamRuns
import Lightsocks.Flow.PacketProto
import Lightsocks.Flow.ChunkBuffer
import Lightsocks.Flow.PacketBuffer
import Lightsocks.Flow.PacketProtoFlow
import Lightsocks.Flow.Connector
import Lightsocks.Flow.FairQueue
import Lightsocks.Flow.FairHandlers
import Lightsocks.Flow.FairShare
import Lightsocks.Udpgw.Wire
import Lightsocks.Udpgw.Client
import Lightsocks.Udpgw.Binding
import Lightsocks.Udpgw.Server
import Lightsocks.Udpgw.Tables
import Lightsocks.Udpgw.Sockets
import Lightsocks.Udpgw.Serve
import Lightsocks.Udpgw.ServerRuns
import Lightsocks.Udpgw.Gateway
import Lightsocks.Udpgw.Agreement
import Lightsocks.Udpgw.Exclusive
import Lightsocks.Tunnel.Replies
import Lightsocks.Socks.Client
import Lightsocks.Socks.Handshake
import Lightsocks.Socks.Dialogs
import Lightsocks.App.Jni
import Lightsocks.App.Service
import Lightsocks.App.Engines
import Lightsocks.App.Survivor
import Lightsocks.App.Activity
import Lightsocks.App.Reentry
import Lightsocks.App.Buttons
import Lightsocks.App.Form
import Lightsocks.App.Secret
import Lightsocks.App.Dial
import Lightsocks.App.UdpgwPort

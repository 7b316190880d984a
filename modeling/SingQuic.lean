import SingQuic.Lib.Transition
import SingQuic.Lib.Wire
import SingQuic.Lib.Scan
import SingQuic.Lib.Chunks
import SingQuic.Lib.Slots
import SingQuic.Lib.Table
import SingQuic.Lib.Utf8
import SingQuic.Lib.Saturating
import SingQuic.Lib.Shared
import SingQuic.Lib.WeakTable
import SingQuic.Lib.SingleFlight
import SingQuic.Lib.Bits
import SingQuic.Lib.PrefixCode
import SingQuic.Error
import SingQuic.Congestion
import SingQuic.Transport
import SingQuic.SwitchableController
import SingQuic.Net.IpText
import SingQuic.Net.Digits
import SingQuic.Net.Ipv4Text
import SingQuic.Net.Ipv6Text
import SingQuic.Net.Ipv6Display
import SingQuic.Net.SocketText
import SingQuic.Address
import SingQuic.AddressText
import SingQuic.HeaderMap
import SingQuic.Varint
import SingQuic.Hysteria2.Packet
import SingQuic.Hysteria2.Frames
import SingQuic.Hysteria2.UdpGrammar
import SingQuic.VarintMachine
import SingQuic.Hysteria2.Defragger
import SingQuic.Hysteria2.Reassembly
import SingQuic.Hysteria2.PayloadLimit
import SingQuic.Hysteria2.Attribution
import SingQuic.Hysteria2.Provenance
import SingQuic.Hysteria2.PacketIds
import SingQuic.Hysteria2.Protocol
import SingQuic.Hysteria2.TcpGrammar
import SingQuic.Hysteria2.Client
import SingQuic.Hysteria2.Connecting
import SingQuic.Hysteria2.Server
import SingQuic.Hysteria2.ServerRules
import SingQuic.Hysteria2.Gate
import SingQuic.Hysteria2.Login
import SingQuic.Hysteria2.Masquerade
import SingQuic.Hysteria2.SessionRules
import SingQuic.Hysteria2.Sessions
import SingQuic.Hysteria2.SessionRouting
import SingQuic.Hysteria2.Forwarding
import SingQuic.Hysteria2.SessionTable
import SingQuic.ShadowQuic.Wire
import SingQuic.ShadowQuic.Registry
import SingQuic.ShadowQuic.Send
import SingQuic.ShadowQuic.SendRules
import SingQuic.ShadowQuic.SendInvariant
import SingQuic.ShadowQuic.SendHistory
import SingQuic.ShadowQuic.Cancel
import SingQuic.ShadowQuic.Intact
import SingQuic.ShadowQuic.IntactSteps
import SingQuic.ShadowQuic.Ids
import SingQuic.ShadowQuic.AddressCodec
import SingQuic.ShadowQuic.Receive
import SingQuic.ShadowQuic.ReceiveRules
import SingQuic.ShadowQuic.Teardown
import SingQuic.ShadowQuic.ReceiveLoop
import SingQuic.ShadowQuic.Independence
import SingQuic.ShadowQuic.Link
import SingQuic.ShadowQuic.Arrivals
import SingQuic.ShadowQuic.SelfDelimiting
import SingQuic.ShadowQuic.Cancellation
import SingQuic.ShadowQuic.LinkSound
import SingQuic.ShadowQuic.Delivery
import SingQuic.ShadowQuic.LinkProgress
import SingQuic.ShadowQuic.Client
import SingQuic.ShadowQuic.Replies
import SingQuic.ShadowQuic.Server
import SingQuic.ShadowQuic.Credentials
import SingQuic.ShadowQuic.Config
import SingQuic.ShadowQuic.AuthGate
import SingQuic.ShadowQuic.Tunnel
import SingQuic.ShadowQuic.Connecting
import SingQuic.Qpack.PrefixInt
import SingQuic.Qpack.HuffmanTable
import SingQuic.Qpack.HuffmanEncoder
import SingQuic.Qpack.HuffmanDecoder
import SingQuic.Qpack.PrefixString
import SingQuic.Qpack.StaticTable
import SingQuic.Qpack.Block
import SingQuic.Qpack.Stateless
import SingQuic.Lib.Framing
import SingQuic.H3.Settings
import SingQuic.H3.Headers
import SingQuic.H3.Frame
import SingQuic.H3.FrameStream

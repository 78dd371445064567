import CutieProxy.Lib.Transition
import CutieProxy.Lib.Store
import CutieProxy.Lib.Cyclic
import CutieProxy.Lib.Table
import CutieProxy.Lib.SharedMutex
import CutieProxy.Lib.Ledger
import CutieProxy.Lib.Traced
import CutieProxy.Lib.Decimal
import CutieProxy.Net.Inet
import CutieProxy.Net.Packet
import CutieProxy.Net.FrameBytes
import CutieProxy.Ndisapi.QueuedPacketFilter
import CutieProxy.Ndisapi.PacketPipeline
import CutieProxy.Ndisapi.FilterStop
import CutieProxy.Ndisapi.TcpLocalRedirect
import CutieProxy.Ndisapi.Socks5UdpLocalRedirect
import CutieProxy.Ndisapi.TcpTranslation
import CutieProxy.Ndisapi.ConnectionIsolation
import CutieProxy.Ndisapi.UdpTranslation
import CutieProxy.Ndisapi.UdpAccesses
import CutieProxy.Iphelper.NetworkAdapterInfo
import CutieProxy.Iphelper.LookupThreads
import CutieProxy.Iphelper.ProcessLookup
import CutieProxy.Winsys.IoCompletionPort
import CutieProxy.Proxy.TcpProxySocket
import CutieProxy.Proxy.TcpProxyServer
import CutieProxy.Proxy.RelayCorrect
import CutieProxy.Proxy.RelayDrain
import CutieProxy.Proxy.RelayRemoval
import CutieProxy.Proxy.Socks5Common
import CutieProxy.Proxy.Socks5Auth
import CutieProxy.Proxy.Socks5TcpProxySocket
import CutieProxy.Proxy.Socks5Dialogue
import CutieProxy.Proxy.Socks5Correct
import CutieProxy.Proxy.Socks5Split
import CutieProxy.Proxy.Socks5Associate
import CutieProxy.Proxy.SocksLocalRouter
import CutieProxy.Proxy.RouterReplies
import CutieProxy.Proxy.RedirectedConnection
import CutieProxy.Proxy.LaterFragments
import CutieProxy.Proxy.TcpHandOver
import CutieProxy.Proxy.PacketPool
import CutieProxy.Proxy.Socks5LocalUdpProxyServer
import CutieProxy.Proxy.UdpDispatch
import CutieProxy.Proxy.UdpRelease
import CutieProxy.Proxy.UdpHandOver
import CutieProxy.Proxy.FilterRestart
import CutieProxy.Proxy.RouterControl
import CutieProxy.Proxy.FilterViews
import CutieProxy.Proxy.StopIsFinal
import CutieProxy.Proxy.RestartOnChange
import CutieProxy.Proxy.CallbackLifetime
import CutieProxy.Proxy.TcpProxyThreads
import CutieProxy.Proxy.SocketCustody
import CutieProxy.Proxy.ConnectSnapshot
import CutieProxy.Ndisapi.FilterStart
import CutieProxy.Ndisapi.StaticFilters
import CutieProxy.Ndisapi.FilterRoundTrip
import CutieProxy.Core.NameFilter
import CutieProxy.Proxy.ParseEndpoint
import CutieProxy.Core.QProxyItem
import CutieProxy.Core.FiltersDialog
import CutieProxy.Core.ProxyImport
import CutieProxy.Proxy.ServerStart
import CutieProxy.Proxy.ProxiedConnections
import CutieProxy.Proxy.ProxyPorts
import CutieProxy.Proxy.ProxyRegistration
import CutieProxy.Proxy.StaticBypass
import CutieProxy.Proxy.UdpRemoteHost
import CutieProxy.Proxy.HandleWait
import CutieProxy.Proxy.ActiveFlag
import CutieProxy.Lib.Backtrack
import CutieProxy.Lib.Bits
import CutieProxy.Lib.Memory
import CutieProxy.Lib.HashKey
import CutieProxy.Lib.Loop
import CutieProxy.Lib.OnesComplement
import CutieProxy.Net.Ipv6Recalculate
import CutieProxy.Net.IpSubnet
import CutieProxy.Net.IpEndpoint
import CutieProxy.Lib.GrowingBuffer
import CutieProxy.Iphelper.OwnerTables
import CutieProxy.Lib.SnapshotCache
import CutieProxy.Proxy.OwnerSnapshots
import CutieProxy.Core.Dialogs
import CutieProxy.Core.CpWindow
import CutieProxy.Ndisapi.FilterTable
import CutieProxy.Lib.Records
import CutieProxy.Pcap.PcapFileStorage
import CutieProxy.Proxy.UdpRelayBytes
import CutieProxy.Proxy.UdpTunnel
import CutieProxy.Lib.Variant
import CutieProxy.Winsys.ThreadPool
import CutieProxy.Proxy.FilteredAdapter
import CutieProxy.Proxy.RelaySafe
import CutieProxy.Proxy.TcpTunnel
import CutieProxy.Iphelper.AdapterList
import CutieProxy.Proxy.DefaultAdapter

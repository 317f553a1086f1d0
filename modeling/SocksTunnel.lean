import SocksTunnel.Main
import SocksTunnel.Proofs.Binary64
import SocksTunnel.Proofs.Text
import SocksTunnel.Proofs.HostPort
import SocksTunnel.Proofs.HostPort.Grammar
import SocksTunnel.Proofs.HostPort.Rejection
import SocksTunnel.Proofs.Ip.V4
import SocksTunnel.Proofs.Ip.V6
import SocksTunnel.Proofs.Ip.Canonical
import SocksTunnel.Proofs.Target
import SocksTunnel.Proofs.Target.Text
import SocksTunnel.Proofs.Traffic.Window
import SocksTunnel.Proofs.Socket
import SocksTunnel.Proofs.Socks.Frame
import SocksTunnel.Proofs.Socks.Verdict
import SocksTunnel.Proofs.Socks.Replies
import SocksTunnel.Proofs.Socks.Script
import SocksTunnel.Proofs.Socks.Acts
import SocksTunnel.Proofs.Socks.Connect
import SocksTunnel.Proofs.Socks.Rewording
import SocksTunnel.Proofs.Socks.Transcript
import SocksTunnel.Proofs.Relay.Pump
import SocksTunnel.Proofs.Relay.Transparent
import SocksTunnel.Proofs.Relay.Lane
import SocksTunnel.Proofs.Relay.SetUp
import SocksTunnel.Proofs.Relay.Interleaving
import SocksTunnel.Proofs.Relay.Delivery
import SocksTunnel.Proofs.Relay.Faults
import SocksTunnel.Proofs.Relay.OneWay
import SocksTunnel.Proofs.Server.Loop
import SocksTunnel.Proofs.Server.Isolation
import SocksTunnel.Proofs.Server.Floor
import SocksTunnel.Proofs.Server.Conservation
import SocksTunnel.Proofs.Server.Attribution
import SocksTunnel.Proofs.Server.Listening
import SocksTunnel.Proofs.Server.Secrecy
import SocksTunnel.Proofs.Ip.Spelling
import SocksTunnel.Proofs.Target.Classification
import SocksTunnel.Proofs.Socks.Bound
import SocksTunnel.Proofs.Server.Unreachable
import SocksTunnel.Proofs.Relay.Clean
import SocksTunnel.Proofs.Server.Success
import SocksTunnel.Proofs.Binary64.Rounding
import SocksTunnel.Proofs.Size
import SocksTunnel.Proofs.Text.OneLine
import SocksTunnel.Proofs.Socks.LineBreaks
import SocksTunnel.Proofs.Server.Anonymous
import SocksTunnel.Proofs.CommandLine.StartUp
import SocksTunnel.Proofs.Traffic.Bandwidth
import SocksTunnel.Proofs.Traffic.Runs
import SocksTunnel.Proofs.Dashboard
import SocksTunnel.Proofs.Dashboard.Monitor

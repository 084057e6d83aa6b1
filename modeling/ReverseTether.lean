import ReverseTether.AcceptLoop
import ReverseTether.AppForwarding
import ReverseTether.Borrows
import ReverseTether.ClientOutput
import ReverseTether.ClientWindow
import ReverseTether.DatagramFraming
import ReverseTether.DatagramLimits
import ReverseTether.Devices
import ReverseTether.Dns
import ReverseTether.DownloadFin
import ReverseTether.EarlierPackets
import ReverseTether.Expiry
import ReverseTether.IdHandshake
import ReverseTether.Ipv4PacketBuffer
import ReverseTether.Ipv6Stream
import ReverseTether.OutgoingPackets
import ReverseTether.PacketParts
import ReverseTether.PrivacyGate
import ReverseTether.ProbeReplies
import ReverseTether.ReadableWindow
import ReverseTether.Resets
import ReverseTether.Restart
import ReverseTether.RuleOwnership
import ReverseTether.SequenceTwins
import ReverseTether.SharedChecksum
import ReverseTether.SpuriousEvents
import ReverseTether.StreamQueue
import ReverseTether.TcpChecksum
import ReverseTether.Tokens
import ReverseTether.TunnelBudget
import ReverseTether.UploadFin
import ReverseTether.UploadWindow
import ReverseTether.VpnFencing
import ReverseTether.WritableInterest

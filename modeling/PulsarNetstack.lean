import PulsarNetstack.AclCounters
import PulsarNetstack.DatagramReceive
import PulsarNetstack.PrefixShifts
import PulsarNetstack.AdminMailbox
import PulsarNetstack.EmittedSegments
import PulsarNetstack.RateLimiter
import PulsarNetstack.IcmpErrors
import PulsarNetstack.ResolvableEgress
import PulsarNetstack.OwnDestinations
import PulsarNetstack.ZeroWindow
import PulsarNetstack.RetransmitSize
import PulsarNetstack.ReceiveWindow
import PulsarNetstack.TcpOptions
import PulsarNetstack.EphemeralPorts
import PulsarNetstack.DaemonQueue
import PulsarNetstack.ArpLearning
import PulsarNetstack.DisconnectCleanup
import PulsarNetstack.RuleSets
import PulsarNetstack.AdminParse

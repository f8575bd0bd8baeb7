import UdpipBroadcaster.Main
import UdpipBroadcaster.Startup
import UdpipBroadcaster.SourceClassification
import UdpipBroadcaster.ReceiveHistory
import UdpipBroadcaster.OptionProcessing
import UdpipBroadcaster.WatcherInvariant
import UdpipBroadcaster.Relay
import UdpipBroadcaster.RelayRefinement
import UdpipBroadcaster.RelayFidelity
import UdpipBroadcaster.ForwardingDestination
import UdpipBroadcaster.OversizeDatagrams
import UdpipBroadcaster.FailedOperations
import UdpipBroadcaster.Library.Transitions
import UdpipBroadcaster.Network
import UdpipBroadcaster.Ancestry
import UdpipBroadcaster.SelfEcho
import UdpipBroadcaster.Library.Chains
import UdpipBroadcaster.ForwardingCycles
import UdpipBroadcaster.BroadcastIntegrity
import UdpipBroadcaster.PortNumbers
import UdpipBroadcaster.InterfaceNames
import UdpipBroadcaster.HexDump
import UdpipBroadcaster.InterfaceLookup
import UdpipBroadcaster.PacketInformation
import UdpipBroadcaster.Library.Interleavings
import UdpipBroadcaster.RelayRuns
import UdpipBroadcaster.Library.Frames
import UdpipBroadcaster.Resources
import UdpipBroadcaster.Traffic
import UdpipBroadcaster.Delivery
import UdpipBroadcaster.Library.Faults
import UdpipBroadcaster.StartupFailures
import UdpipBroadcaster.Library.Getopt
import UdpipBroadcaster.Library.PrintedTexts
import UdpipBroadcaster.CommandLine
import UdpipBroadcaster.Library.Outputs
import UdpipBroadcaster.Console
import UdpipBroadcaster.ConsoleLog
import UdpipBroadcaster.TransmissionTest
import UdpipBroadcaster.Library.PrintedRecords
import UdpipBroadcaster.NecHeaders
import UdpipBroadcaster.Listener
import UdpipBroadcaster.ConfigurationText
import UdpipBroadcaster.StartupText
import UdpipBroadcaster.ProcessOutput

import MarlinspikeDpi.Ads.Streams
import MarlinspikeDpi.Bilgepump.Aging
import MarlinspikeDpi.Bilgepump.ArpRuns
import MarlinspikeDpi.Bilgepump.Reachability
import MarlinspikeDpi.Capture.Pcap
import MarlinspikeDpi.Capture.Pcapng
import MarlinspikeDpi.Coap.Options
import MarlinspikeDpi.Diameter.Avps
import MarlinspikeDpi.Diameter.Pairing
import MarlinspikeDpi.Dnp3.Frames
import MarlinspikeDpi.Dnp3.Objects
import MarlinspikeDpi.Engine.Checkpoints
import MarlinspikeDpi.Engine.FlowAnswers
import MarlinspikeDpi.Engine.Isolation
import MarlinspikeDpi.Engine.Payload
import MarlinspikeDpi.EthernetIp.Conversations
import MarlinspikeDpi.Iec104.Frames
import MarlinspikeDpi.Iec61850.Cotp
import MarlinspikeDpi.Iec61850.Goose
import MarlinspikeDpi.Iec61850.Mms
import MarlinspikeDpi.Iec61850.SampledValues
import MarlinspikeDpi.Igmp.Membership
import MarlinspikeDpi.Ike.Chains
import MarlinspikeDpi.Kerberos.Assets
import MarlinspikeDpi.Ldap.Walk
import MarlinspikeDpi.Modbus.Conservation
import MarlinspikeDpi.Modbus.Registers
import MarlinspikeDpi.Modbus.Session
import MarlinspikeDpi.Modbus.Udp
import MarlinspikeDpi.Mqtt.AliasState
import MarlinspikeDpi.Mqtt.Provenance
import MarlinspikeDpi.Mqtt.Topics
import MarlinspikeDpi.NetFlow.DataSets
import MarlinspikeDpi.NetFlow.Templates
import MarlinspikeDpi.OpcUa.Correlation
import MarlinspikeDpi.OpcUa.Isolation
import MarlinspikeDpi.Output.Influx
import MarlinspikeDpi.Output.Zeek
import MarlinspikeDpi.Registry.Dispatch
import MarlinspikeDpi.RocPlus.Pairing
import MarlinspikeDpi.ServerAssets
import MarlinspikeDpi.Smb2.Negotiate
import MarlinspikeDpi.Smb2.Pending
import MarlinspikeDpi.Smtp.Starttls
import MarlinspikeDpi.Stovetop.Padding
import MarlinspikeDpi.Synchrophasor.DataFrames
import MarlinspikeDpi.Synchrophasor.Layout
import MarlinspikeDpi.Umas.Pairing
import MarlinspikeDpi.WinRm.Sessions

import AqaraLanLink.Library.Outcome
import AqaraLanLink.Library.BinaryPolynomial
import AqaraLanLink.Library.OctetProduct
import AqaraLanLink.Library.IrreducibilityTest
import AqaraLanLink.Library.CyclicRedundancy
import AqaraLanLink.Library.ReflectedRegister
import AqaraLanLink.Library.BinaryCurve
import AqaraLanLink.Library.CofactorTwo
import AqaraLanLink.Library.RootCertificate
import AqaraLanLink.Port.Ecc
import AqaraLanLink.Port.Ecc.Field
import AqaraLanLink.Port.Ecc.Curve
import AqaraLanLink.Port.Ecc.Multiply
import AqaraLanLink.Port.Ecc.Order
import AqaraLanLink.Port.Ecc.KeyAgreement
import AqaraLanLink.Port.Ecc.Scalars
import AqaraLanLink.Library.Runs
import AqaraLanLink.Json
import AqaraLanLink.Port.Crypto
import AqaraLanLink.Ciphers
import AqaraLanLink.Port.DeviceKey
import AqaraLanLink.Port.Tunnel
import AqaraLanLink.Port.Device
import AqaraLanLink.Port.Platform
import AqaraLanLink.Library.Fallible
import AqaraLanLink.Library.Ledger
import AqaraLanLink.Hub
import AqaraLanLink.Port.Resilience
import AqaraLanLink.Port.Correlation
import AqaraLanLink.Reference.Protocol
import AqaraLanLink.Reference.Device
import AqaraLanLink.Reference.Session
import AqaraLanLink.Reference.Correlation
import AqaraLanLink.Comparison.Requests
import AqaraLanLink.Comparison.Reports
import AqaraLanLink.Port.Lifecycle
import AqaraLanLink.Reference.Delivery
import AqaraLanLink.Reference.Reseeding
import AqaraLanLink.Reference.Lifecycle
import AqaraLanLink.Reference.Resubscription
import AqaraLanLink.Reference.Watchdog
import AqaraLanLink.Reference.BinarySensor
import AqaraLanLink.Reference.Rearm
import AqaraLanLink.Comparison.Refusals
import AqaraLanLink.Port.LastWord
import AqaraLanLink.Library.Overlay
import AqaraLanLink.Port.MatterTwin
import AqaraLanLink.Port.Echo
import AqaraLanLink.Port.Convergence
import AqaraLanLink.Port.HomeKit
import AqaraLanLink.Port.Controllers
import AqaraLanLink.Library.Framing
import AqaraLanLink.Library.Scanner
import AqaraLanLink.Library.AsciiCase
import AqaraLanLink.Library.Regex
import AqaraLanLink.Port.Reassembly
import AqaraLanLink.Port.Corruption
import AqaraLanLink.Port.Buffering
import AqaraLanLink.Port.Presses
import AqaraLanLink.Port.Publication
import AqaraLanLink.Library.Dictionary
import AqaraLanLink.Reference.Composite
import AqaraLanLink.Reference.Crypto
import AqaraLanLink.Reference.Handshake
import AqaraLanLink.Port.Handshake
import AqaraLanLink.Comparison.Handshake
import AqaraLanLink.Comparison.Frames
import AqaraLanLink.Comparison.DeviceKey
import AqaraLanLink.Reference.Ptz
import AqaraLanLink.Reference.Catalogue
import AqaraLanLink.Reference.Overlay
import AqaraLanLink.Reference.ExportOverlay
import AqaraLanLink.Reference.Composers
import AqaraLanLink.Reference.DeviceTypes
import AqaraLanLink.Reference.Classify
import AqaraLanLink.Reference.Naming
import AqaraLanLink.Reference.Registry
import AqaraLanLink.Reference.GapReport
import AqaraLanLink.Reference.Humanize
import AqaraLanLink.Reference.WirePaths
import AqaraLanLink.Reference.Routing
import AqaraLanLink.Reference.BuildDevice
import AqaraLanLink.Reference.ObservedPaths
import AqaraLanLink.Library.Utf8
import AqaraLanLink.Library.Trails
import AqaraLanLink.Port.Discovery
import AqaraLanLink.Port.Names
import AqaraLanLink.Port.Packets
import AqaraLanLink.Port.DnsRecords
import AqaraLanLink.Library.IpAddress
import AqaraLanLink.Library.PercentEncoding
import AqaraLanLink.Library.Url
import AqaraLanLink.Reference.HostValidation
import AqaraLanLink.Reference.CameraStreams
import AqaraLanLink.Reference.CameraSources
import AqaraLanLink.Reference.Mdns
import AqaraLanLink.Comparison.HubChoice
import AqaraLanLink.Library.Rtp
import AqaraLanLink.Library.Rounding
import AqaraLanLink.Library.JsonText
import AqaraLanLink.Library.JsonRoundTrip
import AqaraLanLink.Library.JsonDepth
import AqaraLanLink.Library.PythonSource
import AqaraLanLink.Library.Endian
import AqaraLanLink.Library.ChainedCipher
import AqaraLanLink.Reference.PtzWire
import AqaraLanLink.Reference.PtzDatagrams
import AqaraLanLink.Reference.TalkPackets
import AqaraLanLink.Reference.TalkFrames
import AqaraLanLink.Reference.Talk
import AqaraLanLink.Reference.VoiceStream
import AqaraLanLink.Reference.ReportBuffer
import AqaraLanLink.Reference.Clock
import AqaraLanLink.Reference.Codecs
import AqaraLanLink.Reference.Light
import AqaraLanLink.Reference.Enumerations
import AqaraLanLink.Port.Cloud
import AqaraLanLink.Reference.Cloud
import AqaraLanLink.Reference.Ecc
import AqaraLanLink.Comparison.KeyExchange
import AqaraLanLink.Comparison.Sessions
import AqaraLanLink.Comparison.Logins

import ClearCam.Adaptive.StreamingMode
import ClearCam.Adaptive.Cooldown
import ClearCam.Session.Handshake
import ClearCam.Session.HandshakeAgreement
import ClearCam.Library.Transition
import ClearCam.Library.Duplex
import ClearCam.Transport.Framing
import ClearCam.Session.ControlPlane
import ClearCam.Session.SelectLoop
import ClearCam.Media.Pipeline
import ClearCam.Ios.MediaHeader
import ClearCam.Pairing.Agreement
import ClearCam.App.System
import ClearCam.App.Slots
import ClearCam.App.EventOrder
import ClearCam.Library.Incremental
import ClearCam.Transport.Unframe
import ClearCam.Ios.ControlFraming
import ClearCam.Session.MediaHello
import ClearCam.Library.Json
import ClearCam.Protocol.Json
import ClearCam.Ios.Catalogue
import ClearCam.Ios.ControlEnvelope
import ClearCam.Ios.Pump
import ClearCam.Session.UnknownTypes
import ClearCam.App.Attempts
import ClearCam.App.Succession
import ClearCam.Session.Events
import ClearCam.Session.WireTrace
import ClearCam.App.Mirror
import ClearCam.App.MediaLifetime
import ClearCam.App.UsbBinding
import ClearCam.Ios.Listener
import ClearCam.Pairing.Disk
import ClearCam.Pairing.TrustRequests
import ClearCam.App.UsbSupervisor
import ClearCam.App.UsbShutdown
import ClearCam.Adaptive.SelectMode
import ClearCam.Library.Presence
import ClearCam.Session.DeviceFold
import ClearCam.Transport.UsbPolling
import ClearCam.Transport.UsbListener
import ClearCam.Ios.RawEncoder
import ClearCam.Ios.CapturedFrames
import ClearCam.Ios.SessionController
import ClearCam.Ios.CaptureEngine
import ClearCam.Ios.TransportClient
import ClearCam.Adaptive.Ladder
import ClearCam.Adaptive.Ranking
import ClearCam.Media.Preview
import ClearCam.Adaptive.HeldDrops
import ClearCam.Adaptive.Speedtest
import ClearCam.Adaptive.CameraModes
import ClearCam.App.Speedtest
import ClearCam.Library.Binary64
import ClearCam.Adaptive.Sustained
import ClearCam.App.SpeedtestTiming
import ClearCam.Adaptive.RawModes
import ClearCam.App.Token
import ClearCam.Ios.ListenerOrder
import ClearCam.Adaptive.FrameBudget
import ClearCam.App.SpeedtestRamp
import ClearCam.App.Conversation
import ClearCam.App.QrCode
import ClearCam.Session.Keepalive
import ClearCam.App.AdaptationDriver
import ClearCam.Ios.PixelBuffer
import ClearCam.App.Shell
import ClearCam.Ios.CameraWiring
import ClearCam.Adaptive.Convergence
import ClearCam.App.ControlWire
import ClearCam.Ios.ControlStream
import ClearCam.Session.FrameLoss

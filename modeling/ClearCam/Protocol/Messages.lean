import Mathlib.Algebra.Group.Nat.Defs

/-! The control-message catalogue of `ccp-protocol`. Integers keep the width the
wire types give them, and an `f64` is a `Float`, the IEEE 754 binary64 type. -/
namespace ClearCam.Protocol

def protoVer : UInt32 := 1

inductive Capability where
  | hevc | h264 | rawNv12 | usb3 | speedtestV1
  | other (name : String)
  deriving DecidableEq

inductive FormatKind where
  | raw | encoded
  deriving DecidableEq

inductive CodecName where
  | none | hevc | h264
  deriving DecidableEq

inductive PixelFormat where
  | nv12
  deriving DecidableEq

structure Mode where
  format : FormatKind
  codec : CodecName
  width : UInt16
  height : UInt16
  fps : UInt16
  bitrateKbps : UInt32
  pixelFormat : PixelFormat
  fullRange : Bool
  deriving DecidableEq

def Mode.defaultStreaming1080p30 : Mode :=
  ⟨.encoded,.hevc,1920,1080,30,30000,.nv12,true⟩

structure DeviceIdent where
  model : String
  osVer : String
  deriving DecidableEq

structure Hello where
  protoVer : UInt32
  app : String
  device : DeviceIdent
  sessionId : String
  caps : List Capability
  deriving DecidableEq

structure HelloAck where
  protoVer : UInt32
  caps : List Capability
  deriving DecidableEq

inductive Auth where
  | token (token : String)
  | pairingKey (pairingKey : String)
  deriving DecidableEq

structure AuthOk where
  sessionId : String
  deriving DecidableEq

structure MediaHello where
  sessionId : String
  token : String
  deriving DecidableEq

structure Bye where
  reason : String
  deriving DecidableEq

inductive ErrorCode where
  | incompatibleVersion | unauthorized | badRequest | unsupportedMode
  | cameraUnavailable | internal | timeout
  deriving DecidableEq

structure ErrorMsg where
  code : ErrorCode
  message : String
  deriving DecidableEq

inductive BatteryState where
  | unknown | unplugged | charging | full
  deriving DecidableEq

inductive ThermalState where
  | nominal | fair | serious | critical
  deriving DecidableEq

structure DeviceInfo where
  model : String
  osVer : String
  batteryLevel : Float
  batteryState : BatteryState
  thermalState : ThermalState
  usb3Capable : Bool
  deriving DecidableEq

inductive CameraPosition where
  | front | back
  deriving DecidableEq

structure CameraEntry where
  id : String
  name : String
  position : CameraPosition
  maxWidth : UInt16
  maxHeight : UInt16
  maxFps : UInt16
  supportedFormats : List String
  deriving DecidableEq

structure CameraList where
  cameras : List CameraEntry
  deriving DecidableEq

structure SetCamera where
  cameraId : String
  deriving DecidableEq

structure CameraState where
  activeCameraId : String
  appliedFormat : String
  deriving DecidableEq

structure Start where
  mode : Mode
  deriving DecidableEq

structure SetMode where
  mode : Mode
  deriving DecidableEq

structure ModeApplied where
  mode : Mode
  atSeq : UInt32
  deriving DecidableEq

structure Telemetry where
  tsUsec : UInt64
  batteryLevel : Float
  batteryState : BatteryState
  thermalState : ThermalState
  sentBitrateKbps : UInt32
  encFps : UInt32
  captureFps : UInt32
  queueDepth : UInt32
  dropCount : UInt64
  deriving DecidableEq

structure Ping where
  tsUsec : UInt64
  deriving DecidableEq

structure Pong where
  tsUsec : UInt64
  echoUsec : UInt64
  deriving DecidableEq

inductive SpeedtestPattern where
  | ramp
  deriving DecidableEq

structure SpeedtestStart where
  id : String
  targetBitrateKbps : UInt32
  durationMs : UInt32
  pattern : SpeedtestPattern
  deriving DecidableEq

structure SpeedtestTick where
  id : String
  tickIndex : UInt32
  tsUsec : UInt64
  deriving DecidableEq

structure SpeedtestResult where
  id : String
  goodputMbps : Float
  rttMs : Float
  jitterMs : Float
  lossPct : Float
  recommendedMode : Mode
  deriving DecidableEq

inductive ControlMessage where
  | hello (body : Hello)
  | helloAck (body : HelloAck)
  | auth (body : Auth)
  | authOk (body : AuthOk)
  | mediaHello (body : MediaHello)
  | bye (body : Bye)
  | error (body : ErrorMsg)
  | deviceInfo (body : DeviceInfo)
  | cameraList (body : CameraList)
  | setCamera (body : SetCamera)
  | cameraState (body : CameraState)
  | start (body : Start)
  | stop
  | setMode (body : SetMode)
  | modeApplied (body : ModeApplied)
  | telemetry (body : Telemetry)
  | ping (body : Ping)
  | pong (body : Pong)
  | speedtestStart (body : SpeedtestStart)
  | speedtestTick (body : SpeedtestTick)
  | speedtestResult (body : SpeedtestResult)
  deriving DecidableEq

/-- The wire wrapper: a sender-monotone `seq`, and the `seq` it answers if any. -/
structure ControlEnvelope where
  seq : UInt64
  ack : Option UInt64
  body : ControlMessage
  deriving DecidableEq

end ClearCam.Protocol

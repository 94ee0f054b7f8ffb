import ClearCam.Protocol.Json

/-! The phone's catalogue of control messages, with the keys and raw values its `Codable`
types give them. The types correspond field by field to the desktop's, and one Lean type
stands for the two. -/
namespace ClearCam.Ios
open ClearCam.Library ClearCam.Protocol Json Coder Record

namespace Capability

def wireString : Capability → String
  | .hevc => "hevc"
  | .h264 => "h264"
  | .rawNv12 => "raw_nv12"
  | .usb3 => "usb3"
  | .speedtestV1 => "speedtest_v1"
  | .other s => s

def ofWireString (s : String) : Capability :=
  match s with
  | "hevc" => .hevc
  | "h264" => .h264
  | "raw_nv12" => .rawNv12
  | "usb3" => .usb3
  | "speedtest_v1" => .speedtestV1
  | s => .other s

theorem ofWireString_wireString (capability : Capability) (canonical : capability.Canonical) :
    ofWireString (wireString capability) = capability := by
  cases capability with
  | other s =>
    simp only [Capability.Canonical,List.mem_cons,List.not_mem_nil,or_false,not_or] at canonical
    obtain ⟨a,b,c,d,e⟩ := canonical
    simp only [wireString,ofWireString]
  | _ => rfl

end Capability

namespace Codable

def double : Coder Float where
  Valid _ := True
  toJson value := .real value
  ofJson := readNumber
  ofJson_toJson _ _ := rfl
  ofJson_sortKeys := readNumber_sortKeys

def rawValue {α : Type} (raw : α → String) (find : String → Option α)
    (back : find ∘ raw = some) : Coder α where
  Valid _ := True
  toJson value := .str (raw value)
  ofJson
    | .str s => find s
    | _ => none
  ofJson_toJson value _ := congrFun back value
  ofJson_sortKeys order json := by cases json <;> simp [sortKeys]

@[simp] theorem double_valid (value : Float) : double.Valid value := trivial

@[simp] theorem rawValue_valid {α : Type} (raw : α → String) (find : String → Option α)
    (back : find ∘ raw = some) (value : α) : (rawValue raw find back).Valid value := trivial

def capability : Coder Capability :=
  string.through Protocol.Capability.Canonical Capability.wireString Capability.ofWireString fun value canonical =>
    ⟨trivial,Capability.ofWireString_wireString value canonical⟩

@[simp] theorem capability_valid (value : Capability) : capability.Valid value ↔ value.Canonical := Iff.rfl

def formatKind : Coder FormatKind :=
  rawValue (fun | .raw => "raw" | .encoded => "encoded")
    (fun | "raw" => some .raw | "encoded" => some .encoded | _ => none)
    (by funext value; cases value <;> rfl)

def codecName : Coder CodecName :=
  rawValue (fun | .none => "none" | .hevc => "hevc" | .h264 => "h264")
    (fun | "none" => some .none | "hevc" => some .hevc | "h264" => some .h264 | _ => none)
    (by funext value; cases value <;> rfl)

def pixelFormat : Coder PixelFormat :=
  rawValue (fun | .nv12 => "nv12") (fun | "nv12" => some .nv12 | _ => none) (by funext value; cases value; rfl)

def errorCode : Coder ErrorCode :=
  rawValue
    (fun
      | .incompatibleVersion => "incompatible_version"
      | .unauthorized => "unauthorized"
      | .badRequest => "bad_request"
      | .unsupportedMode => "unsupported_mode"
      | .cameraUnavailable => "camera_unavailable"
      | .internal => "internal"
      | .timeout => "timeout")
    (fun
      | "incompatible_version" => some .incompatibleVersion
      | "unauthorized" => some .unauthorized
      | "bad_request" => some .badRequest
      | "unsupported_mode" => some .unsupportedMode
      | "camera_unavailable" => some .cameraUnavailable
      | "internal" => some .internal
      | "timeout" => some .timeout
      | _ => none)
    (by funext value; cases value <;> rfl)

def batteryState : Coder BatteryState :=
  rawValue
    (fun | .unknown => "unknown" | .unplugged => "unplugged" | .charging => "charging" | .full => "full")
    (fun
      | "unknown" => some .unknown
      | "unplugged" => some .unplugged
      | "charging" => some .charging
      | "full" => some .full
      | _ => none)
    (by funext value; cases value <;> rfl)

def thermalState : Coder ThermalState :=
  rawValue
    (fun | .nominal => "nominal" | .fair => "fair" | .serious => "serious" | .critical => "critical")
    (fun
      | "nominal" => some .nominal
      | "fair" => some .fair
      | "serious" => some .serious
      | "critical" => some .critical
      | _ => none)
    (by funext value; cases value <;> rfl)

def cameraPosition : Coder CameraPosition :=
  rawValue (fun | .front => "front" | .back => "back")
    (fun | "front" => some .front | "back" => some .back | _ => none)
    (by funext value; cases value <;> rfl)

def speedtestPattern : Coder SpeedtestPattern :=
  rawValue (fun | .ramp => "ramp") (fun | "ramp" => some .ramp | _ => none) (by funext value; cases value; rfl)

def mode : Record Mode :=
  (cons "format" formatKind <| cons "codec" codecName <| cons "width" u16 <| cons "height" u16 <|
    cons "fps" u16 <| cons "bitrateKbps" u32 <| cons "pixelFormat" pixelFormat <|
    cons "fullRange" boolean nil).as
    (fun m => (m.format,m.codec,m.width,m.height,m.fps,m.bitrateKbps,m.pixelFormat,m.fullRange,()))
    (fun (format,codec,width,height,fps,bitrateKbps,pixelFormat,fullRange,_) =>
      ⟨format,codec,width,height,fps,bitrateKbps,pixelFormat,fullRange⟩)
    Eq.refl

@[simp] theorem mode_valid (value : Mode) : mode.Valid value := by
  simp [mode,formatKind,codecName,pixelFormat]

def deviceIdent : Record DeviceIdent :=
  (cons "model" string <| cons "osVer" string nil).as
    (fun d => (d.model,d.osVer,())) (fun (model,osVer,_) => ⟨model,osVer⟩) Eq.refl

def hello : Record Hello :=
  (cons "protoVer" u32 <| cons "app" string <| cons "device" deviceIdent.object <|
    cons "sessionId" string <| cons "caps" (list capability) nil).as
    (fun h => (h.protoVer,h.app,h.device,h.sessionId,h.caps,()))
    (fun (protoVer,app,device,sessionId,caps,_) => ⟨protoVer,app,device,sessionId,caps⟩)
    Eq.refl

def helloAck : Record HelloAck :=
  (cons "protoVer" u32 <| cons "caps" (list capability) nil).as
    (fun h => (h.protoVer,h.caps,())) (fun (protoVer,caps,_) => ⟨protoVer,caps⟩) Eq.refl

/-- `decodeIfPresent(String.self, ..)`: nothing for a missing or `null` value, and an error for
a value of another type. -/
def decodeIfPresent (view : View) (key : String) : Option (Option String) :=
  match view key with
  | none => some none
  | some .null => some none
  | some json => (string.ofJson json).map some

theorem decodeIfPresent_sorted (order : String → String → Bool) (view : View) (key : String) :
    decodeIfPresent (fun key => (view key).map (sortKeys order)) key = decodeIfPresent view key := by
  unfold decodeIfPresent
  dsimp only
  cases view key with
  | none => rfl
  | some json => cases json <;> simp [sortKeys,string]

/-- `encode(to:)` of `Auth`. -/
def encodeAuth : Auth → Members
  | .token v => [("token",.str v)]
  | .pairingKey v => [("pairingKey",.str v)]

def auth : Record Auth where
  Valid _ := True
  keys := ["token","pairingKey"]
  toMembers := encodeAuth
  ofView view := do
    if let some token ← decodeIfPresent view "token" then return .token token
    if let some pk ← decodeIfPresent view "pairingKey" then return .pairingKey pk
    none
  toMembers_keys value member inside := by
    cases value <;> (rw [List.mem_singleton.mp inside]; simp)
  ofView_toMembers value _ := by cases value <;> rfl
  ofView_congr view other same := by
    simp only [decodeIfPresent,same "token" (by simp),same "pairingKey" (by simp)]
  ofView_sorted order view := by simp only [decodeIfPresent_sorted]

def authOk : Record AuthOk :=
  (cons "sessionId" string nil).as (fun a => (a.sessionId,())) (fun (sessionId,_) => ⟨sessionId⟩) Eq.refl

def mediaHello : Record MediaHello :=
  (cons "sessionId" string <| cons "token" string nil).as
    (fun m => (m.sessionId,m.token,())) (fun (sessionId,token,_) => ⟨sessionId,token⟩) Eq.refl

def bye : Record Bye :=
  (cons "reason" string nil).as (fun b => (b.reason,())) (fun (reason,_) => ⟨reason⟩) Eq.refl

def errorMsg : Record ErrorMsg :=
  (cons "code" errorCode <| cons "message" string nil).as
    (fun e => (e.code,e.message,())) (fun (code,message,_) => ⟨code,message⟩) Eq.refl

def deviceInfo : Record DeviceInfo :=
  (cons "model" string <| cons "osVer" string <| cons "batteryLevel" double <|
    cons "batteryState" batteryState <| cons "thermalState" thermalState <|
    cons "usb3Capable" boolean nil).as
    (fun d => (d.model,d.osVer,d.batteryLevel,d.batteryState,d.thermalState,d.usb3Capable,()))
    (fun (model,osVer,batteryLevel,batteryState,thermalState,usb3Capable,_) =>
      ⟨model,osVer,batteryLevel,batteryState,thermalState,usb3Capable⟩)
    Eq.refl

def cameraEntry : Record CameraEntry :=
  (cons "id" string <| cons "name" string <| cons "position" cameraPosition <| cons "maxWidth" u16 <|
    cons "maxHeight" u16 <| cons "maxFps" u16 <| cons "supportedFormats" (list string) nil).as
    (fun c => (c.id,c.name,c.position,c.maxWidth,c.maxHeight,c.maxFps,c.supportedFormats,()))
    (fun (id,name,position,maxWidth,maxHeight,maxFps,supportedFormats,_) =>
      ⟨id,name,position,maxWidth,maxHeight,maxFps,supportedFormats⟩)
    Eq.refl

def cameraList : Record CameraList :=
  (cons "cameras" (list cameraEntry.object) nil).as
    (fun c => (c.cameras,())) (fun (cameras,_) => ⟨cameras⟩) Eq.refl

def setCamera : Record SetCamera :=
  (cons "cameraId" string nil).as (fun s => (s.cameraId,())) (fun (cameraId,_) => ⟨cameraId⟩) Eq.refl

def cameraState : Record CameraState :=
  (cons "activeCameraId" string <| cons "appliedFormat" string nil).as
    (fun c => (c.activeCameraId,c.appliedFormat,()))
    (fun (activeCameraId,appliedFormat,_) => ⟨activeCameraId,appliedFormat⟩) Eq.refl

def start : Record Start :=
  (cons "mode" mode.object nil).as (fun s => (s.mode,())) (fun (mode,_) => ⟨mode⟩) Eq.refl

def setMode : Record SetMode :=
  (cons "mode" mode.object nil).as (fun s => (s.mode,())) (fun (mode,_) => ⟨mode⟩) Eq.refl

def modeApplied : Record ModeApplied :=
  (cons "mode" mode.object <| cons "atSeq" u32 nil).as
    (fun m => (m.mode,m.atSeq,())) (fun (mode,atSeq,_) => ⟨mode,atSeq⟩) Eq.refl

def telemetry : Record Telemetry :=
  (cons "tsUsec" u64 <| cons "batteryLevel" double <| cons "batteryState" batteryState <|
    cons "thermalState" thermalState <| cons "sentBitrateKbps" u32 <| cons "encFps" u32 <|
    cons "captureFps" u32 <| cons "queueDepth" u32 <| cons "dropCount" u64 nil).as
    (fun t => (t.tsUsec,t.batteryLevel,t.batteryState,t.thermalState,t.sentBitrateKbps,t.encFps,t.captureFps,
      t.queueDepth,t.dropCount,()))
    (fun (tsUsec,batteryLevel,batteryState,thermalState,sentBitrateKbps,encFps,captureFps,queueDepth,
        dropCount,_) =>
      ⟨tsUsec,batteryLevel,batteryState,thermalState,sentBitrateKbps,encFps,captureFps,queueDepth,dropCount⟩)
    Eq.refl

def ping : Record Ping :=
  (cons "tsUsec" u64 nil).as (fun p => (p.tsUsec,())) (fun (tsUsec,_) => ⟨tsUsec⟩) Eq.refl

def pong : Record Pong :=
  (cons "tsUsec" u64 <| cons "echoUsec" u64 nil).as
    (fun p => (p.tsUsec,p.echoUsec,())) (fun (tsUsec,echoUsec,_) => ⟨tsUsec,echoUsec⟩) Eq.refl

def speedtestStart : Record SpeedtestStart :=
  (cons "id" string <| cons "targetBitrateKbps" u32 <| cons "durationMs" u32 <|
    cons "pattern" speedtestPattern nil).as
    (fun s => (s.id,s.targetBitrateKbps,s.durationMs,s.pattern,()))
    (fun (id,targetBitrateKbps,durationMs,pattern,_) => ⟨id,targetBitrateKbps,durationMs,pattern⟩)
    Eq.refl

def speedtestTick : Record SpeedtestTick :=
  (cons "id" string <| cons "tickIndex" u32 <| cons "tsUsec" u64 nil).as
    (fun s => (s.id,s.tickIndex,s.tsUsec,())) (fun (id,tickIndex,tsUsec,_) => ⟨id,tickIndex,tsUsec⟩)
    Eq.refl

def speedtestResult : Record SpeedtestResult :=
  (cons "id" string <| cons "goodputMbps" double <| cons "rttMs" double <| cons "jitterMs" double <|
    cons "lossPct" double <| cons "recommendedMode" mode.object nil).as
    (fun s => (s.id,s.goodputMbps,s.rttMs,s.jitterMs,s.lossPct,s.recommendedMode,()))
    (fun (id,goodputMbps,rttMs,jitterMs,lossPct,recommendedMode,_) =>
      ⟨id,goodputMbps,rttMs,jitterMs,lossPct,recommendedMode⟩)
    Eq.refl

/-- `Stop`, which has no properties. -/
def stop : Record Unit := nil

end Codable

end ClearCam.Ios

import ClearCam.Library.Json
import ClearCam.Protocol.Messages

/-! The JSON of the control messages as the desktop's serde derives produce it: renamed
fields, unit variants as strings, the untagged `Auth`, the tag `t`, and the envelope with
its body flattened into it. -/
namespace ClearCam.Protocol
open ClearCam.Library Json Coder Record

namespace Capability

def asStr : Capability → String
  | .hevc => "hevc"
  | .h264 => "h264"
  | .rawNv12 => "raw_nv12"
  | .usb3 => "usb3"
  | .speedtestV1 => "speedtest_v1"
  | .other s => s

def fromStr (s : String) : Capability :=
  match s with
  | "hevc" => .hevc
  | "h264" => .h264
  | "raw_nv12" => .rawNv12
  | "usb3" => .usb3
  | "speedtest_v1" => .speedtestV1
  | s => .other s

/-- `Other` does not spell a capability that has a variant of its own. -/
def Canonical : Capability → Prop
  | .other s => s ∉ ["hevc","h264","raw_nv12","usb3","speedtest_v1"]
  | _ => True

theorem asStr_fromStr (s : String) : asStr (fromStr s) = s := by
  unfold fromStr
  split <;> rfl

theorem fromStr_asStr (capability : Capability) (canonical : capability.Canonical) :
    fromStr capability.asStr = capability := by
  cases capability with
  | other s =>
    simp only [Canonical,List.mem_cons,List.not_mem_nil,or_false,not_or] at canonical
    obtain ⟨a,b,c,d,e⟩ := canonical
    simp only [asStr,fromStr]
  | _ => rfl

end Capability

namespace Derive

/-- An `f64`. A number that is not finite has no JSON and is written as `null`. -/
def f64 : Coder Float where
  Valid value := value.isFinite = true
  toJson value := if value.isFinite then .real value else .null
  ofJson := readNumber
  ofJson_toJson value finite := by simp [finite,readNumber]
  ofJson_sortKeys := readNumber_sortKeys

/-- An enum of unit variants: the variant's name, or an object of that name and `null`. -/
def unitVariant {α : Type} (name : α → String) (find : String → Option α)
    (back : ∀ value, find (name value) = some value) : Coder α where
  Valid _ := True
  toJson value := .str (name value)
  ofJson
    | .str s => find s
    | .obj [(s,.null)] => find s
    | _ => none
  ofJson_toJson value _ := back value
  ofJson_sortKeys order json := by
    cases json with
    | obj members =>
      have sorted := sortMembers_perm order members
      cases members with
      | nil => simp [sortKeys,sortMembers]
      | cons first rest =>
        obtain ⟨s,value⟩ := first
        cases rest with
        | nil => cases value <;> simp [sortKeys,sortMembers]
        | cons second rest =>
          have length := sorted.length_eq
          cases several : sortMembers order ((s,value) :: second :: rest) with
          | nil => simp [several] at length
          | cons one more =>
            cases more with
            | nil => simp [several] at length
            | cons two more => simp [sortKeys,several]
    | _ => simp [sortKeys]

@[simp] theorem f64_valid (value : Float) : f64.Valid value ↔ value.isFinite = true := Iff.rfl

@[simp] theorem unitVariant_valid {α : Type} (name : α → String) (find : String → Option α)
    (back : ∀ value, find (name value) = some value) (value : α) : (unitVariant name find back).Valid value :=
  trivial

def capability : Coder Capability :=
  string.through Capability.Canonical Capability.asStr Capability.fromStr fun value canonical =>
    ⟨trivial,Capability.fromStr_asStr value canonical⟩

@[simp] theorem capability_valid (value : Capability) : capability.Valid value ↔ value.Canonical := Iff.rfl

def formatKind : Coder FormatKind :=
  unitVariant (fun | .raw => "raw" | .encoded => "encoded")
    (fun | "raw" => some .raw | "encoded" => some .encoded | _ => none)
    (fun value => by cases value <;> rfl)

def codecName : Coder CodecName :=
  unitVariant (fun | .none => "none" | .hevc => "hevc" | .h264 => "h264")
    (fun | "none" => some .none | "hevc" => some .hevc | "h264" => some .h264 | _ => none)
    (fun value => by cases value <;> rfl)

def pixelFormat : Coder PixelFormat :=
  unitVariant (fun | .nv12 => "nv12") (fun | "nv12" => some .nv12 | _ => none) (fun | .nv12 => rfl)

def errorCode : Coder ErrorCode :=
  unitVariant
    (fun
      | .incompatibleVersion => "incompatible_version"
      | .unauthorized => "unauthorized"
      | .badRequest => "bad_request"
      | .unsupportedMode => "unsupported_mode"
      | .cameraUnavailable => "camera_unavailable"
      | .internal => "internal"
      | .timeout => "timeout")
    (fun
      | "incompatible_version" => some .incompatibleVersion
      | "unauthorized" => some .unauthorized
      | "bad_request" => some .badRequest
      | "unsupported_mode" => some .unsupportedMode
      | "camera_unavailable" => some .cameraUnavailable
      | "internal" => some .internal
      | "timeout" => some .timeout
      | _ => none)
    (fun value => by cases value <;> rfl)

def batteryState : Coder BatteryState :=
  unitVariant
    (fun | .unknown => "unknown" | .unplugged => "unplugged" | .charging => "charging" | .full => "full")
    (fun
      | "unknown" => some .unknown
      | "unplugged" => some .unplugged
      | "charging" => some .charging
      | "full" => some .full
      | _ => none)
    (fun value => by cases value <;> rfl)

def thermalState : Coder ThermalState :=
  unitVariant
    (fun | .nominal => "nominal" | .fair => "fair" | .serious => "serious" | .critical => "critical")
    (fun
      | "nominal" => some .nominal
      | "fair" => some .fair
      | "serious" => some .serious
      | "critical" => some .critical
      | _ => none)
    (fun value => by cases value <;> rfl)

def cameraPosition : Coder CameraPosition :=
  unitVariant (fun | .front => "front" | .back => "back")
    (fun | "front" => some .front | "back" => some .back | _ => none)
    (fun value => by cases value <;> rfl)

def speedtestPattern : Coder SpeedtestPattern :=
  unitVariant (fun | .ramp => "ramp") (fun | "ramp" => some .ramp | _ => none) (fun | .ramp => rfl)

def mode : Record Mode :=
  (cons "format" formatKind <| cons "codec" codecName <| cons "width" u16 <| cons "height" u16 <|
    cons "fps" u16 <| cons "bitrateKbps" u32 <| cons "pixelFormat" pixelFormat <|
    cons "fullRange" boolean nil).as
    (fun m => (m.format,m.codec,m.width,m.height,m.fps,m.bitrateKbps,m.pixelFormat,m.fullRange,()))
    (fun (format,codec,width,height,fps,bitrateKbps,pixelFormat,fullRange,_) =>
      ⟨format,codec,width,height,fps,bitrateKbps,pixelFormat,fullRange⟩)
    Eq.refl

@[simp] theorem mode_valid (value : Mode) : mode.Valid value := by
  simp [mode,formatKind,codecName,pixelFormat]

def deviceIdent : Record DeviceIdent :=
  (cons "model" string <| cons "osVer" string nil).as
    (fun d => (d.model,d.osVer,())) (fun (model,osVer,_) => ⟨model,osVer⟩) Eq.refl

def hello : Record Hello :=
  (cons "protoVer" u32 <| cons "app" string <| cons "device" deviceIdent.objectOrArray <|
    cons "sessionId" string <| cons "caps" (list capability) nil).as
    (fun h => (h.protoVer,h.app,h.device,h.sessionId,h.caps,()))
    (fun (protoVer,app,device,sessionId,caps,_) => ⟨protoVer,app,device,sessionId,caps⟩)
    Eq.refl

def helloAck : Record HelloAck :=
  (cons "protoVer" u32 <| cons "caps" (list capability) nil).as
    (fun h => (h.protoVer,h.caps,())) (fun (protoVer,caps,_) => ⟨protoVer,caps⟩) Eq.refl

/-- Untagged: the variants are tried in order, each on its own field. -/
def auth : Record Auth where
  Valid _ := True
  keys := ["token","pairingKey"]
  toMembers
    | .token token => [("token",.str token)]
    | .pairingKey pairingKey => [("pairingKey",.str pairingKey)]
  ofView view :=
    match readField view "token" string with
    | some token => some (.token token)
    | none => (readField view "pairingKey" string).map .pairingKey
  toMembers_keys value member inside := by
    cases value <;> (rw [List.mem_singleton.mp inside]; simp)
  ofView_toMembers value _ := by cases value <;> rfl
  ofView_congr view other same := by
    simp only [readField,same "token" (by simp),same "pairingKey" (by simp)]
  ofView_sorted order view := by simp only [readField_sorted]

def authOk : Record AuthOk :=
  (cons "sessionId" string nil).as (fun a => (a.sessionId,())) (fun (sessionId,_) => ⟨sessionId⟩) Eq.refl

def mediaHello : Record MediaHello :=
  (cons "sessionId" string <| cons "token" string nil).as
    (fun m => (m.sessionId,m.token,())) (fun (sessionId,token,_) => ⟨sessionId,token⟩) Eq.refl

def bye : Record Bye :=
  (cons "reason" string nil).as (fun b => (b.reason,())) (fun (reason,_) => ⟨reason⟩) Eq.refl

def errorMsg : Record ErrorMsg :=
  (cons "code" errorCode <| cons "message" string nil).as
    (fun e => (e.code,e.message,())) (fun (code,message,_) => ⟨code,message⟩) Eq.refl

def deviceInfo : Record DeviceInfo :=
  (cons "model" string <| cons "osVer" string <| cons "batteryLevel" f64 <|
    cons "batteryState" batteryState <| cons "thermalState" thermalState <|
    cons "usb3Capable" boolean nil).as
    (fun d => (d.model,d.osVer,d.batteryLevel,d.batteryState,d.thermalState,d.usb3Capable,()))
    (fun (model,osVer,batteryLevel,batteryState,thermalState,usb3Capable,_) =>
      ⟨model,osVer,batteryLevel,batteryState,thermalState,usb3Capable⟩)
    Eq.refl

def cameraEntry : Record CameraEntry :=
  (cons "id" string <| cons "name" string <| cons "position" cameraPosition <| cons "maxWidth" u16 <|
    cons "maxHeight" u16 <| cons "maxFps" u16 <| cons "supportedFormats" (list string) nil).as
    (fun c => (c.id,c.name,c.position,c.maxWidth,c.maxHeight,c.maxFps,c.supportedFormats,()))
    (fun (id,name,position,maxWidth,maxHeight,maxFps,supportedFormats,_) =>
      ⟨id,name,position,maxWidth,maxHeight,maxFps,supportedFormats⟩)
    Eq.refl

def cameraList : Record CameraList :=
  (cons "cameras" (list cameraEntry.objectOrArray) nil).as
    (fun c => (c.cameras,())) (fun (cameras,_) => ⟨cameras⟩) Eq.refl

def setCamera : Record SetCamera :=
  (cons "cameraId" string nil).as (fun s => (s.cameraId,())) (fun (cameraId,_) => ⟨cameraId⟩) Eq.refl

def cameraState : Record CameraState :=
  (cons "activeCameraId" string <| cons "appliedFormat" string nil).as
    (fun c => (c.activeCameraId,c.appliedFormat,()))
    (fun (activeCameraId,appliedFormat,_) => ⟨activeCameraId,appliedFormat⟩) Eq.refl

def start : Record Start :=
  (cons "mode" mode.objectOrArray nil).as (fun s => (s.mode,())) (fun (mode,_) => ⟨mode⟩) Eq.refl

def setMode : Record SetMode :=
  (cons "mode" mode.objectOrArray nil).as (fun s => (s.mode,())) (fun (mode,_) => ⟨mode⟩) Eq.refl

def modeApplied : Record ModeApplied :=
  (cons "mode" mode.objectOrArray <| cons "atSeq" u32 nil).as
    (fun m => (m.mode,m.atSeq,())) (fun (mode,atSeq,_) => ⟨mode,atSeq⟩) Eq.refl

def telemetry : Record Telemetry :=
  (cons "tsUsec" u64 <| cons "batteryLevel" f64 <| cons "batteryState" batteryState <|
    cons "thermalState" thermalState <| cons "sentBitrateKbps" u32 <| cons "encFps" u32 <|
    cons "captureFps" u32 <| cons "queueDepth" u32 <| cons "dropCount" u64 nil).as
    (fun t => (t.tsUsec,t.batteryLevel,t.batteryState,t.thermalState,t.sentBitrateKbps,t.encFps,t.captureFps,
      t.queueDepth,t.dropCount,()))
    (fun (tsUsec,batteryLevel,batteryState,thermalState,sentBitrateKbps,encFps,captureFps,queueDepth,
        dropCount,_) =>
      ⟨tsUsec,batteryLevel,batteryState,thermalState,sentBitrateKbps,encFps,captureFps,queueDepth,dropCount⟩)
    Eq.refl

def ping : Record Ping :=
  (cons "tsUsec" u64 nil).as (fun p => (p.tsUsec,())) (fun (tsUsec,_) => ⟨tsUsec⟩) Eq.refl

def pong : Record Pong :=
  (cons "tsUsec" u64 <| cons "echoUsec" u64 nil).as
    (fun p => (p.tsUsec,p.echoUsec,())) (fun (tsUsec,echoUsec,_) => ⟨tsUsec,echoUsec⟩) Eq.refl

def speedtestStart : Record SpeedtestStart :=
  (cons "id" string <| cons "targetBitrateKbps" u32 <| cons "durationMs" u32 <|
    cons "pattern" speedtestPattern nil).as
    (fun s => (s.id,s.targetBitrateKbps,s.durationMs,s.pattern,()))
    (fun (id,targetBitrateKbps,durationMs,pattern,_) => ⟨id,targetBitrateKbps,durationMs,pattern⟩)
    Eq.refl

def speedtestTick : Record SpeedtestTick :=
  (cons "id" string <| cons "tickIndex" u32 <| cons "tsUsec" u64 nil).as
    (fun s => (s.id,s.tickIndex,s.tsUsec,())) (fun (id,tickIndex,tsUsec,_) => ⟨id,tickIndex,tsUsec⟩)
    Eq.refl

def speedtestResult : Record SpeedtestResult :=
  (cons "id" string <| cons "goodputMbps" f64 <| cons "rttMs" f64 <| cons "jitterMs" f64 <|
    cons "lossPct" f64 <| cons "recommendedMode" mode.objectOrArray nil).as
    (fun s => (s.id,s.goodputMbps,s.rttMs,s.jitterMs,s.lossPct,s.recommendedMode,()))
    (fun (id,goodputMbps,rttMs,jitterMs,lossPct,recommendedMode,_) =>
      ⟨id,goodputMbps,rttMs,jitterMs,lossPct,recommendedMode⟩)
    Eq.refl

/-- `Stop {}`. -/
def stop : Record Unit := nil

end Derive

namespace ControlMessage

def tag : ControlMessage → String
  | .hello _ => "HELLO"
  | .helloAck _ => "HELLO_ACK"
  | .auth _ => "AUTH"
  | .authOk _ => "AUTH_OK"
  | .mediaHello _ => "MEDIA_HELLO"
  | .bye _ => "BYE"
  | .error _ => "ERROR"
  | .deviceInfo _ => "DEVICE_INFO"
  | .cameraList _ => "CAMERA_LIST"
  | .setCamera _ => "SET_CAMERA"
  | .cameraState _ => "CAMERA_STATE"
  | .start _ => "START"
  | .stop => "STOP"
  | .setMode _ => "SET_MODE"
  | .modeApplied _ => "MODE_APPLIED"
  | .telemetry _ => "TELEMETRY"
  | .ping _ => "PING"
  | .pong _ => "PONG"
  | .speedtestStart _ => "SPEEDTEST_START"
  | .speedtestTick _ => "SPEEDTEST_TICK"
  | .speedtestResult _ => "SPEEDTEST_RESULT"

def members : ControlMessage → Members
  | .hello body => Derive.hello.toMembers body
  | .helloAck body => Derive.helloAck.toMembers body
  | .auth body => Derive.auth.toMembers body
  | .authOk body => Derive.authOk.toMembers body
  | .mediaHello body => Derive.mediaHello.toMembers body
  | .bye body => Derive.bye.toMembers body
  | .error body => Derive.errorMsg.toMembers body
  | .deviceInfo body => Derive.deviceInfo.toMembers body
  | .cameraList body => Derive.cameraList.toMembers body
  | .setCamera body => Derive.setCamera.toMembers body
  | .cameraState body => Derive.cameraState.toMembers body
  | .start body => Derive.start.toMembers body
  | .stop => Derive.stop.toMembers ()
  | .setMode body => Derive.setMode.toMembers body
  | .modeApplied body => Derive.modeApplied.toMembers body
  | .telemetry body => Derive.telemetry.toMembers body
  | .ping body => Derive.ping.toMembers body
  | .pong body => Derive.pong.toMembers body
  | .speedtestStart body => Derive.speedtestStart.toMembers body
  | .speedtestTick body => Derive.speedtestTick.toMembers body
  | .speedtestResult body => Derive.speedtestResult.toMembers body

def ofTag (tag : String) (view : View) : Option ControlMessage :=
  match tag with
  | "HELLO" => (Derive.hello.ofView view).map .hello
  | "HELLO_ACK" => (Derive.helloAck.ofView view).map .helloAck
  | "AUTH" => (Derive.auth.ofView view).map .auth
  | "AUTH_OK" => (Derive.authOk.ofView view).map .authOk
  | "MEDIA_HELLO" => (Derive.mediaHello.ofView view).map .mediaHello
  | "BYE" => (Derive.bye.ofView view).map .bye
  | "ERROR" => (Derive.errorMsg.ofView view).map .error
  | "DEVICE_INFO" => (Derive.deviceInfo.ofView view).map .deviceInfo
  | "CAMERA_LIST" => (Derive.cameraList.ofView view).map .cameraList
  | "SET_CAMERA" => (Derive.setCamera.ofView view).map .setCamera
  | "CAMERA_STATE" => (Derive.cameraState.ofView view).map .cameraState
  | "START" => (Derive.start.ofView view).map .start
  | "STOP" => (Derive.stop.ofView view).map fun _ => .stop
  | "SET_MODE" => (Derive.setMode.ofView view).map .setMode
  | "MODE_APPLIED" => (Derive.modeApplied.ofView view).map .modeApplied
  | "TELEMETRY" => (Derive.telemetry.ofView view).map .telemetry
  | "PING" => (Derive.ping.ofView view).map .ping
  | "PONG" => (Derive.pong.ofView view).map .pong
  | "SPEEDTEST_START" => (Derive.speedtestStart.ofView view).map .speedtestStart
  | "SPEEDTEST_TICK" => (Derive.speedtestTick.ofView view).map .speedtestTick
  | "SPEEDTEST_RESULT" => (Derive.speedtestResult.ofView view).map .speedtestResult
  | _ => none

def caps : ControlMessage → List Capability
  | .hello body => body.caps
  | .helloAck body => body.caps
  | _ => []

def floats : ControlMessage → List Float
  | .deviceInfo body => [body.batteryLevel]
  | .telemetry body => [body.batteryLevel]
  | .speedtestResult body => [body.goodputMbps,body.rttMs,body.jitterMs,body.lossPct]
  | _ => []

def reserved : List String := ["seq","ack","t"]

theorem ofTag_beside (tag : String) (view other : View) (same : ∀ key ∉ reserved, view key = other key) :
    ofTag tag view = ofTag tag other := by
  unfold ofTag
  split
  all_goals first
    | rfl
    | rw [Record.ofView_beside _ reserved view other (by decide) same]

theorem ofTag_sorted (tag : String) (order : String → String → Bool) (view : View) :
    ofTag tag (fun key => (view key).map (sortKeys order)) = ofTag tag view := by
  unfold ofTag
  split
  all_goals first
    | rfl
    | rw [Record.ofView_sorted]

def knownTags : List String :=
  ["HELLO","HELLO_ACK","AUTH","AUTH_OK","MEDIA_HELLO","BYE","ERROR","DEVICE_INFO","CAMERA_LIST","SET_CAMERA",
    "CAMERA_STATE","START","STOP","SET_MODE","MODE_APPLIED","TELEMETRY","PING","PONG","SPEEDTEST_START",
    "SPEEDTEST_TICK","SPEEDTEST_RESULT"]

theorem ofTag_unknown (tag : String) (view : View) (unknown : tag ∉ knownTags) : ofTag tag view = none := by
  unfold ofTag
  split
  all_goals first
    | rfl
    | exact absurd (by decide) unknown

theorem members_beside (body : ControlMessage) : ∀ member ∈ body.members, member.1 ∉ reserved := by
  cases body with
  | stop =>
    intro member inside
    cases inside
  | _ body => exact Record.toMembers_beside _ reserved (by decide) body

theorem members_filter (body : ControlMessage) (key : String) (own : key ∈ reserved) :
    (body.members.filter fun member => decide (member.1 = key)) = [] := by
  rw [List.filter_eq_nil_iff]
  intro member inside
  have outside := body.members_beside member inside
  intro same
  exact outside (of_decide_eq_true same ▸ own)

theorem members_hasField (body : ControlMessage) (key : String) (own : key ∈ reserved) :
    hasField body.members key = false := by
  rw [hasField,List.any_eq_false]
  intro member inside same
  exact body.members_beside member inside (of_decide_eq_true same ▸ own)

theorem read_back {α : Type} (fields : Record α) (make : α → ControlMessage) (body : α) (valid : fields.Valid body) :
    (fields.ofView (getField (fields.toMembers body))).map make = some (make body) := by
  rw [fields.ofView_toMembers body valid,Option.map_some]

/-- Every message is read back from its own fields under its own tag. -/
theorem ofTag_members (body : ControlMessage) (canonical : ∀ c ∈ body.caps, c.Canonical)
    (finite : ∀ x ∈ body.floats, x.isFinite = true) : ofTag body.tag (getField body.members) = some body := by
  cases body with
  | hello body =>
    have valid : Derive.hello.Valid body := by simpa [Derive.hello,Derive.deviceIdent,caps] using canonical
    exact read_back Derive.hello .hello body valid
  | helloAck body =>
    have valid : Derive.helloAck.Valid body := by simpa [Derive.helloAck,caps] using canonical
    exact read_back Derive.helloAck .helloAck body valid
  | auth body => exact read_back Derive.auth .auth body trivial
  | authOk body => exact read_back Derive.authOk .authOk body (by simp [Derive.authOk])
  | mediaHello body => exact read_back Derive.mediaHello .mediaHello body (by simp [Derive.mediaHello])
  | bye body => exact read_back Derive.bye .bye body (by simp [Derive.bye])
  | error body => exact read_back Derive.errorMsg .error body (by simp [Derive.errorMsg,Derive.errorCode])
  | deviceInfo body =>
    have valid : Derive.deviceInfo.Valid body := by
      simpa [Derive.deviceInfo,Derive.batteryState,Derive.thermalState,floats] using finite
    exact read_back Derive.deviceInfo .deviceInfo body valid
  | cameraList body =>
    have valid : Derive.cameraList.Valid body := by
      simp [Derive.cameraList,Derive.cameraEntry,Derive.cameraPosition]
    exact read_back Derive.cameraList .cameraList body valid
  | setCamera body => exact read_back Derive.setCamera .setCamera body (by simp [Derive.setCamera])
  | cameraState body => exact read_back Derive.cameraState .cameraState body (by simp [Derive.cameraState])
  | start body => exact read_back Derive.start .start body (by simp [Derive.start])
  | stop => rfl
  | setMode body => exact read_back Derive.setMode .setMode body (by simp [Derive.setMode])
  | modeApplied body => exact read_back Derive.modeApplied .modeApplied body (by simp [Derive.modeApplied])
  | telemetry body =>
    have valid : Derive.telemetry.Valid body := by
      simpa [Derive.telemetry,Derive.batteryState,Derive.thermalState,floats] using finite
    exact read_back Derive.telemetry .telemetry body valid
  | ping body => exact read_back Derive.ping .ping body (by simp [Derive.ping])
  | pong body => exact read_back Derive.pong .pong body (by simp [Derive.pong])
  | speedtestStart body =>
    have valid : Derive.speedtestStart.Valid body := by simp [Derive.speedtestStart,Derive.speedtestPattern]
    exact read_back Derive.speedtestStart .speedtestStart body valid
  | speedtestTick body =>
    exact read_back Derive.speedtestTick .speedtestTick body (by simp [Derive.speedtestTick])
  | speedtestResult body =>
    have valid : Derive.speedtestResult.Valid body := by simpa [Derive.speedtestResult,floats] using finite
    exact read_back Derive.speedtestResult .speedtestResult body valid

end ControlMessage

namespace ControlEnvelope

/-- `Serialize`: the envelope's own fields, then the flattened body behind its tag. -/
def toJson (env : ControlEnvelope) : Json :=
  .obj (("seq",u64.toJson env.seq) :: (env.ack.map fun ack => ("ack",u64.toJson ack)).toList ++
    ("t",.str env.body.tag) :: env.body.members)

/-- An `Option<u64>` field: it may be absent or `null`, but not stand there twice. -/
def optionalField (members : Members) (key : String) : Option (Option UInt64) :=
  if hasField members key then
    match getField members key with
    | some .null => some none
    | some json => (u64.ofJson json).map some
    | none => none
  else some none

/-- `Deserialize`: the envelope takes its own fields out and leaves the rest to the body, which
takes out the tag and leaves the rest to the variant. -/
def ofJson : Json → Option ControlEnvelope
  | .obj members => do
    let seq ← readField (getField members) "seq" u64
    let ack ← optionalField members "ack"
    let collected := members.filter fun member => member.1 ∉ ["seq","ack"]
    let tag ← readField (getField collected) "t" string
    let content := collected.filter fun member => member.1 ≠ "t"
    let body ← ControlMessage.ofTag tag (getField content)
    return ⟨seq,ack,body⟩
  | _ => none

def Canonical (env : ControlEnvelope) : Prop := ∀ c ∈ env.body.caps, c.Canonical

def Finite (env : ControlEnvelope) : Prop := ∀ x ∈ env.body.floats, x.isFinite = true

/-- What an object has to show of an envelope, whatever else is in it and in whatever order;
`view` is what it shows of the body. -/
structure Shows (members : Members) (env : ControlEnvelope) (view : View) : Prop where
  seq : getField members "seq" = some (.int env.seq.toNat)
  hasAck : hasField members "ack" = env.ack.isSome
  ack : getField members "ack" = env.ack.map fun ack => .int ack.toNat
  tag : getField members "t" = some (.str env.body.tag)
  body : ∀ key ∉ ControlMessage.reserved, getField members key = view key

theorem Shows.sorted (order : String → String → Bool) (members : Members) (env : ControlEnvelope) (view : View)
    (shows : Shows members env view) :
    Shows (sortMembers order members) env fun key => (view key).map (sortKeys order) where
  seq := by
    rw [getField_sortMembers,shows.seq]
    rfl
  hasAck := by rw [hasField_sortMembers,shows.hasAck]
  ack := by
    rw [getField_sortMembers,shows.ack]
    cases env.ack <;> rfl
  tag := by
    rw [getField_sortMembers,shows.tag]
    rfl
  body key outside := by rw [getField_sortMembers,shows.body key outside]

theorem optionalField_of_shows (members : Members) (env : ControlEnvelope) (view : View)
    (shows : Shows members env view) : optionalField members "ack" = some env.ack := by
  have present := shows.hasAck
  have found := shows.ack
  cases asked : env.ack with
  | none =>
    rw [asked] at present
    simp [optionalField,present]
  | some ack =>
    rw [asked] at present found
    simp only [optionalField,present,found,Option.isSome_some,if_true,Option.map_some,u64_ofJson]

theorem ofJson_of_shows (members : Members) (env : ControlEnvelope) (view : View)
    (shows : Shows members env view) (reads : ControlMessage.ofTag env.body.tag view = some env.body) :
    ofJson (.obj members) = some env := by
  have collected : ∀ key ∉ ["seq","ack"],
      getField (members.filter fun member => member.1 ∉ ["seq","ack"]) key = getField members key := by
    intro key outside
    exact getField_filter members (fun name => decide (name ∉ ["seq","ack"])) key (decide_eq_true outside)
  have content : ControlMessage.ofTag env.body.tag (getField ((members.filter fun member =>
      member.1 ∉ ["seq","ack"]).filter fun member => member.1 ≠ "t")) = some env.body := by
    rw [← reads]
    apply ControlMessage.ofTag_beside
    intro key outside
    have apart : key ∉ ["seq","ack"] ∧ key ≠ "t" := by
      simpa [ControlMessage.reserved,and_assoc] using outside
    rw [getField_filter _ (fun name => decide (name ≠ "t")) key (decide_eq_true apart.2),
      collected key apart.1,shows.body key outside]
  have seq := readField_found _ "seq" u64 _ shows.seq
  have ack := optionalField_of_shows members env view shows
  have tag := readField_found _ "t" string _ ((collected "t" (by decide)).trans shows.tag)
  have tagRead : string.ofJson (.str env.body.tag) = some env.body.tag := rfl
  simp only [ofJson,seq,ack,tag,u64_ofJson,tagRead,bind,Option.bind_some,content]
  rfl

theorem toJson_shows (env : ControlEnvelope) :
    ∃ members, env.toJson = .obj members ∧ Shows members env (getField env.body.members) := by
  have noSeq := env.body.members_filter "seq" (by decide)
  have noAck := env.body.members_filter "ack" (by decide)
  have noTag := env.body.members_filter "t" (by decide)
  have noAckField := env.body.members_hasField "ack" (by decide)
  refine ⟨_,rfl,?_,?_,?_,?_,?_⟩
  · cases env.ack <;> simp [getField,noSeq,u64_toJson]
  · cases env.ack with
    | none => simpa [hasField] using noAckField
    | some ack => simp [hasField]
  · cases env.ack <;> simp [getField,noAck,u64_toJson]
  · cases env.ack <;> simp [getField,noTag]
  · intro key outside
    simp only [ControlMessage.reserved,List.mem_cons,List.not_mem_nil,or_false,not_or] at outside
    obtain ⟨notSeq,notAck,notTag⟩ := outside
    cases env.ack <;> simp [getField,Ne.symm notSeq,Ne.symm notAck,Ne.symm notTag]

theorem ofJson_toJson (env : ControlEnvelope) (canonical : env.Canonical) (finite : env.Finite) :
    ofJson env.toJson = some env := by
  obtain ⟨members,written,shows⟩ := toJson_shows env
  rw [written]
  exact ofJson_of_shows members env _ shows (ControlMessage.ofTag_members env.body canonical finite)

/-- The whole catalogue survives its JSON: flattening hides no field of a body, and no
canonical capability is confused with another. -/
theorem control_json_round_trip :
    (∀ env : ControlEnvelope, env.Canonical → env.Finite → ofJson env.toJson = some env) ∧
    (∀ (body : ControlMessage), ∀ member ∈ body.members, member.1 ∉ ["seq","ack","t"]) ∧
    (∀ c : Capability, c.Canonical → Capability.fromStr c.asStr = c) ∧
    (∀ s : String, (Capability.fromStr s).asStr = s) :=
  ⟨ofJson_toJson,ControlMessage.members_beside,Capability.fromStr_asStr,Capability.asStr_fromStr⟩

def sampleHello : ControlEnvelope where
  seq := 1
  ack := some 9
  body := .hello ⟨1,"ClearCam-iOS/0.1.0",⟨"iPhone15,3","iOS 18.0"⟩,"sess-abc",[.hevc,.other "future_codec"]⟩

theorem control_json_round_trip_hello :
    sampleHello.Canonical ∧ sampleHello.Finite ∧ ofJson sampleHello.toJson = some sampleHello := by
  have canonical : sampleHello.Canonical := by
    simp [Canonical,sampleHello,ControlMessage.caps,Capability.Canonical]
  have finite : sampleHello.Finite := by simp [Finite,sampleHello,ControlMessage.floats]
  exact ⟨canonical,finite,control_json_round_trip.1 sampleHello canonical finite⟩

/-- A message of a type this catalogue does not have, as a later version would send it. -/
def UnknownType (json : Json) : Prop :=
  ∃ members seq tag, json = .obj members ∧ getField members "seq" = some (.int (UInt64.toNat seq)) ∧
    getField members "t" = some (.str tag) ∧ tag ∉ ControlMessage.knownTags

theorem ofJson_unknown (json : Json) (unknown : UnknownType json) : ofJson json = none := by
  obtain ⟨members,seq,tag,rfl,seqFound,tagFound,unknown⟩ := unknown
  have seqRead := readField_found _ "seq" u64 _ seqFound
  have collected : getField (members.filter fun member => member.1 ∉ ["seq","ack"]) "t" = some (.str tag) :=
    (getField_filter members (fun name => decide (name ∉ ["seq","ack"])) "t" (by decide)).trans tagFound
  have tagRead := readField_found _ "t" string _ collected
  have tagText : string.ofJson (.str tag) = some tag := rfl
  simp only [ofJson,seqRead,tagRead,u64_ofJson,tagText,bind,Option.bind_some,
    ControlMessage.ofTag_unknown tag _ unknown]
  cases optionalField members "ack" <;> rfl

end ControlEnvelope

end ClearCam.Protocol

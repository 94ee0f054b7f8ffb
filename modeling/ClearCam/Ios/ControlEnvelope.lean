import ClearCam.Ios.Catalogue
import ClearCam.Ios.Foundation

/-! `ControlEnvelope.encodeJSON` and `decodeJSON` of the phone, and their agreement with the
desktop's serde derives. `order` is the order that `.sortedKeys` sorts by. -/
namespace ClearCam.Ios
open ClearCam.Library ClearCam.Protocol Json Coder

namespace ControlMessage

def typeTag : ControlMessage → String
  | .hello _ => "HELLO"
  | .helloAck _ => "HELLO_ACK"
  | .auth _ => "AUTH"
  | .authOk _ => "AUTH_OK"
  | .mediaHello _ => "MEDIA_HELLO"
  | .bye _ => "BYE"
  | .error _ => "ERROR"
  | .deviceInfo _ => "DEVICE_INFO"
  | .cameraList _ => "CAMERA_LIST"
  | .setCamera _ => "SET_CAMERA"
  | .cameraState _ => "CAMERA_STATE"
  | .start _ => "START"
  | .stop => "STOP"
  | .setMode _ => "SET_MODE"
  | .modeApplied _ => "MODE_APPLIED"
  | .telemetry _ => "TELEMETRY"
  | .ping _ => "PING"
  | .pong _ => "PONG"
  | .speedtestStart _ => "SPEEDTEST_START"
  | .speedtestTick _ => "SPEEDTEST_TICK"
  | .speedtestResult _ => "SPEEDTEST_RESULT"

def fields : ControlMessage → Members
  | .hello v => Codable.hello.toMembers v
  | .helloAck v => Codable.helloAck.toMembers v
  | .auth v => Codable.auth.toMembers v
  | .authOk v => Codable.authOk.toMembers v
  | .mediaHello v => Codable.mediaHello.toMembers v
  | .bye v => Codable.bye.toMembers v
  | .error v => Codable.errorMsg.toMembers v
  | .deviceInfo v => Codable.deviceInfo.toMembers v
  | .cameraList v => Codable.cameraList.toMembers v
  | .setCamera v => Codable.setCamera.toMembers v
  | .cameraState v => Codable.cameraState.toMembers v
  | .start v => Codable.start.toMembers v
  | .stop => Codable.stop.toMembers ()
  | .setMode v => Codable.setMode.toMembers v
  | .modeApplied v => Codable.modeApplied.toMembers v
  | .telemetry v => Codable.telemetry.toMembers v
  | .ping v => Codable.ping.toMembers v
  | .pong v => Codable.pong.toMembers v
  | .speedtestStart v => Codable.speedtestStart.toMembers v
  | .speedtestTick v => Codable.speedtestTick.toMembers v
  | .speedtestResult v => Codable.speedtestResult.toMembers v

end ControlMessage

/-- The errors of `decodeJSON`: its own, and those of `JSONDecoder`. -/
inductive ControlEnvelopeError where
  | notAnObject
  | missingTag
  | unknownType (tag : String)
  | decoding
  deriving DecidableEq

/-- `make(try dec.decode(..))`. -/
def decoded {α : Type} (fields : Record α) (make : α → ControlMessage) (view : View) :
    Except ControlEnvelopeError ControlMessage :=
  match fields.ofView view with
  | some v => .ok (make v)
  | none => .error .decoding

def decodeBody (t : String) (view : View) : Except ControlEnvelopeError ControlMessage :=
  match t with
  | "HELLO" => decoded Codable.hello .hello view
  | "HELLO_ACK" => decoded Codable.helloAck .helloAck view
  | "AUTH" => decoded Codable.auth .auth view
  | "AUTH_OK" => decoded Codable.authOk .authOk view
  | "MEDIA_HELLO" => decoded Codable.mediaHello .mediaHello view
  | "BYE" => decoded Codable.bye .bye view
  | "ERROR" => decoded Codable.errorMsg .error view
  | "DEVICE_INFO" => decoded Codable.deviceInfo .deviceInfo view
  | "CAMERA_LIST" => decoded Codable.cameraList .cameraList view
  | "SET_CAMERA" => decoded Codable.setCamera .setCamera view
  | "CAMERA_STATE" => decoded Codable.cameraState .cameraState view
  | "START" => decoded Codable.start .start view
  | "STOP" => decoded Codable.stop (fun _ => .stop) view
  | "SET_MODE" => decoded Codable.setMode .setMode view
  | "MODE_APPLIED" => decoded Codable.modeApplied .modeApplied view
  | "TELEMETRY" => decoded Codable.telemetry .telemetry view
  | "PING" => decoded Codable.ping .ping view
  | "PONG" => decoded Codable.pong .pong view
  | "SPEEDTEST_START" => decoded Codable.speedtestStart .speedtestStart view
  | "SPEEDTEST_TICK" => decoded Codable.speedtestTick .speedtestTick view
  | "SPEEDTEST_RESULT" => decoded Codable.speedtestResult .speedtestResult view
  | _ => .error (.unknownType t)

namespace ControlEnvelope

/-- `dict[key] = value`. -/
def setValue (dict : Members) (key : String) (value : Json) : Members :=
  (dict.filter fun member => member.1 ≠ key) ++ [(key,value)]

/-- `JSONEncoder` throws on a number that is not finite. -/
def bodyDict (body : ControlMessage) : Option Members :=
  if body.floats.all Float.isFinite then some (ControlMessage.fields body) else none

def encodeJSON (order : String → String → Bool) (env : ControlEnvelope) : Option Json := do
  let dict ← bodyDict env.body
  let dict := setValue dict "t" (.str (ControlMessage.typeTag env.body))
  let dict := setValue dict "seq" (.int env.seq.toNat)
  let dict := match env.ack with
    | some ack => setValue dict "ack" (.int ack.toNat)
    | none => dict
  return sortKeys order (.obj dict)

/-- The outer `none` is the trap of `UInt64(v)` on a negative number. -/
def readUInt64 : Option Json → Option (Option UInt64)
  | none => some none
  | some any =>
    match NSNumber.asUInt64 any with
    | some v => some (some v)
    | none =>
      match NSNumber.asInt64 any with
      | some v => (uint64 v).map some
      | none =>
        match NSNumber.asInt any with
        | some v => (uint64 v).map some
        | none => some (NSNumber.uint64Value any)

def decodeJSON (order : String → String → Bool) (json : Json) :
    ExceptT ControlEnvelopeError Option ControlEnvelope := do
  let .obj dict := json | throw .notAnObject
  let some (.str t) := getField dict "t" | throw .missingTag
  let seq := (← readUInt64 (getField dict "seq")).getD 0
  let ack ← readUInt64 (getField dict "ack")
  let bodyDict := dict.filter fun member => member.1 ≠ "t"
  let bodyDict := bodyDict.filter fun member => member.1 ≠ "seq"
  let bodyDict := bodyDict.filter fun member => member.1 ≠ "ack"
  let bodyData := sortMembers order bodyDict
  let body ← ExceptT.mk (some (decodeBody t (getField bodyData)))
  return ⟨seq,ack,body⟩

end ControlEnvelope

open Protocol.ControlMessage (reserved)

theorem decoded_beside {α : Type} (fields : Record α) (make : α → ControlMessage) (view other : View)
    (avoids : ∀ key ∈ fields.keys, key ∉ reserved) (same : ∀ key ∉ reserved, view key = other key) :
    decoded fields make view = decoded fields make other := by
  rw [decoded,decoded,fields.ofView_beside reserved view other avoids same]

theorem decoded_toMembers {α : Type} (fields : Record α) (make : α → ControlMessage) (v : α)
    (valid : fields.Valid v) : decoded fields make (getField (fields.toMembers v)) = .ok (make v) := by
  rw [decoded,fields.ofView_toMembers v valid]

theorem decodeBody_beside (t : String) (view other : View) (same : ∀ key ∉ reserved, view key = other key) :
    decodeBody t view = decodeBody t other := by
  unfold decodeBody
  split
  all_goals first
    | rfl
    | exact decoded_beside _ _ view other (by decide) same

theorem decodeBody_sorted (t : String) (order : String → String → Bool) (view : View) :
    decodeBody t (fun key => (view key).map (sortKeys order)) = decodeBody t view := by
  simp only [decodeBody,decoded,Record.ofView_sorted]

theorem typeTag_eq (body : ControlMessage) : ControlMessage.typeTag body = body.tag := by
  cases body <;> rfl

theorem double_toJson (value : Float) (finite : value.isFinite = true) :
    Derive.f64.toJson value = Codable.double.toJson value :=
  if_pos finite

/-- The two catalogues write the same members for every body. -/
theorem fields_eq (body : ControlMessage) (finite : ∀ x ∈ body.floats, x.isFinite = true) :
    ControlMessage.fields body = body.members := by
  cases body with
  | deviceInfo v =>
    have level := double_toJson v.batteryLevel (finite _ List.mem_cons_self)
    simp only [ControlMessage.members,Derive.deviceInfo,Record.as,Record.cons,level]
    rfl
  | telemetry v =>
    have level := double_toJson v.batteryLevel (finite _ List.mem_cons_self)
    simp only [ControlMessage.members,Derive.telemetry,Record.as,Record.cons,level]
    rfl
  | speedtestResult v =>
    have goodput := double_toJson v.goodputMbps (finite _ (by simp [Protocol.ControlMessage.floats]))
    have rtt := double_toJson v.rttMs (finite _ (by simp [Protocol.ControlMessage.floats]))
    have jitter := double_toJson v.jitterMs (finite _ (by simp [Protocol.ControlMessage.floats]))
    have loss := double_toJson v.lossPct (finite _ (by simp [Protocol.ControlMessage.floats]))
    simp only [ControlMessage.members,Derive.speedtestResult,Record.as,Record.cons,goodput,rtt,jitter,loss]
    rfl
  | _ => rfl

theorem decodeBody_fields (body : ControlMessage) (canonical : ∀ c ∈ body.caps, c.Canonical) :
    decodeBody (ControlMessage.typeTag body) (getField (ControlMessage.fields body)) = .ok body := by
  cases body with
  | hello v =>
    have valid : Codable.hello.Valid v := by
      simpa [Codable.hello,Codable.deviceIdent,Protocol.ControlMessage.caps] using canonical
    exact decoded_toMembers Codable.hello .hello v valid
  | helloAck v =>
    have valid : Codable.helloAck.Valid v := by
      simpa [Codable.helloAck,Protocol.ControlMessage.caps] using canonical
    exact decoded_toMembers Codable.helloAck .helloAck v valid
  | auth v => exact decoded_toMembers Codable.auth .auth v trivial
  | authOk v => exact decoded_toMembers Codable.authOk .authOk v (by simp [Codable.authOk])
  | mediaHello v => exact decoded_toMembers Codable.mediaHello .mediaHello v (by simp [Codable.mediaHello])
  | bye v => exact decoded_toMembers Codable.bye .bye v (by simp [Codable.bye])
  | error v =>
    exact decoded_toMembers Codable.errorMsg .error v (by simp [Codable.errorMsg,Codable.errorCode])
  | deviceInfo v =>
    have valid : Codable.deviceInfo.Valid v := by
      simp [Codable.deviceInfo,Codable.batteryState,Codable.thermalState]
    exact decoded_toMembers Codable.deviceInfo .deviceInfo v valid
  | cameraList v =>
    have valid : Codable.cameraList.Valid v := by
      simp [Codable.cameraList,Codable.cameraEntry,Codable.cameraPosition]
    exact decoded_toMembers Codable.cameraList .cameraList v valid
  | setCamera v => exact decoded_toMembers Codable.setCamera .setCamera v (by simp [Codable.setCamera])
  | cameraState v => exact decoded_toMembers Codable.cameraState .cameraState v (by simp [Codable.cameraState])
  | start v => exact decoded_toMembers Codable.start .start v (by simp [Codable.start])
  | stop => rfl
  | setMode v => exact decoded_toMembers Codable.setMode .setMode v (by simp [Codable.setMode])
  | modeApplied v => exact decoded_toMembers Codable.modeApplied .modeApplied v (by simp [Codable.modeApplied])
  | telemetry v =>
    have valid : Codable.telemetry.Valid v := by
      simp [Codable.telemetry,Codable.batteryState,Codable.thermalState]
    exact decoded_toMembers Codable.telemetry .telemetry v valid
  | ping v => exact decoded_toMembers Codable.ping .ping v (by simp [Codable.ping])
  | pong v => exact decoded_toMembers Codable.pong .pong v (by simp [Codable.pong])
  | speedtestStart v =>
    have valid : Codable.speedtestStart.Valid v := by simp [Codable.speedtestStart,Codable.speedtestPattern]
    exact decoded_toMembers Codable.speedtestStart .speedtestStart v valid
  | speedtestTick v =>
    exact decoded_toMembers Codable.speedtestTick .speedtestTick v (by simp [Codable.speedtestTick])
  | speedtestResult v =>
    exact decoded_toMembers Codable.speedtestResult .speedtestResult v (by simp [Codable.speedtestResult])

namespace ControlEnvelope

open Protocol.ControlEnvelope (Shows)

theorem getField_setValue (dict : Members) (key other : String) (value : Json) :
    getField (setValue dict key value) other = if other = key then some value else getField dict other := by
  by_cases same : other = key
  · subst same
    simp [getField,setValue,List.filter_append,List.filter_filter]
  · have apart : ∀ member ∈ [(key,value)], member.1 ≠ other := by
      intro member inside
      rw [List.mem_singleton.mp inside]
      exact Ne.symm same
    rw [if_neg same,setValue,getField_append_absent _ _ _ apart]
    exact getField_filter dict (fun name => decide (name ≠ key)) other (decide_eq_true same)

theorem hasField_setValue (dict : Members) (key other : String) (value : Json) :
    hasField (setValue dict key value) other = (decide (other = key) || hasField dict other) := by
  by_cases same : other = key
  · simp [hasField,setValue,same]
  · have kept : ∀ member : String × Json, (decide (member.1 ≠ key) && decide (member.1 = other)) =
        decide (member.1 = other) := by
      intro member
      by_cases found : member.1 = other
      · simp [found,same]
      · simp [found]
    have last : decide (key = other) = false := decide_eq_false (Ne.symm same)
    simp only [hasField,setValue,List.any_append,List.any_filter,kept,List.any_cons,List.any_nil,last,
      Bool.or_false,decide_eq_false same,Bool.false_or]

def encodedDict (env : ControlEnvelope) : Members :=
  let dict := setValue (ControlMessage.fields env.body) "t" (.str (ControlMessage.typeTag env.body))
  let dict := setValue dict "seq" (.int env.seq.toNat)
  match env.ack with
  | some ack => setValue dict "ack" (.int ack.toNat)
  | none => dict

theorem encodedDict_shows (env : ControlEnvelope) (finite : env.Finite) :
    Shows (encodedDict env) env (getField env.body.members) := by
  have noAck : getField env.body.members "ack" = none := by
    rw [getField,env.body.members_filter "ack" (by decide)]
  have noAckField := env.body.members_hasField "ack" (by decide)
  unfold encodedDict
  rw [fields_eq env.body finite,typeTag_eq]
  refine ⟨?_,?_,?_,?_,?_⟩
  · cases env.ack <;> simp [getField_setValue]
  · cases env.ack <;> simp [hasField_setValue,noAckField]
  · cases env.ack <;> simp [getField_setValue,noAck]
  · cases env.ack <;> simp [getField_setValue]
  · intro key outside
    simp only [reserved,List.mem_cons,List.not_mem_nil,or_false,not_or] at outside
    obtain ⟨notSeq,notAck,notTag⟩ := outside
    cases env.ack <;> simp [getField_setValue,notSeq,notAck,notTag]

theorem encodeJSON_eq (order : String → String → Bool) (env : ControlEnvelope) (finite : env.Finite) :
    encodeJSON order env = some (.obj (sortMembers order (encodedDict env))) := by
  have encodable : bodyDict env.body = some (ControlMessage.fields env.body) :=
    if_pos (List.all_eq_true.mpr finite)
  rw [encodeJSON,encodable]
  rfl

theorem readUInt64_int (value : UInt64) : readUInt64 (some (.int value.toNat)) = some (some value) := by
  rw [readUInt64,NSNumber.asUInt64_int]

theorem decodeJSON_of_shows (order : String → String → Bool) (members : Members) (env : ControlEnvelope)
    (view : View) (shows : Shows members env view)
    (reads : decodeBody env.body.tag view = .ok env.body) :
    (decodeJSON order (.obj members)).run = some (.ok env) := by
  have seq : readUInt64 (getField members "seq") = some (some env.seq) := by
    rw [shows.seq,readUInt64_int]
  have ack : readUInt64 (getField members "ack") = some env.ack := by
    rw [shows.ack]
    cases env.ack with
    | none => rfl
    | some ack => exact readUInt64_int ack
  have body : decodeBody env.body.tag (getField (sortMembers order (((members.filter fun member =>
      member.1 ≠ "t").filter fun member => member.1 ≠ "seq").filter fun member => member.1 ≠ "ack"))) =
      .ok env.body := by
    rw [← reads,← decodeBody_sorted env.body.tag order view]
    apply decodeBody_beside
    intro key outside
    rw [getField_sortMembers]
    congr 1
    have apart := outside
    simp only [reserved,List.mem_cons,List.not_mem_nil,or_false,not_or] at apart
    obtain ⟨notSeq,notAck,notTag⟩ := apart
    rw [getField_filter _ (fun name => decide (name ≠ "ack")) key (decide_eq_true notAck),
      getField_filter _ (fun name => decide (name ≠ "seq")) key (decide_eq_true notSeq),
      getField_filter _ (fun name => decide (name ≠ "t")) key (decide_eq_true notTag),shows.body key outside]
  simp only [decodeJSON,shows.tag,seq,ack,body]
  rfl

/-- Whichever side writes an envelope, the other reads the same envelope. -/
theorem languages_interoperate (env : ControlEnvelope) (canonical : env.Canonical) (finite : env.Finite) :
    (∀ order, ∃ json, encodeJSON order env = some json ∧ Protocol.ControlEnvelope.ofJson json = some env) ∧
    (∀ order, (decodeJSON order env.toJson).run = some (.ok env)) := by
  constructor
  · intro order
    refine ⟨_,encodeJSON_eq order env finite,?_⟩
    apply Protocol.ControlEnvelope.ofJson_of_shows _ env _
      ((encodedDict_shows env finite).sorted order)
    rw [Protocol.ControlMessage.ofTag_sorted]
    exact Protocol.ControlMessage.ofTag_members env.body canonical finite
  · intro order
    obtain ⟨members,written,shows⟩ := Protocol.ControlEnvelope.toJson_shows env
    rw [written]
    apply decodeJSON_of_shows order members env _ shows
    rw [← fields_eq env.body finite,← typeTag_eq]
    exact decodeBody_fields env.body canonical

theorem languages_interoperate_auth :
    (⟨3,none,.auth (.pairingKey "AA==")⟩ : ControlEnvelope).Canonical ∧
    (⟨3,none,.auth (.pairingKey "AA==")⟩ : ControlEnvelope).Finite ∧
    (∃ json, encodeJSON (fun a b => a ≤ b) ⟨3,none,.auth (.pairingKey "AA==")⟩ = some json ∧
      Protocol.ControlEnvelope.ofJson json = some ⟨3,none,.auth (.pairingKey "AA==")⟩) ∧
    (decodeJSON (fun a b => a ≤ b) (⟨3,none,.auth (.pairingKey "AA==")⟩ : ControlEnvelope).toJson).run =
      some (.ok ⟨3,none,.auth (.pairingKey "AA==")⟩) := by
  have canonical : (⟨3,none,.auth (.pairingKey "AA==")⟩ : ControlEnvelope).Canonical := by
    intro c inside
    cases inside
  have finite : (⟨3,none,.auth (.pairingKey "AA==")⟩ : ControlEnvelope).Finite := by
    intro x inside
    cases inside
  obtain ⟨toDesktop,toPhone⟩ := languages_interoperate _ canonical finite
  exact ⟨canonical,finite,toDesktop _,toPhone _⟩

theorem readUInt64_traps_iff (any : Option Json) :
    readUInt64 any = none ↔ ∃ json, any = some json ∧ NSNumber.Negative json := by
  constructor
  · intro trap
    cases any with
    | none => cases trap
    | some json =>
      refine ⟨json,rfl,?_⟩
      by_contra notNegative
      cases wide : NSNumber.asUInt64 json with
      | some v => simp [readUInt64,wide] at trap
      | none =>
        have narrow := NSNumber.asInt64_of_not_negative json notNegative wide
        simp [readUInt64,wide,narrow,NSNumber.asInt] at trap
  · intro negative
    obtain ⟨json,rfl,negative⟩ := negative
    obtain ⟨value,cast,trap⟩ := NSNumber.asInt64_of_negative json negative
    simp only [readUInt64,NSNumber.asUInt64_none_of_negative json negative,cast,trap,Option.map_none]

/-- A tagged object whose `seq` or `ack` is a negative number that `Int64` holds. -/
def NegativeCounter (json : Json) : Prop :=
  ∃ dict t any, json = .obj dict ∧ getField dict "t" = some (.str t) ∧
    (getField dict "seq" = some any ∨ getField dict "ack" = some any) ∧ NSNumber.Negative any

/-- Past the tag, `decodeJSON` ends unless one of its two counters traps. -/
theorem decodeJSON_tagged (order : String → String → Bool) (dict : Members) (t : String)
    (tagged : getField dict "t" = some (.str t)) :
    (decodeJSON order (.obj dict)).run = none ↔
      readUInt64 (getField dict "seq") = none ∨ readUInt64 (getField dict "ack") = none := by
  simp only [decodeJSON,tagged]
  cases readUInt64 (getField dict "seq") with
  | none => exact ⟨fun _ => .inl rfl,fun _ => rfl⟩
  | some seq =>
    cases readUInt64 (getField dict "ack") with
    | none => exact ⟨fun _ => .inr rfl,fun _ => rfl⟩
    | some ack =>
      constructor
      · intro ended
        cases body : decodeBody t (getField (sortMembers order (((dict.filter fun member =>
            member.1 ≠ "t").filter fun member => member.1 ≠ "seq").filter fun member => member.1 ≠ "ack"))) with
        | error e => rw [body] at ended; cases ended
        | ok v => rw [body] at ended; cases ended
      · intro trap
        rcases trap with trap | trap <;> cases trap

theorem decodeJSON_returns_iff (order : String → String → Bool) (json : Json) :
    (∃ outcome, (decodeJSON order json).run = some outcome) ↔ ¬NegativeCounter json := by
  rw [← Option.ne_none_iff_exists',ne_eq,not_iff_not]
  constructor
  · intro crashed
    cases json with
    | obj dict =>
      cases tagged : getField dict "t" with
      | none => simp only [decodeJSON,tagged] at crashed; cases crashed
      | some tag =>
        cases tag with
        | str t =>
          rcases (decodeJSON_tagged order dict t tagged).mp crashed with trap | trap
          · obtain ⟨any,found,negative⟩ := (readUInt64_traps_iff _).mp trap
            exact ⟨dict,t,any,rfl,tagged,.inl found,negative⟩
          · obtain ⟨any,found,negative⟩ := (readUInt64_traps_iff _).mp trap
            exact ⟨dict,t,any,rfl,tagged,.inr found,negative⟩
        | _ => simp only [decodeJSON,tagged] at crashed; cases crashed
    | _ => cases crashed
  · intro negative
    obtain ⟨dict,t,any,rfl,tagged,found,negative⟩ := negative
    rw [decodeJSON_tagged order dict t tagged]
    rcases found with found | found
    · exact .inl ((readUInt64_traps_iff _).mpr ⟨any,found,negative⟩)
    · exact .inr ((readUInt64_traps_iff _).mpr ⟨any,found,negative⟩)

theorem stop_negative_ack : ¬∃ outcome, (decodeJSON (fun a b => a ≤ b)
    (.obj [("t",.str "STOP"),("seq",.int 1),("ack",.int (-1))])).run = some outcome := by
  intro returned
  obtain ⟨outcome,returned⟩ := returned
  have tagged : getField [("t",.str "STOP"),("seq",.int 1),("ack",.int (-1))] "t" = some (.str "STOP") := rfl
  have trap : readUInt64 (getField [("t",.str "STOP"),("seq",.int 1),("ack",.int (-1))] "ack") = none := rfl
  rw [(decodeJSON_tagged _ _ _ tagged).mpr (.inr trap)] at returned
  cases returned

/-- A whole number written with a fraction is held by `Int64` all the same. -/
example : readUInt64 (some (.real (-1.0))) = none ∧ readUInt64 (some (.real 2.0)) = some (some 2) := by decide +kernel

end ControlEnvelope

end ClearCam.Ios

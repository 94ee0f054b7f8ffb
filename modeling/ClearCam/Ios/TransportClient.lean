import ClearCam.Ios.SessionController

/-! From a scanned or typed pairing input to the phone's `TransportClient`. `Port` is the
`NWEndpoint.Port` of Apple's Network framework and `port` its `init?(rawValue:)`. -/
namespace ClearCam.Ios
open ClearCam.Library Json Coder Record

/-- Swift's `Int`. `JSONDecoder` takes a whole number however it is written, and no boolean. -/
def Codable.int : Coder Int64 where
  Valid _ := True
  toJson value := .int value.toInt
  ofJson
    | .bool _ => none
    | json => NSNumber.asInt json
  ofJson_toJson value _ := NSNumber.asInt64_int value
  ofJson_sortKeys order json := by cases json <;> simp [sortKeys,NSNumber.asInt,NSNumber.asInt64,NSNumber.wholeValue]

structure QRPayload where
  v : Int64
  host : String
  cport : Int64
  mport : Int64
  token : String
  deriving DecidableEq

namespace QRPayload

inductive DecodeError where
  | unsupportedVersion (v : Int64)
  | invalid
  | decoding (description : String)
  deriving DecidableEq

def supportedVersion : Int64 := 1

def fields : Record QRPayload :=
  (cons "v" Codable.int <| cons "host" string <| cons "cport" Codable.int <| cons "mport" Codable.int <|
    cons "token" string nil).as
    (fun p => (p.v,p.host,p.cport,p.mport,p.token,()))
    (fun (v,host,cport,mport,token,_) => ⟨v,host,cport,mport,token⟩) Eq.refl

/-- `json` is `none` where the data is no JSON, and `thrown` is what `JSONDecoder` then says. -/
def decode (thrown : String) (json : Option Json) : Except DecodeError QRPayload :=
  match json.bind fields.object.ofJson with
  | none => .error (.decoding thrown)
  | some p =>
    if p.v = supportedVersion then
      if p.host ≠ "" ∧ 0 < p.cport ∧ 0 < p.mport ∧ p.token ≠ "" then .ok p else .error .invalid
    else .error (.unsupportedVersion p.v)

theorem decode_ok (thrown : String) (json : Option Json) (p : QRPayload) (accepted : decode thrown json = .ok p) :
    p.v = supportedVersion ∧ p.host ≠ "" ∧ 0 < p.cport ∧ 0 < p.mport ∧ p.token ≠ "" := by
  unfold decode at accepted
  cases read : json.bind fields.object.ofJson with
  | none => rw [read] at accepted; cases accepted
  | some q =>
    simp only [read] at accepted
    split at accepted
    · rename_i version
      split at accepted
      · rename_i complete
        cases accepted
        exact ⟨version,complete⟩
      · cases accepted
    · cases accepted

theorem decode_toJson (thrown : String) (p : QRPayload) (version : p.v = supportedVersion)
    (complete : p.host ≠ "" ∧ 0 < p.cport ∧ 0 < p.mport ∧ p.token ≠ "") :
    decode thrown (some (fields.object.toJson p)) = .ok p := by
  have valid : fields.object.Valid p := by simp [fields,Codable.int]
  simp only [decode,Option.bind_some,fields.object.ofJson_toJson p valid,if_pos version,if_pos complete]

end QRPayload

/-- `UInt16(n)`, which traps when `n` does not fit. -/
def uint16 (n : Int64) : Option UInt16 :=
  if 0 ≤ n.toInt ∧ n.toInt < 2 ^ 16 then some (UInt16.ofNat n.toInt.toNat) else none

inductive TransportClientError where
  | invalidPort
  | io (description : String)
  | cancelled
  deriving DecidableEq

structure TransportClient (Port : Type) where
  host : String
  controlPort : Port
  mediaPort : Port

variable {Port : Type}

def TransportClient.init (port : UInt16 → Option Port) (host : String) (cport mport : Int64) :
    ExceptT TransportClientError Option (TransportClient Port) := do
  let some cp := port (← uint16 cport) | throw .invalidPort
  let some mp := port (← uint16 mport) | throw .invalidPort
  return ⟨host,cp,mp⟩

structure ConnectViewModel where
  state : SessionState
  payload : Option QRPayload
  sessionId : Option String
  error : Option String
  deriving DecidableEq

/-- What the calls of `connect` past the client return or throw, and how a thrown error prints. -/
structure ConnectCalls (Port : Type) where
  streams : TransportClient Port → Except String Unit
  session : Except String String
  camera : Except String Unit
  describe : TransportClientError → String
  describeDecode : QRPayload.DecodeError → String

namespace ConnectViewModel

def failed (vm : ConnectViewModel) (error : String) : ConnectViewModel :=
  { vm with error := some ("Ошибка: " ++ error), state := .stopped error }

/-- `none` stands for the crash of the app. -/
def connect (port : UInt16 → Option Port) (calls : ConnectCalls Port) (vm : ConnectViewModel)
    (payload : QRPayload) : Option ConnectViewModel :=
  let vm := { vm with payload := some payload, error := none, state := .connecting }
  (TransportClient.init port payload.host payload.cport payload.mport).run.map fun
    | .error error => vm.failed (calls.describe error)
    | .ok client =>
      match calls.streams client with
      | .error error => vm.failed error
      | .ok () =>
        let vm := { vm with state := .handshaking }
        match calls.session with
        | .error error => vm.failed error
        | .ok sid =>
          let vm := { vm with sessionId := some sid, state := .ready sid }
          match calls.camera with
          | .error error => vm.failed error
          | .ok () => vm

def acceptScannedPayload (port : UInt16 → Option Port) (calls : ConnectCalls Port) (vm : ConnectViewModel)
    (thrown : String) (data : Option Json) : Option ConnectViewModel :=
  match QRPayload.decode thrown data with
  | .ok p => vm.connect port calls p
  | .error error => some { vm with error := some ("QR: " ++ calls.describeDecode error) }

def acceptManual (port : UInt16 → Option Port) (calls : ConnectCalls Port) (vm : ConnectViewModel) (host : String)
    (cport mport : Int64) (token : String) : Option ConnectViewModel :=
  vm.connect port calls ⟨QRPayload.supportedVersion,host,cport,mport,token⟩

end ConnectViewModel

/-- A scanned code or a typed address, with the token beside it. -/
inductive PairingInput where
  | scanned (thrown : String) (data : Option Json)
  | manual (host : String) (cport mport : Int64) (token : String)

namespace PairingInput

def payload : PairingInput → Except QRPayload.DecodeError QRPayload
  | .scanned thrown data => QRPayload.decode thrown data
  | .manual host cport mport token => .ok ⟨QRPayload.supportedVersion,host,cport,mport,token⟩

def accept (port : UInt16 → Option Port) (calls : ConnectCalls Port) (vm : ConnectViewModel) :
    PairingInput → Option ConnectViewModel
  | .scanned thrown data => vm.acceptScannedPayload port calls thrown data
  | .manual host cport mport token => vm.acceptManual port calls host cport mport token

end PairingInput

def PortNumber (n : Int64) : Prop := 0 ≤ n.toInt ∧ n.toInt < 2 ^ 16

theorem uint16_of_portNumber (n : Int64) (inside : PortNumber n) :
    ∃ raw, uint16 n = some raw ∧ (raw.toNat : Int) = n.toInt := by
  refine ⟨UInt16.ofNat n.toInt.toNat,if_pos inside,?_⟩
  obtain ⟨least,most⟩ := inside
  have small : n.toInt.toNat < 2 ^ 16 := by omega
  rw [UInt16.toNat_ofNat_of_lt' small]
  omega

theorem uint16_traps_iff (n : Int64) : uint16 n = none ↔ ¬PortNumber n := by
  constructor
  · intro trap inside
    obtain ⟨raw,converted,_⟩ := uint16_of_portNumber n inside
    rw [converted] at trap
    cases trap
  · intro outside
    exact if_neg outside

/-- The client with exactly the given ports, or `invalidPort`. -/
def OpensOrRefuses (rawValue : Port → UInt16) (p : QRPayload)
    (outcome : Option (Except TransportClientError (TransportClient Port))) : Prop :=
  (∃ client, outcome = some (.ok client) ∧ client.host = p.host ∧
    ((rawValue client.controlPort).toNat : Int) = p.cport.toInt ∧
    ((rawValue client.mediaPort).toNat : Int) = p.mport.toInt) ∨
  outcome = some (.error .invalidPort)

theorem crash_not_opensOrRefuses (rawValue : Port → UInt16) (p : QRPayload) : ¬OpensOrRefuses rawValue p none := by
  intro ended
  rcases ended with opened | refused
  · obtain ⟨client,opened,_⟩ := opened
    cases opened
  · cases refused

/-- The ports that are converted are port numbers. The second is converted unless the first is refused. -/
def PortsConvert (port : UInt16 → Option Port) (p : QRPayload) : Prop :=
  PortNumber p.cport ∧ (PortNumber p.mport ∨ (uint16 p.cport).bind port = none)

theorem TransportClient.init_iff (port : UInt16 → Option Port) (rawValue : Port → UInt16)
    (lawful : ∀ raw p, port raw = some p → rawValue p = raw) (p : QRPayload) :
    OpensOrRefuses rawValue p (TransportClient.init port p.host p.cport p.mport).run ↔ PortsConvert port p := by
  by_cases control : PortNumber p.cport
  · obtain ⟨rawControl,convertedControl,sameControl⟩ := uint16_of_portNumber p.cport control
    cases foundControl : port rawControl with
    | none =>
      have refused : (TransportClient.init port p.host p.cport p.mport).run = some (.error .invalidPort) := by
        simp only [TransportClient.init,convertedControl,bind_some_lift,foundControl]
        rfl
      rw [refused]
      refine ⟨fun _ => ⟨control,.inr ?_⟩,fun _ => .inr rfl⟩
      rw [convertedControl,Option.bind_some,foundControl]
    | some cp =>
      by_cases media : PortNumber p.mport
      · refine ⟨fun _ => ⟨control,.inl media⟩,fun _ => ?_⟩
        obtain ⟨rawMedia,convertedMedia,sameMedia⟩ := uint16_of_portNumber p.mport media
        cases foundMedia : port rawMedia with
        | none =>
          refine .inr ?_
          simp only [TransportClient.init,convertedControl,convertedMedia,bind_some_lift,foundControl,foundMedia]
          rfl
        | some mp =>
          refine .inl ⟨⟨p.host,cp,mp⟩,?_,rfl,?_,?_⟩
          · simp only [TransportClient.init,convertedControl,convertedMedia,bind_some_lift,foundControl,foundMedia]
            rfl
          · rw [lawful rawControl cp foundControl,sameControl]
          · rw [lawful rawMedia mp foundMedia,sameMedia]
      · have trap := (uint16_traps_iff p.mport).mpr media
        have crashed : (TransportClient.init port p.host p.cport p.mport).run = none := by
          simp only [TransportClient.init,convertedControl,bind_some_lift,foundControl,trap]
          rfl
        rw [crashed]
        constructor
        · intro ended
          exact absurd ended (crash_not_opensOrRefuses rawValue p)
        · intro converts
          rcases converts.2 with inside | refused
          · exact absurd inside media
          · rw [convertedControl,Option.bind_some,foundControl] at refused
            cases refused
  · have trap := (uint16_traps_iff p.cport).mpr control
    have crashed : (TransportClient.init port p.host p.cport p.mport).run = none := by
      simp only [TransportClient.init,trap]
      rfl
    rw [crashed]
    exact iff_of_false (crash_not_opensOrRefuses rawValue p) (fun converts => control converts.1)

/-- The app crashes on an input exactly where the client's initializer traps on its payload. -/
theorem PairingInput.accept_crashes_iff (port : UInt16 → Option Port) (calls : ConnectCalls Port)
    (vm : ConnectViewModel) (input : PairingInput) :
    input.accept port calls vm = none ↔
      ∃ p, input.payload = .ok p ∧ (TransportClient.init port p.host p.cport p.mport).run = none := by
  have connects : ∀ p, vm.connect port calls p = none ↔
      (TransportClient.init port p.host p.cport p.mport).run = none := by
    intro p
    exact Option.map_eq_none_iff
  cases input with
  | scanned thrown data =>
    cases decoded : QRPayload.decode thrown data with
    | error error => simp [accept,payload,ConnectViewModel.acceptScannedPayload,decoded]
    | ok p =>
      simp only [accept,payload,ConnectViewModel.acceptScannedPayload,decoded,Except.ok.injEq,exists_eq_left']
      exact connects p
  | manual host cport mport token =>
    simp only [accept,payload,Except.ok.injEq,exists_eq_left']
    exact connects _

/-- Each accepted input opens or is refused exactly where its ports convert. -/
theorem pairing_input_opens_iff (port : UInt16 → Option Port) (rawValue : Port → UInt16)
    (lawful : ∀ raw p, port raw = some p → rawValue p = raw) (input : PairingInput) (p : QRPayload)
    (accepted : input.payload = .ok p) :
    (OpensOrRefuses rawValue p (TransportClient.init port p.host p.cport p.mport).run ∧
      ∀ calls vm, input.accept port calls vm ≠ none) ↔ PortsConvert port p := by
  rw [← TransportClient.init_iff port rawValue lawful p]
  refine ⟨And.left,fun ended => ⟨ended,?_⟩⟩
  intro calls vm crash
  obtain ⟨q,same,crashed⟩ := (input.accept_crashes_iff port calls vm).mp crash
  rw [accepted] at same
  cases same
  rw [crashed] at ended
  exact crash_not_opensOrRefuses rawValue p ended

theorem pairing_input_opens_desktop :
    (∀ raw p : UInt16, some raw = some p → id p = raw) ∧
    (PairingInput.manual "192.168.1.42" 7000 7001 "abc").payload = .ok ⟨1,"192.168.1.42",7000,7001,"abc"⟩ ∧
    ((OpensOrRefuses id ⟨1,"192.168.1.42",7000,7001,"abc"⟩
        (TransportClient.init some "192.168.1.42" 7000 7001).run ∧
      ∀ calls vm, (PairingInput.manual "192.168.1.42" 7000 7001 "abc").accept some calls vm ≠ none) ↔
      PortsConvert some ⟨1,"192.168.1.42",7000,7001,"abc"⟩) := by
  have lawful : ∀ raw p : UInt16, some raw = some p → id p = raw := by
    intro raw p same
    cases same
    rfl
  have accepted : (PairingInput.manual "192.168.1.42" 7000 7001 "abc").payload =
      .ok ⟨1,"192.168.1.42",7000,7001,"abc"⟩ := rfl
  exact ⟨lawful,accepted,pairing_input_opens_iff some id lawful _ _ accepted⟩

/-- The decoder passes a port that the initializer cannot convert. -/
theorem scanned_port_traps : ∃ p,
    (PairingInput.scanned "" (some (.obj [("v",.int 1),("host",.str "192.168.1.42"),("cport",.int 70000),
      ("mport",.int 7001),("token",.str "abc")]))).payload = .ok p ∧
    ¬OpensOrRefuses id p (TransportClient.init some p.host p.cport p.mport).run := by
  refine ⟨⟨1,"192.168.1.42",70000,7001,"abc"⟩,by decide,?_⟩
  rw [TransportClient.init_iff some id (by intro raw p same; cases same; rfl)]
  intro converts
  exact absurd converts.1 (by unfold PortNumber; decide)

end ClearCam.Ios

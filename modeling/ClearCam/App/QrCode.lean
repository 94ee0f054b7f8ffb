import ClearCam.App.Completion
import ClearCam.App.Token
import ClearCam.Ios.TransportClient

/-! From the code on the desktop's screen to a session: what `start_server` shows is what the phone
decodes, dials and presents. -/
namespace ClearCam.App
open ClearCam.Library ClearCam.Ios ClearCam.Session ClearCam.Protocol

/-- `AppHandle::qr`. -/
structure QrPayload where
  v : UInt32
  host : String
  cport : UInt16
  mport : UInt16
  token : String
  deriving DecidableEq

namespace QrPayload

/-- The `payload_json` of `start_server`; the keys may be written in any order. -/
def payloadJson (order : String → String → Bool) (qr : QrPayload) : Json :=
  Json.sortKeys order (.obj [("v",.int qr.v.toNat),("host",.str qr.host),("cport",.int qr.cport.toNat),
    ("mport",.int qr.mport.toNat),("token",.str qr.token)])

/-- The same payload in the phone's types. -/
def scanned (qr : QrPayload) : QRPayload :=
  ⟨.ofNat qr.v.toNat,qr.host,.ofNat qr.cport.toNat,.ofNat qr.mport.toNat,qr.token⟩

end QrPayload

/-- The payload of `AppCore::start`, by what was bound and drawn. -/
def startPayload (host : String) (cport mport : UInt16) (tokenBytes : List UInt8) : QrPayload :=
  ⟨1,host,cport,mport,base64Url tokenBytes⟩

theorem int64_ofNat (n : Nat) (small : n < 2 ^ 63) : (Int64.ofNat n).toInt = n := by
  rw [Int64.toInt_ofNat_of_lt small]

theorem QrPayload.scanned_json (order : String → String → Bool) (qr : QrPayload) :
    QRPayload.fields.object.ofJson (qr.payloadJson order) = some qr.scanned := by
  have version : (Int64.ofNat qr.v.toNat).toInt = qr.v.toNat := int64_ofNat _ (by have := qr.v.toNat_lt; omega)
  have control : (Int64.ofNat qr.cport.toNat).toInt = qr.cport.toNat :=
    int64_ofNat _ (by have := qr.cport.toNat_lt; omega)
  have media : (Int64.ofNat qr.mport.toNat).toInt = qr.mport.toNat :=
    int64_ofNat _ (by have := qr.mport.toNat_lt; omega)
  have written : QRPayload.fields.object.toJson qr.scanned = .obj [("v",.int qr.v.toNat),("host",.str qr.host),
      ("cport",.int qr.cport.toNat),("mport",.int qr.mport.toNat),("token",.str qr.token)] := by
    rw [← version,← control,← media]
    rfl
  rw [payloadJson,QRPayload.fields.object.ofJson_sortKeys,← written]
  exact QRPayload.fields.object.ofJson_toJson qr.scanned (by simp [QRPayload.fields,Codable.int])

theorem pos_ofNat (n : Nat) (small : n < 2 ^ 16) (positive : n ≠ 0) : 0 < Int64.ofNat n := by
  rw [Int64.lt_iff_toInt_lt,int64_ofNat n (by omega),Int64.toInt_zero]
  omega

theorem uint16_ofNat (raw : UInt16) : uint16 (.ofNat raw.toNat) = some raw := by
  have small := raw.toNat_lt
  have value := int64_ofNat raw.toNat (by omega)
  rw [uint16,if_pos (by rw [value]; omega),value,Int.toNat_natCast,UInt16.ofNat_toNat]

theorem base64Url_ne_empty (bytes : List UInt8) (drawn : bytes ≠ []) : base64Url bytes ≠ "" := by
  intro empty
  have length : (base64Url bytes).length = (4 * bytes.length + 2) / 3 := by
    rw [base64Url_eq]
    exact Base64.encode_length urlAlphabet bytes
  have some_bytes := List.length_pos_of_ne_nil drawn
  rw [empty,String.length_empty] at length
  omega

theorem base64Url_inj (a b : List UInt8) : base64Url a = base64Url b ↔ a = b := by
  rw [base64Url_eq,base64Url_eq]
  exact (Base64.encode_injective urlAlphabet urlAlphabet_injective).eq_iff

theorem startPayload_decodes (order : String → String → Bool) (thrown host : String) (cport mport : UInt16)
    (tokenBytes : List UInt8) (named : host ≠ "") (bound : cport ≠ 0 ∧ mport ≠ 0) (drawn : tokenBytes ≠ []) :
    QRPayload.decode thrown (some ((startPayload host cport mport tokenBytes).payloadJson order)) =
      .ok (startPayload host cport mport tokenBytes).scanned := by
  have positive (raw : UInt16) (used : raw ≠ 0) : 0 < Int64.ofNat raw.toNat :=
    pos_ofNat raw.toNat raw.toNat_lt fun zero => used (UInt16.toNat_inj.mp zero)
  have complete : (startPayload host cport mport tokenBytes).scanned.host ≠ "" ∧
      0 < (startPayload host cport mport tokenBytes).scanned.cport ∧
      0 < (startPayload host cport mport tokenBytes).scanned.mport ∧
      (startPayload host cport mport tokenBytes).scanned.token ≠ "" :=
    ⟨named,positive cport bound.1,positive mport bound.2,base64Url_ne_empty tokenBytes drawn⟩
  have version : (startPayload host cport mport tokenBytes).scanned.v = QRPayload.supportedVersion := rfl
  simp only [QRPayload.decode,Option.bind_some,QrPayload.scanned_json,if_pos version,if_pos complete]

/-- A code decodes to the host and the ports of the desktop that shows it, and the phone that scanned it
gets a session from a desktop, wherever their handshake ends, just when that desktop drew the token. -/
theorem scanned_code_connects {Port : Type} (port : UInt16 → Option Port) (rawValue : Port → UInt16)
    (lawful : ∀ raw p, port raw = some p → rawValue p = raw) (opens : ∀ raw, raw ≠ 0 → port raw ≠ none)
    (order : String → String → Bool) (thrown host : String) (cport mport : UInt16) (tokenBytes : List UInt8)
    (named : host ≠ "") (bound : cport ≠ 0 ∧ mport ≠ 0) (drawn : tokenBytes.length = 24) :
    ∃ p client, QRPayload.decode thrown (some ((startPayload host cport mport tokenBytes).payloadJson order)) = .ok p ∧
      (TransportClient.init port p.host p.cport p.mport).run = some (.ok client) ∧ client.host = host ∧
      rawValue client.controlPort = cport ∧ rawValue client.mediaPort = mport ∧
      ∀ launch otherBytes serverCaps uuid turns link, (∀ turn ∈ turns, Lossless turn) →
        exec (Conversation.step (presenting launch (.token p.token)) ⟨.wifi,base64Url otherBytes,serverCaps,uuid⟩)
          (Conversation.start (presenting launch (.token p.token))) turns = some link →
        (∀ turn, Lossless turn → Conversation.step (presenting launch (.token p.token))
          ⟨.wifi,base64Url otherBytes,serverCaps,uuid⟩ link turn = none) →
        (link.left.state = .ready ("sess-" ++ uuid) ↔ otherBytes = tokenBytes) := by
  obtain ⟨control,foundControl⟩ := Option.ne_none_iff_exists'.mp (opens cport bound.1)
  obtain ⟨media,foundMedia⟩ := Option.ne_none_iff_exists'.mp (opens mport bound.2)
  have some_bytes : tokenBytes ≠ [] := by
    intro empty
    rw [empty] at drawn
    cases drawn
  refine ⟨_,⟨host,control,media⟩,startPayload_decodes order thrown host cport mport tokenBytes named bound some_bytes,
    ?_,rfl,lawful cport control foundControl,lawful mport media foundMedia,?_⟩
  · have convertedControl : uint16 (startPayload host cport mport tokenBytes).scanned.cport = some cport :=
      uint16_ofNat cport
    have convertedMedia : uint16 (startPayload host cport mport tokenBytes).scanned.mport = some mport :=
      uint16_ofNat mport
    simp only [TransportClient.init,convertedControl,convertedMedia,bind_some_lift,foundControl,foundMedia]
    rfl
  · intro launch otherBytes serverCaps uuid turns link lossless run stuck
    obtain ⟨exchange,_⟩ := Completion.run_exchange _ _ turns link lossless run
    have matches_iff : Completion.Matches
        (presenting launch (.token (startPayload host cport mport tokenBytes).scanned.token))
        ⟨.wifi,base64Url otherBytes,serverCaps,uuid⟩ ↔ otherBytes = tokenBytes := by
      rw [← base64Url_inj otherBytes tokenBytes]
      constructor
      · exact fun matched => (Except.ok.inj matched).symm
      · exact fun same => congrArg Except.ok same.symm
    rw [← matches_iff]
    cases Completion.stuck_concluded _ _ link exchange stuck with
    | ready matched connect state => exact iff_of_true state matched
    | refused unmatched text connect state =>
      refine iff_of_false ?_ unmatched
      intro ready
      rw [ready] at state
      cases state

theorem scanned_code_connects_sample : ∃ p client,
    QRPayload.decode "" (some ((startPayload "192.168.1.42" 50001 50002 (List.replicate 24 7)).payloadJson
      fun a b => decide (a ≤ b))) = .ok p ∧
    (TransportClient.init some p.host p.cport p.mport).run = some (.ok client) ∧
    client = ⟨"192.168.1.42",50001,50002⟩ := by
  obtain ⟨p,⟨host,control,media⟩,decoded,opened,rfl,rfl,rfl,_⟩ := scanned_code_connects some id
    (fun _ _ same => (Option.some.inj same).symm) (fun _ _ absent => nomatch absent) (fun a b => decide (a ≤ b)) ""
    "192.168.1.42" 50001 50002 (List.replicate 24 7) (by decide) (by decide) rfl
  exact ⟨p,_,decoded,opened,rfl⟩

end ClearCam.App

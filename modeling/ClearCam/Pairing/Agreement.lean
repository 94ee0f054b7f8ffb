import ClearCam.Pairing.Store
import ClearCam.Session.HandshakeAgreement
import ClearCam.Library.Transition

/-! The two trust ceremonies of USB pairing, the desktop's and the phone's, in any
interleaving, and the credentials that come of them. -/
namespace ClearCam.Pairing
open ClearCam.Protocol ClearCam.Session ClearCam.Library

structure PairingKey where
  bytes : List UInt8
  deriving DecidableEq

def PairingKey.base64NoPad (key : PairingKey) : String :=
  Base64.trim '=' (Base64.encodePadded standardAlphabet key.bytes)

inductive TrustOutcome where
  | accepted (key : PairingKey)
  | denied
  deriving DecidableEq

/-- The prompt and the continuation of the request it belongs to, and what the
continuations were resumed with. -/
structure TrustController where
  pendingPrompt : Option String
  pendingContinuation : Option Nat
  resumed : List (Nat × TrustOutcome)
  deriving DecidableEq

def TrustController.requestTrust (trust : TrustController) (desktopId : String) (continuation : Nat) :
    TrustController :=
  {trust with pendingPrompt := some desktopId, pendingContinuation := some continuation}

/-- The answer, and the `put` it leaves to a task of its own. -/
def TrustController.respond (trust : TrustController) (accept : Bool) (drawn : PairingKey) :
    TrustController × List (String × PairingKey) :=
  match trust.pendingPrompt, trust.pendingContinuation with
  | some desktopId, some continuation =>
    if accept then (⟨none,none,trust.resumed ++ [(continuation,.accepted drawn)]⟩,[(desktopId,drawn)])
    else (⟨none,none,trust.resumed ++ [(continuation,.denied)]⟩,[])
  | _, _ => (trust,[])

structure Parties where
  desktop : OnDisk
  trust : TrustController
  puts : List (String × PairingKey)
  phone : AList fun _ : String => PairingKey

inductive Ceremony where
  | trustUsbDevice (udid : String) (drawn : PairingMaterial) (pairedAt : String)
      (disk : Except PairingStoreError Unit)
  | forgetUsbDevice (udid : String) (disk : Except PairingStoreError Unit)
  | requestTrust (desktopId : String) (continuation : Nat)
  | respond (accept : Bool) (drawn : PairingKey)
  -- the `put` of an accepted prompt; the keychain item is deleted before the new one is added
  | persist (desktopId : String) (key : PairingKey) (added : Bool)
  | forgetDesktop (desktopId : String)

namespace Parties

def start : Parties := ⟨∅,⟨none,none,[]⟩,[],∅⟩

def step (parties : Parties) : Ceremony → Option Parties
  | .trustUsbDevice udid drawn pairedAt disk =>
    some {parties with desktop := (PairingStore.put parties.desktop udid drawn pairedAt disk).2}
  | .forgetUsbDevice udid disk =>
    some {parties with desktop := (PairingStore.forget parties.desktop udid disk).2}
  | .requestTrust desktopId continuation =>
    some {parties with trust := parties.trust.requestTrust desktopId continuation}
  | .respond accept drawn =>
    let (trust,puts) := parties.trust.respond accept drawn
    some {parties with trust := trust, puts := parties.puts ++ puts}
  | .persist desktopId key added =>
    if (desktopId,key) ∈ parties.puts then
      some {parties with
        puts := parties.puts.erase (desktopId,key)
        phone := if added then parties.phone.insert desktopId key else parties.phone.erase desktopId}
    else none
  | .forgetDesktop desktopId => some {parties with phone := parties.phone.erase desktopId}

def expected (parties : Parties) (udid : String) : Option String :=
  match PairingStore.get parties.desktop udid with
  | .ok (some material) => some material.asB64
  | _ => none

def presented (parties : Parties) (desktopId : String) : Option Auth :=
  (parties.phone.lookup desktopId).map fun key => .pairingKey key.base64NoPad

end Parties

/-- The key the desktop drew in its last ceremony for a device. -/
def desktopDrawn (udid : String) (drawn : Option PairingMaterial) : Ceremony → Option PairingMaterial
  | .trustUsbDevice other key _ _ => if other = udid then some key else drawn
  | .forgetUsbDevice other _ => if other = udid then none else drawn
  | _ => drawn

/-- The key the phone drew in the last ceremony for a desktop that it has stored. -/
def phoneDrawn (desktopId : String) (drawn : Option PairingKey) : Ceremony → Option PairingKey
  | .persist other key added => if other = desktopId then (if added then some key else none) else drawn
  | .forgetDesktop other => if other = desktopId then none else drawn
  | _ => drawn

theorem desktop_step (udid : String) (parties next : Parties) (drawn : Option PairingMaterial)
    (ceremony : Ceremony) (held : PairingStore.get parties.desktop udid = .ok drawn)
    (taken : parties.step ceremony = some next) :
    PairingStore.get next.desktop udid = .ok (desktopDrawn udid drawn ceremony) := by
  cases ceremony with
  | trustUsbDevice other key pairedAt disk =>
    obtain rfl := Option.some.inj taken
    rw [PairingStore.get_put,held,desktopDrawn]
    split <;> rfl
  | forgetUsbDevice other disk =>
    obtain rfl := Option.some.inj taken
    rw [PairingStore.get_forget,held,desktopDrawn]
    split <;> rfl
  | persist other key added =>
    simp only [Parties.step] at taken
    split at taken
    · obtain rfl := Option.some.inj taken
      exact held
    · cases taken
  | _ =>
    obtain rfl := Option.some.inj taken
    exact held

theorem phone_step (desktopId : String) (parties next : Parties) (drawn : Option PairingKey)
    (ceremony : Ceremony) (held : parties.phone.lookup desktopId = drawn)
    (taken : parties.step ceremony = some next) :
    next.phone.lookup desktopId = phoneDrawn desktopId drawn ceremony := by
  have erased (other : String) : (parties.phone.erase other).lookup desktopId =
      if other = desktopId then none else drawn := by
    by_cases same : other = desktopId
    · simp [same]
    · simp [same,AList.lookup_erase_ne (Ne.symm same),held]
  cases ceremony with
  | persist other key added =>
    simp only [Parties.step] at taken
    split at taken
    · obtain rfl := Option.some.inj taken
      cases added with
      | false => simpa [phoneDrawn] using erased other
      | true =>
        by_cases same : other = desktopId
        · simp [phoneDrawn,same]
        · simp [phoneDrawn,same,AList.lookup_insert_ne (Ne.symm same),held]
    · cases taken
  | forgetDesktop other =>
    obtain rfl := Option.some.inj taken
    exact erased other
  | _ =>
    obtain rfl := Option.some.inj taken
    exact held

theorem base64NoPad_eq (key : PairingKey) :
    key.base64NoPad = Base64.encode standardAlphabet key.bytes :=
  Base64.trim_encodePadded standardAlphabet standardAlphabet_unpadded key.bytes

theorem credentials_eq_iff (key : PairingKey) (material : PairingMaterial) :
    key.base64NoPad = material.asB64 ↔ key.bytes = material.bytes := by
  rw [base64NoPad_eq]
  exact (Base64.encode_injective standardAlphabet standardAlphabet_injective).eq_iff

def phoneInbox (hello : Hello) (auth : Auth) : List Recv :=
  [.envelope ⟨1,none,.hello hello⟩,.envelope ⟨2,none,.auth auth⟩]

theorem phoneInbox_accepted_iff (expected presented : String) (serverCaps : List Capability)
    (uuid : String) (hello : Hello) (version : hello.protoVer = protoVer) :
    (∃ session, (outcome (acceptControlUsb expected serverCaps uuid)
      (phoneInbox hello (.pairingKey presented))).1 = .ok session) ↔ presented = expected := by
  rw [acceptControlUsb_correct.ok_iff]
  constructor
  · intro presents
    rcases presents with ⟨helloEnv,other,authEnv,rest,same,_,_,auth⟩
    simp only [phoneInbox,List.cons.injEq,Recv.envelope.injEq] at same
    obtain ⟨_,rfl,_⟩ := same
    simpa using auth
  · intro equal
    subst equal
    exact ⟨_,hello,_,[],rfl,rfl,version,rfl⟩

theorem run_desktop (run : List Ceremony) (parties : Parties) (udid : String)
    (reached : exec Parties.step .start run = some parties) :
    PairingStore.get parties.desktop udid = .ok (run.foldl (desktopDrawn udid) none) := by
  apply exec_simulated Parties.step (fun parties drawn => PairingStore.get parties.desktop udid = .ok drawn)
    (desktopDrawn udid) ?_ run .start parties none rfl reached
  intro before drawn ceremony after
  exact desktop_step udid before after drawn ceremony

theorem run_phone (run : List Ceremony) (parties : Parties) (desktopId : String)
    (reached : exec Parties.step .start run = some parties) :
    parties.phone.lookup desktopId = run.foldl (phoneDrawn desktopId) none := by
  apply exec_simulated Parties.step (fun parties drawn => parties.phone.lookup desktopId = drawn)
    (phoneDrawn desktopId) ?_ run .start parties none rfl reached
  intro before drawn ceremony after
  exact phone_step desktopId before after drawn ceremony

/-- After any interleaving of ceremonies that leaves a key on both sides, the phone
presents what the desktop expects, and the next USB handshake succeeds, exactly when the
two sides have drawn the same key. -/
theorem usb_pairing_agrees_iff (run : List Ceremony) (parties : Parties) (udid desktopId : String)
    (material : PairingMaterial) (key : PairingKey)
    (reached : exec Parties.step .start run = some parties)
    (trusted : run.foldl (desktopDrawn udid) none = some material)
    (accepted : run.foldl (phoneDrawn desktopId) none = some key) :
    ∃ expected presented, parties.expected udid = some expected ∧
      parties.presented desktopId = some (.pairingKey presented) ∧
      (presented = expected ↔ key.bytes = material.bytes) ∧
      ∀ serverCaps uuid hello, hello.protoVer = protoVer →
        ((∃ session, (outcome (acceptControlUsb expected serverCaps uuid)
          (phoneInbox hello (.pairingKey presented))).1 = .ok session) ↔ key.bytes = material.bytes) := by
  have desktop := run_desktop run parties udid reached
  have phone := run_phone run parties desktopId reached
  rw [trusted] at desktop
  rw [accepted] at phone
  refine ⟨material.asB64,key.base64NoPad,?_,?_,credentials_eq_iff key material,?_⟩
  · simp [Parties.expected,desktop]
  · simp [Parties.presented,phone]
  · intro serverCaps uuid hello version
    rw [phoneInbox_accepted_iff _ _ _ _ _ version]
    exact credentials_eq_iff key material

def bothTrust (drawnByDesktop drawnByPhone : List UInt8) : List Ceremony :=
  [.trustUsbDevice "UDID-A" ⟨drawnByDesktop⟩ "2026-05-28T20:00:00Z" (.ok ()),.requestTrust "desktop" 0,
    .respond true ⟨drawnByPhone⟩,.persist "desktop" ⟨drawnByPhone⟩ true]

theorem bothTrust_completes (a b : List UInt8) :
    (∃ parties, exec Parties.step .start (bothTrust a b) = some parties) ∧
      (bothTrust a b).foldl (desktopDrawn "UDID-A") none = some ⟨a⟩ ∧
      (bothTrust a b).foldl (phoneDrawn "desktop") none = some ⟨b⟩ := by
  refine ⟨?_,rfl,rfl⟩
  simp [bothTrust,exec,Parties.step,Parties.start,TrustController.requestTrust,TrustController.respond]

theorem same_draw_agrees :
    ∃ parties expected, exec Parties.step .start
        (bothTrust (List.replicate 32 7) (List.replicate 32 7)) = some parties ∧
      parties.expected "UDID-A" = some expected ∧
      parties.presented "desktop" = some (.pairingKey expected) := by
  obtain ⟨⟨parties,reached⟩,trusted,accepted⟩ :=
    bothTrust_completes (List.replicate 32 7) (List.replicate 32 7)
  obtain ⟨expected,presented,known,sent,same,_⟩ :=
    usb_pairing_agrees_iff _ parties "UDID-A" "desktop" _ _ reached trusted accepted
  rw [same.mpr rfl] at sent
  exact ⟨parties,expected,reached,known,sent⟩

/-- Each side draws a key of its own, and the USB handshake that follows is refused. -/
theorem separate_draws_disagree :
    ∃ parties expected presented, exec Parties.step .start
        (bothTrust (List.replicate 32 0) (List.replicate 32 1)) = some parties ∧
      parties.expected "UDID-A" = some expected ∧
      parties.presented "desktop" = some (.pairingKey presented) ∧ presented ≠ expected ∧
      ¬ ∃ session, (outcome (acceptControlUsb expected [.hevc,.h264,.rawNv12] "u")
        (phoneInbox ⟨1,"ClearCam-iOS/0.1.0",⟨"iPhone15,3","18.0"⟩,"c",[.hevc]⟩ (.pairingKey presented))).1 =
          .ok session := by
  obtain ⟨⟨parties,reached⟩,trusted,accepted⟩ :=
    bothTrust_completes (List.replicate 32 0) (List.replicate 32 1)
  have desktop := run_desktop _ parties "UDID-A" reached
  have phone := run_phone _ parties "desktop" reached
  rw [trusted] at desktop
  rw [accepted] at phone
  have differ : PairingKey.base64NoPad ⟨List.replicate 32 1⟩ ≠ PairingMaterial.asB64 ⟨List.replicate 32 0⟩ := by
    rw [Ne,credentials_eq_iff]
    decide
  refine ⟨parties,_,_,reached,?_,?_,differ,?_⟩
  · simp [Parties.expected,desktop]
  · simp [Parties.presented,phone]
  · rw [phoneInbox_accepted_iff _ _ _ _ _ rfl]
    exact differ

end ClearCam.Pairing

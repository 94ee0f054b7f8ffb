import ClearCam.App.System

/-! Inversion of the app's step function, and how its updates change one session. -/
namespace ClearCam.App
open ClearCam.Session ClearCam.Pairing

/-- Everything a step can do, by the label and the branch taken. -/
inductive Stepped (expectedToken : String) (app : AppState) : Label → AppState → Prop where
  | connected (event : WifiServerEvent) (fresh : event ∉ app.arrived) :
      Stepped expectedToken app (.connect event)
        {app with queue := app.queue ++ [event], arrived := app.arrived ++ [event]}
  | controlTaken (socket : Nat) (rest : List WifiServerEvent) (idle : app.wifi = .idle)
      (queued : app.queue = .control socket :: rest) :
      Stepped expectedToken app .wifiTake {app with
        queue := rest
        channels := app.channels.setState .wifiHandshake
        wifi := .handshaking socket}
  | mediaTaken (socket : Nat) (rest : List WifiServerEvent) (idle : app.wifi = .idle)
      (queued : app.queue = .media socket :: rest) :
      Stepped expectedToken app .wifiTake {app with queue := rest, wifi := .greeting socket}
  | wifiAccepted (wire left : Wire) (uuid : String) (socket : Nat) (accepted : AcceptedSession)
      (pc : app.wifi = .handshaking socket)
      (ok : (acceptControl expectedToken serverCaps uuid).run wire = .ok accepted left) :
      Stepped expectedToken app (.wifiHandshake wire uuid) {app with
        sessions := app.sessions ++ [⟨.wifi,socket,accepted,.accepted,.waiting⟩]
        pending := app.pending.insert (accepted.sessionId,accepted.token) app.sessions.length
        wifi := .publishing socket app.sessions.length}
  | wifiRefused (wire left : Wire) (uuid : String) (socket : Nat) (error : SessionError)
      (pc : app.wifi = .handshaking socket)
      (failed : (acceptControl expectedToken serverCaps uuid).run wire = .error error left) :
      Stepped expectedToken app (.wifiHandshake wire uuid) {app with
        channels := app.channels.setState (.listening 0 0)
        wifi := .idle
        handled := app.handled ++ [.control socket]}
  | wifiPublished (socket i : Nat) (pc : app.wifi = .publishing socket i) :
      Stepped expectedToken app .wifiPublish {app.setTask i .spawned with
        outbound := some i
        wifi := .idle
        handled := app.handled ++ [.control socket]}
  | handedOver (recv : Recv) (socket i : Nat) (binding : MediaBinding) (pc : app.wifi = .greeting socket)
      (greeted : readMediaHello recv = .ok binding)
      (known : app.pending.lookup (binding.sessionId,binding.token) = some i) :
      Stepped expectedToken app (.wifiHello recv) {app.setMedia i (.delivered socket) with
        pending := app.pending.erase (binding.sessionId,binding.token)
        handed := app.handed ++ [⟨socket,binding,i⟩]
        wifi := .idle
        handled := app.handled ++ [.media socket]}
  | mediaDropped (recv : Recv) (socket : Nat) (pc : app.wifi = .greeting socket)
      (unknown : ∀ binding, readMediaHello recv = .ok binding →
        app.pending.lookup (binding.sessionId,binding.token) = none) :
      Stepped expectedToken app (.wifiHello recv) {app with
        wifi := .idle
        handled := app.handled ++ [.media socket]}
  | attached (i socket : Nat) (delivered : app.media i = some (.delivered socket)) :
      Stepped expectedToken app (.attach i)
        {app.setMedia i (.attached socket) with speedtestCounter := some i}
  | started (i now : Nat) (session : Session) (held : app.sessions[i]? = some session)
      (spawned : session.task = .spawned) (channels : Channels) (plane : Plane)
      (begun : Plane.start app.channels session.transport now (some ⟨16,[]⟩) = (channels,plane)) :
      Stepped expectedToken app (.start i now) {app.setTask i (.running plane) with channels := channels}
  | planeStepped (i : Nat) (input : PlaneInput) (plane after : Plane) (channels : Channels)
      (held : app.task i = some (.running plane))
      (handled : plane.handle app.channels input = (channels,after)) :
      Stepped expectedToken app (.plane i input)
        {app.setTask i (if after.returned then .returned else .running after) with channels := channels}
  | outboundCleared (i : Nat) (held : app.task i = some .returned) :
      Stepped expectedToken app (.clearOutbound i) {app.setTask i .outboundCleared with outbound := none}
  | speedtestCleared (i : Nat) (held : app.task i = some .outboundCleared) :
      Stepped expectedToken app (.clearSpeedtest i) {app.setTask i .done with speedtestCounter := none}
  | usbTaken (dialed : DialedStreams) (idle : app.usb = .idle) :
      Stepped expectedToken app (.usbTake dialed) {app with
        channels := app.channels.setState (.usbHandshake dialed.udid)
        usb := .resolving dialed}
  | usbKeyFound (dialed : DialedStreams) (key : PairingMaterial) (pc : app.usb = .resolving dialed) :
      Stepped expectedToken app (.usbResolve (.ok (some key)))
        {app with usb := .handshaking dialed key.asB64}
  | usbKeyMissing (dialed : DialedStreams) (pc : app.usb = .resolving dialed) :
      Stepped expectedToken app (.usbResolve (.ok none)) {app with
        channels := app.channels.emit (.usbTrustRequest dialed.udid)
        usb := .untrusted dialed}
  | usbStoreFailed (dialed : DialedStreams) (error : PairingStoreError) (pc : app.usb = .resolving dialed) :
      Stepped expectedToken app (.usbResolve (.error error)) {app with usb := .idle}
  | usbSkipped (dialed : DialedStreams) (pc : app.usb = .untrusted dialed) :
      Stepped expectedToken app .usbUntrusted
        {app with channels := app.channels.setState .idle, usb := .idle}
  | usbAccepted (wire left : Wire) (uuid key : String) (dialed : DialedStreams) (accepted : AcceptedSession)
      (pc : app.usb = .handshaking dialed key)
      (ok : (acceptControlUsb key serverCaps uuid).run wire = .ok accepted left) :
      Stepped expectedToken app (.usbHandshake wire uuid) {app with
        sessions := app.sessions ++ [⟨.usb,dialed.control,accepted,.accepted,.waiting⟩]
        usb := .publishing dialed app.sessions.length}
  | usbRefused (wire left : Wire) (uuid key : String) (dialed : DialedStreams) (error : SessionError)
      (pc : app.usb = .handshaking dialed key)
      (failed : (acceptControlUsb key serverCaps uuid).run wire = .error error left) :
      Stepped expectedToken app (.usbHandshake wire uuid)
        {app with channels := app.channels.setState .idle, usb := .idle}
  | usbPublished (dialed : DialedStreams) (i : Nat) (pc : app.usb = .publishing dialed i) :
      Stepped expectedToken app .usbPublish {app.setTask i .published with
        outbound := some i
        usb := .counting dialed i}
  | usbCounted (dialed : DialedStreams) (i : Nat) (pc : app.usb = .counting dialed i) :
      Stepped expectedToken app .usbCount {app.setTask i .counted with
        speedtestCounter := some i
        usb := .greeting dialed i}
  | usbGreeted (recv : Recv) (dialed : DialedStreams) (i : Nat) (binding : MediaBinding)
      (pc : app.usb = .greeting dialed i) (greeted : readMediaHello recv = .ok binding) :
      Stepped expectedToken app (.usbHello recv)
        {(app.setTask i .spawned).setMedia i (.attached dialed.media) with usb := .idle}
  | usbUngreeted (recv : Recv) (dialed : DialedStreams) (i : Nat) (error : SessionError)
      (pc : app.usb = .greeting dialed i) (failed : readMediaHello recv = .error error) :
      Stepped expectedToken app (.usbHello recv) {app.setTask i .withdrawing with
        speedtestCounter := none
        usb := .withdrawing dialed i}
  | usbWithdrawn (dialed : DialedStreams) (i : Nat) (pc : app.usb = .withdrawing dialed i) :
      Stepped expectedToken app .usbWithdraw
        {app.setTask i .abandoned with outbound := none, usb := .idle}

theorem step_stepped (expectedToken : String) (app next : AppState) (label : Label)
    (taken : app.step expectedToken label = some next) : Stepped expectedToken app label next := by
  cases label with
  | connect event =>
    simp only [AppState.step,AppState.connect] at taken
    split at taken
    · cases taken
    · rename_i refused
      obtain rfl := Option.some.inj taken
      exact .connected event fun old => refused (.inl old)
  | wifiTake =>
    simp only [AppState.step,AppState.wifiTake] at taken
    split at taken
    · rename_i socket rest idle queued
      obtain rfl := Option.some.inj taken
      exact .controlTaken socket rest idle queued
    · rename_i socket rest idle queued
      obtain rfl := Option.some.inj taken
      exact .mediaTaken socket rest idle queued
    · cases taken
  | wifiHandshake wire uuid =>
    simp only [AppState.step,AppState.wifiHandshake] at taken
    split at taken
    · rename_i socket pc
      split at taken
      · rename_i accepted left ok
        obtain rfl := Option.some.inj taken
        exact .wifiAccepted wire left uuid socket accepted pc ok
      · rename_i error left failed
        obtain rfl := Option.some.inj taken
        exact .wifiRefused wire left uuid socket error pc failed
    · cases taken
  | wifiPublish =>
    simp only [AppState.step,AppState.wifiPublish] at taken
    split at taken
    · rename_i socket i pc
      obtain rfl := Option.some.inj taken
      exact .wifiPublished socket i pc
    · cases taken
  | wifiHello recv =>
    simp only [AppState.step,AppState.wifiHello] at taken
    split at taken
    · rename_i socket pc
      split at taken
      · rename_i binding greeted
        split at taken
        · rename_i i known
          obtain rfl := Option.some.inj taken
          exact .handedOver recv socket i binding pc greeted known
        · rename_i unknown
          obtain rfl := Option.some.inj taken
          refine .mediaDropped recv socket pc ?_
          intro other again
          obtain rfl : binding = other := by simpa [greeted] using again
          exact unknown
      · rename_i error failed
        obtain rfl := Option.some.inj taken
        exact .mediaDropped recv socket pc fun binding greeted => by simp [failed] at greeted
    · cases taken
  | attach i =>
    simp only [AppState.step,AppState.attach] at taken
    split at taken
    · rename_i socket delivered
      obtain rfl := Option.some.inj taken
      exact .attached i socket delivered
    · cases taken
  | start i now =>
    simp only [AppState.step,AppState.startPlane] at taken
    split at taken
    · rename_i transport control accepted media held
      obtain rfl := Option.some.inj taken
      exact .started i now _ held rfl _ _ rfl
    · cases taken
  | plane i input =>
    simp only [AppState.step,AppState.plane] at taken
    split at taken
    · rename_i plane held
      obtain rfl := Option.some.inj taken
      exact .planeStepped i input plane _ _ held rfl
    · cases taken
  | clearOutbound i =>
    simp only [AppState.step,AppState.clearOutbound] at taken
    split at taken
    · rename_i held
      obtain rfl := Option.some.inj taken
      exact .outboundCleared i held
    · cases taken
  | clearSpeedtest i =>
    simp only [AppState.step,AppState.clearSpeedtest] at taken
    split at taken
    · rename_i held
      obtain rfl := Option.some.inj taken
      exact .speedtestCleared i held
    · cases taken
  | usbTake dialed =>
    simp only [AppState.step,AppState.usbTake] at taken
    split at taken
    · rename_i idle
      obtain rfl := Option.some.inj taken
      exact .usbTaken dialed idle
    · cases taken
  | usbResolve result =>
    simp only [AppState.step,AppState.usbResolve] at taken
    split at taken
    · rename_i dialed pc
      split at taken
      · rename_i key
        obtain rfl := Option.some.inj taken
        exact .usbKeyFound dialed key pc
      · obtain rfl := Option.some.inj taken
        exact .usbKeyMissing dialed pc
      · rename_i error
        obtain rfl := Option.some.inj taken
        exact .usbStoreFailed dialed error pc
    · cases taken
  | usbUntrusted =>
    simp only [AppState.step,AppState.usbUntrusted] at taken
    split at taken
    · rename_i dialed pc
      obtain rfl := Option.some.inj taken
      exact .usbSkipped dialed pc
    · cases taken
  | usbHandshake wire uuid =>
    simp only [AppState.step,AppState.usbHandshake] at taken
    split at taken
    · rename_i dialed key pc
      split at taken
      · rename_i accepted left ok
        obtain rfl := Option.some.inj taken
        exact .usbAccepted wire left uuid key dialed accepted pc ok
      · rename_i error left failed
        obtain rfl := Option.some.inj taken
        exact .usbRefused wire left uuid key dialed error pc failed
    · cases taken
  | usbPublish =>
    simp only [AppState.step,AppState.usbPublish] at taken
    split at taken
    · rename_i dialed i pc
      obtain rfl := Option.some.inj taken
      exact .usbPublished dialed i pc
    · cases taken
  | usbCount =>
    simp only [AppState.step,AppState.usbCount] at taken
    split at taken
    · rename_i dialed i pc
      obtain rfl := Option.some.inj taken
      exact .usbCounted dialed i pc
    · cases taken
  | usbHello recv =>
    simp only [AppState.step,AppState.usbHello] at taken
    split at taken
    · rename_i dialed i pc
      split at taken
      · rename_i binding greeted
        obtain rfl := Option.some.inj taken
        exact .usbGreeted recv dialed i binding pc greeted
      · rename_i error failed
        obtain rfl := Option.some.inj taken
        exact .usbUngreeted recv dialed i error pc failed
    · cases taken
  | usbWithdraw =>
    simp only [AppState.step,AppState.usbWithdraw] at taken
    split at taken
    · rename_i dialed i pc
      obtain rfl := Option.some.inj taken
      exact .usbWithdrawn dialed i pc
    · cases taken

theorem modify_session (sessions : List Session) (i j : Nat) (f : Session → Session) (after : Session)
    (found : (sessions.modify i f)[j]? = some after) :
    ∃ before, sessions[j]? = some before ∧ after = if i = j then f before else before := by
  rw [List.getElem?_modify] at found
  cases held : sessions[j]? with
  | none => simp [held] at found
  | some before =>
    refine ⟨before,rfl,?_⟩
    simpa [held] using found.symm

end ClearCam.App

import ClearCam.App.Steps
import ClearCam.Session.Events

/-! What a reader of the events knows of the snapshot. A control plane announces each state that it
sets; the accept loop and the USB consumer set theirs by `send_modify`, which announces nothing. -/
namespace ClearCam.App
open ClearCam.Protocol ClearCam.Transport ClearCam.Session ClearCam.Library

/-- The state that a reader takes from an event. -/
def follow (state : SessionStateKind) (event : ControlPlaneEvent) : SessionStateKind := event.state?.getD state

theorem foldl_follow (events : List ControlPlaneEvent) (state : SessionStateKind) :
    events.foldl follow state = (states events).getLast?.getD state := by
  induction events generalizing state with
  | nil => rfl
  | cons event rest ih =>
    rw [List.foldl_cons,ih,states,states,List.filterMap_cons,follow]
    cases event.state? with
    | none => rfl
    | some shown =>
      rw [Option.getD_some,List.getLast?_cons,Option.getD_some]

/-- A reader that saw the snapshot in one state of the app and has followed all events since then
has the snapshot's state. -/
def Mirrored (seen app : AppState) : Prop :=
  ∃ fresh, app.channels.events = seen.channels.events ++ fresh ∧
    fresh.foldl follow seen.channels.snapshot.state = app.channels.snapshot.state

def AppState.modified (expectedToken : String) (app : AppState) : Label → Option SessionStateKind
  | .wifiTake =>
    match app.wifi, app.queue with
    | .idle, .control _ :: _ => some .wifiHandshake
    | _, _ => none
  | .wifiHandshake wire uuid =>
    match (acceptControl expectedToken serverCaps uuid).run wire with
    | .ok _ _ => none
    | .error _ _ => some (.listening 0 0)
  | .usbTake dialed => some (.usbHandshake dialed.udid)
  | .usbUntrusted => some .idle
  | .usbHandshake wire uuid =>
    match app.usb with
    | .handshaking _ key =>
      match (acceptControlUsb key serverCaps uuid).run wire with
      | .ok _ _ => none
      | .error _ _ => some .idle
    | _ => none
  | _ => none

/-- What the step writes without an event, if anything, is the state that is shown already. -/
def Announced (expectedToken : String) (app : AppState) (label : Label) : Prop :=
  ∀ state ∈ app.modified expectedToken label, state = app.channels.snapshot.state

theorem announced_of_quiet (token : String) (app : AppState) (label : Label)
    (quiet : app.modified token label = none) : Announced token app label := by
  intro state written
  rw [quiet] at written
  cases written

/-- A step that leaves the channels alone, or publishes whatever state it sets. -/
theorem Mirrored.published (seen : AppState) (token : String) (app next : AppState) (label : Label)
    (published : List ControlPlaneEvent) (mirrored : Mirrored seen app)
    (events : next.channels.events = app.channels.events ++ published)
    (state : next.channels.snapshot.state = (states published).getLast?.getD app.channels.snapshot.state)
    (quiet : app.modified token label = none) : Mirrored seen next ↔ Announced token app label := by
  refine iff_of_true ?_ (announced_of_quiet token app label quiet)
  obtain ⟨fresh,since,followed⟩ := mirrored
  refine ⟨fresh ++ published,?_,?_⟩
  · rw [events,since,List.append_assoc]
  · rw [List.foldl_append,followed,foldl_follow,state]

theorem Mirrored.unchanged (seen : AppState) (token : String) (app next : AppState) (label : Label)
    (mirrored : Mirrored seen app) (same : next.channels = app.channels)
    (quiet : app.modified token label = none) : Mirrored seen next ↔ Announced token app label := by
  refine mirrored.published seen token app next label [] ?_ ?_ quiet
  · rw [same,List.append_nil]
  · rw [same]
    rfl

theorem Mirrored.written (seen : AppState) (token : String) (app next : AppState) (label : Label)
    (state : SessionStateKind) (mirrored : Mirrored seen app)
    (channels : next.channels = app.channels.setState state)
    (written : app.modified token label = some state) : Mirrored seen next ↔ Announced token app label := by
  obtain ⟨fresh,since,followed⟩ := mirrored
  rw [Mirrored,Announced,channels,written]
  constructor
  · intro again other shown
    obtain ⟨fresh',since',followed'⟩ := again
    obtain rfl := Option.some.inj shown
    obtain rfl : fresh = fresh' := List.append_cancel_left (since.symm.trans since')
    exact followed'.symm.trans followed
  · intro same
    exact ⟨fresh,since,followed.trans (same state rfl).symm⟩

/-- One step keeps the events and the snapshot together just when it announces what it writes. -/
theorem step_mirrored (seen : AppState) (token : String) (app next : AppState) (label : Label)
    (mirrored : Mirrored seen app) (taken : app.step token label = some next) :
    Mirrored seen next ↔ Announced token app label := by
  cases step_stepped token app next label taken with
  | controlTaken socket rest idle queued =>
    refine mirrored.written seen token app _ _ .wifiHandshake rfl ?_
    rw [AppState.modified,idle,queued]
  | mediaTaken socket rest idle queued =>
    refine mirrored.unchanged seen token app _ _ rfl ?_
    rw [AppState.modified,idle,queued]
  | wifiAccepted wire left uuid socket accepted pc ok =>
    refine mirrored.unchanged seen token app _ _ rfl ?_
    rw [AppState.modified,ok]
  | wifiRefused wire left uuid socket error pc failed =>
    refine mirrored.written seen token app _ _ (.listening 0 0) rfl ?_
    rw [AppState.modified,failed]
  | started i now session held spawned channels plane begun =>
    have result : channels = app.channels.broadcast (.ready (some session.transport)) none none := by
      exact (congrArg Prod.fst begun).symm
    refine mirrored.published seen token app _ _ [.stateChanged (.ready (some session.transport))] ?_ ?_ rfl
    · rw [result]
      rfl
    · rw [result]
      rfl
  | planeStepped i input plane after channels held handled =>
    obtain ⟨published,events,state,_,_⟩ := plane.handle_publishes app.channels input
    rw [handled] at events state
    exact mirrored.published seen token app _ _ published events state rfl
  | usbTaken dialed idle => exact mirrored.written seen token app _ _ (.usbHandshake dialed.udid) rfl rfl
  | usbKeyMissing dialed pc =>
    exact mirrored.published seen token app _ _ [.usbTrustRequest dialed.udid] rfl rfl rfl
  | usbSkipped dialed pc => exact mirrored.written seen token app _ _ .idle rfl rfl
  | usbAccepted wire left uuid key dialed accepted pc ok =>
    refine mirrored.unchanged seen token app _ _ rfl ?_
    rw [AppState.modified,pc]
    simp only [ok]
  | usbRefused wire left uuid key dialed error pc failed =>
    refine mirrored.written seen token app _ _ .idle rfl ?_
    rw [AppState.modified,pc]
    simp only [failed]
  | _ => exact mirrored.unchanged seen token app _ _ rfl rfl

/-- From wherever a reader starts, the events mirror the snapshot in every state that a run reaches
just when every state that the run writes by `send_modify` is the one that the snapshot shows already. -/
theorem events_mirror_snapshot_iff (token : String) (seen last : AppState) (labels : List Label)
    (run : exec (AppState.step token) seen labels = some last) :
    (∀ before after app, labels = before ++ after → exec (AppState.step token) seen before = some app →
      Mirrored seen app) ↔
    Along (AppState.step token) (Announced token) seen labels := by
  refine reached_iff_along (AppState.step token) (fun _ => True) _ _ ?_ ?_ labels _ last trivial ?_ run
  · intros
    trivial
  · intro app label next _ mirrored taken
    exact step_mirrored seen token app next label mirrored taken
  · exact ⟨[],(List.append_nil _).symm,rfl⟩

instance decidableAnnounced (token : String) (app : AppState) (label : Label) :
    Decidable (Announced token app label) :=
  inferInstanceAs (Decidable (∀ state ∈ app.modified token label, state = app.channels.snapshot.state))

def farewell : List Label :=
  [.plane 0 (.recv 0 0 none (.ok ⟨3,none,.ping ⟨5⟩⟩)),.plane 0 (.recv 0 0 none (.ok ⟨4,none,.bye ⟨"done"⟩⟩))]

def inSession : AppState := (exec (AppState.step "t") (.start 7000 7001) oneSession).getD (.start 7000 7001)

def sessionOver : AppState := (exec (AppState.step "t") inSession farewell).getD inSession

theorem farewell_mirrored : exec (AppState.step "t") (.start 7000 7001) oneSession = some inSession ∧
    sessionOver.channels.snapshot.state = .closed "done" ∧ Mirrored inSession sessionOver := by
  have run : exec (AppState.step "t") inSession farewell = some sessionOver := rfl
  have announced : Along (AppState.step "t") (Announced "t") inSession farewell := by
    decide +kernel
  refine ⟨rfl,rfl,?_⟩
  exact (events_mirror_snapshot_iff "t" inSession sessionOver farewell run).mpr announced farewell []
    sessionOver (List.append_nil _).symm run

theorem handshake_not_mirrored : ∃ app,
    exec (AppState.step "t") (.start 7000 7001) [.connect (.control 0),.wifiTake] = some app ∧
    app.channels.snapshot.state = .wifiHandshake ∧ app.channels.events = [] ∧
    ¬Mirrored (.start 7000 7001) app := by
  refine ⟨_,rfl,rfl,rfl,?_⟩
  intro mirrored
  obtain ⟨fresh,since,followed⟩ := mirrored
  obtain rfl : [] = fresh := since
  cases followed

end ClearCam.App

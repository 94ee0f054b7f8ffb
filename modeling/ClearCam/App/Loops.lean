import ClearCam.App.Steps

/-! The sessions that the two loops have in hand. A loop remembers an index and a stage;
the session at that index is at that stage, since nothing else moves a session before
its control plane is spawned. -/
namespace ClearCam.App
open ClearCam.Session

/-- The session a loop has in hand, and how far it takes that one to have come. -/
def WifiLoop.session : WifiLoop → Option (Nat × Task)
  | .publishing _ i => some (i,.accepted)
  | _ => none

def UsbLoop.session : UsbLoop → Option (Nat × Task)
  | .publishing _ i => some (i,.accepted)
  | .counting _ i => some (i,.published)
  | .greeting _ i => some (i,.counted)
  | .withdrawing _ i => some (i,.withdrawing)
  | _ => none

def Task.inHand : Task → Bool
  | .accepted | .published | .counted | .withdrawing => true
  | _ => false

theorem WifiLoop.session_inHand (loop : WifiLoop) (i : Nat) (task : Task)
    (held : loop.session = some (i,task)) : task.inHand = true := by
  cases loop with
  | publishing socket j =>
    obtain ⟨_,rfl⟩ := Prod.mk.inj (Option.some.inj held)
    rfl
  | _ => cases held

theorem UsbLoop.session_inHand (loop : UsbLoop) (i : Nat) (task : Task)
    (held : loop.session = some (i,task)) : task.inHand = true := by
  cases loop with
  | publishing dialed j | counting dialed j | greeting dialed j | withdrawing dialed j =>
    obtain ⟨_,rfl⟩ := Prod.mk.inj (Option.some.inj held)
    rfl
  | _ => cases held

def AppState.At (app : AppState) (transport : TransportTag) (i : Nat) (task : Task) : Prop :=
  ∃ session, app.sessions[i]? = some session ∧ session.transport = transport ∧ session.task = task

/-- Each loop's session stands where the loop takes it to stand. -/
structure Consistent (app : AppState) : Prop where
  wifi : ∀ i task, app.wifi.session = some (i,task) → app.At .wifi i task
  usb : ∀ i task, app.usb.session = some (i,task) → app.At .usb i task

namespace AppState.At

variable {app next : AppState} {transport : TransportTag} {i k : Nat} {task : Task} {session : Session}
  {f : Session → Session}

theorem task_eq (stood : app.At transport i task) : app.task i = some task := by
  obtain ⟨found,held,_,standing⟩ := stood
  simp [AppState.task,held,standing]

theorem append (stood : app.At transport i task) (sessions : next.sessions = app.sessions ++ [session]) :
    next.At transport i task := by
  obtain ⟨found,held,standing⟩ := stood
  refine ⟨found,?_,standing⟩
  rw [sessions,List.getElem?_append_left]
  · exact held
  · exact (List.getElem?_eq_some_iff.mp held).1

theorem other (stood : app.At transport i task) (held : app.sessions[k]? = some session)
    (differ : session.transport = transport → session.task ≠ task)
    (sessions : next.sessions = app.sessions.modify k f) : next.At transport i task := by
  obtain ⟨found,here,carried,step⟩ := stood
  have apart : k ≠ i := by
    intro same
    subst same
    obtain rfl : found = session := by simpa [here] using held
    exact differ carried step
  refine ⟨found,?_,carried,step⟩
  rw [sessions,List.getElem?_modify,here]
  simp [apart]

theorem setMedia (stood : app.At transport i task) (media : Media)
    (sessions : next.sessions = (app.setMedia k media).sessions) : next.At transport i task := by
  obtain ⟨found,here,carried,step⟩ := stood
  by_cases moved : k = i
  · refine ⟨{found with media := media},?_,carried,step⟩
    rw [sessions,AppState.setMedia,AppState.modify,List.getElem?_modify,here]
    simp [moved]
  · refine ⟨found,?_,carried,step⟩
    rw [sessions,AppState.setMedia,AppState.modify,List.getElem?_modify,here]
    simp [moved]

theorem moved (held : app.sessions[k]? = some session)
    (sessions : next.sessions = app.sessions.modify k f) :
    next.At (f session).transport k (f session).task := by
  refine ⟨f session,?_,rfl,rfl⟩
  rw [sessions,List.getElem?_modify,held]
  simp

end AppState.At

theorem Consistent.planeStep (app next : AppState) (k : Nat) (task after : Task) (consistent : Consistent app)
    (held : app.task k = some task) (spawned : task.inHand = false)
    (sessions : next.sessions = (app.setTask k after).sessions) (wifi : next.wifi = app.wifi)
    (usb : next.usb = app.usb) : Consistent next := by
  obtain ⟨session,found,rfl⟩ := Option.map_eq_some_iff.mp held
  constructor
  · intro i other loop
    rw [wifi] at loop
    refine (consistent.wifi i other loop).other found ?_ sessions
    intro _ same
    subst same
    have inHand := WifiLoop.session_inHand app.wifi i _ loop
    rw [spawned] at inHand
    cases inHand
  · intro i other loop
    rw [usb] at loop
    refine (consistent.usb i other loop).other found ?_ sessions
    intro _ same
    subst same
    have inHand := UsbLoop.session_inHand app.usb i _ loop
    rw [spawned] at inHand
    cases inHand

theorem Consistent.usbStep (app next : AppState) (k : Nat) (task after : Task) (consistent : Consistent app)
    (held : app.At .usb k task) (sessions : next.sessions = (app.setTask k after).sessions)
    (wifi : next.wifi = app.wifi) (usb : next.usb.session = some (k,after) ∨ next.usb.session = none) :
    Consistent next := by
  obtain ⟨session,found,carried,_⟩ := held
  constructor
  · intro i other loop
    rw [wifi] at loop
    refine (consistent.wifi i other loop).other found ?_ sessions
    intro wireless
    rw [carried] at wireless
    cases wireless
  · intro i other loop
    obtain same | none := usb
    · rw [same] at loop
      obtain ⟨rfl,rfl⟩ := Prod.mk.inj (Option.some.inj loop)
      rw [← carried]
      exact AppState.At.moved found sessions
    · rw [none] at loop
      cases loop

theorem step_consistent (token : String) (app next : AppState) (label : Label) (consistent : Consistent app)
    (taken : app.step token label = some next) : Consistent next := by
  have stepped := step_stepped token app next label taken
  have ⟨wifi,usb⟩ := consistent
  cases stepped with
  | connected event fresh => exact ⟨wifi,usb⟩
  | controlTaken socket rest idle queued => exact ⟨fun i task held => (by cases held),usb⟩
  | mediaTaken socket rest idle queued => exact ⟨fun i task held => (by cases held),usb⟩
  | wifiAccepted wire left uuid socket accepted pc ok =>
    refine ⟨?_,fun i task held => (usb i task held).append rfl⟩
    intro i task held
    obtain ⟨rfl,rfl⟩ := Prod.mk.inj (Option.some.inj held)
    exact ⟨⟨.wifi,socket,accepted,.accepted,.waiting⟩,by simp,rfl,rfl⟩
  | wifiRefused wire left uuid socket error pc failed => exact ⟨fun i task held => (by cases held),usb⟩
  | wifiPublished socket k pc =>
    obtain ⟨session,found,carried,_⟩ := wifi k .accepted (by rw [pc]; rfl)
    refine ⟨fun i task held => (by cases held),?_⟩
    intro i task held
    refine (usb i task held).other found ?_ rfl
    intro wired
    rw [carried] at wired
    cases wired
  | handedOver recv socket k binding pc greeted known =>
    refine ⟨fun i task held => (by cases held),?_⟩
    intro i task held
    exact (usb i task held).setMedia _ rfl
  | mediaDropped recv socket pc unknown => exact ⟨fun i task held => (by cases held),usb⟩
  | attached k socket delivered =>
    constructor
    · intro i task held
      exact (wifi i task held).setMedia _ rfl
    · intro i task held
      exact (usb i task held).setMedia _ rfl
  | started k now session found spawned channels plane begun =>
    refine consistent.planeStep app _ k .spawned (.running plane) ?_ rfl rfl rfl rfl
    simp [AppState.task,found,spawned]
  | planeStepped k input plane after channels held handled =>
    exact consistent.planeStep app _ k (.running plane) _ held rfl rfl rfl rfl
  | outboundCleared k held => exact consistent.planeStep app _ k .returned _ held rfl rfl rfl rfl
  | speedtestCleared k held => exact consistent.planeStep app _ k .outboundCleared _ held rfl rfl rfl rfl
  | usbTaken dialed idle => exact ⟨wifi,fun i task held => (by cases held)⟩
  | usbKeyFound dialed key pc => exact ⟨wifi,fun i task held => (by cases held)⟩
  | usbKeyMissing dialed pc => exact ⟨wifi,fun i task held => (by cases held)⟩
  | usbStoreFailed dialed error pc => exact ⟨wifi,fun i task held => (by cases held)⟩
  | usbSkipped dialed pc => exact ⟨wifi,fun i task held => (by cases held)⟩
  | usbAccepted wire left uuid key dialed accepted pc ok =>
    refine ⟨fun i task held => (wifi i task held).append rfl,?_⟩
    intro i task held
    obtain ⟨rfl,rfl⟩ := Prod.mk.inj (Option.some.inj held)
    exact ⟨⟨.usb,dialed.control,accepted,.accepted,.waiting⟩,by simp,rfl,rfl⟩
  | usbRefused wire left uuid key dialed error pc failed => exact ⟨wifi,fun i task held => (by cases held)⟩
  | usbPublished dialed k pc =>
    exact consistent.usbStep app _ k .accepted .published (usb k _ (by rw [pc]; rfl)) rfl rfl (.inl rfl)
  | usbCounted dialed k pc =>
    exact consistent.usbStep app _ k .published .counted (usb k _ (by rw [pc]; rfl)) rfl rfl (.inl rfl)
  | usbGreeted recv dialed k binding pc greeted =>
    have spawned : Consistent {app.setTask k .spawned with usb := .idle} :=
      consistent.usbStep app _ k .counted .spawned (usb k _ (by rw [pc]; rfl)) rfl rfl (.inr rfl)
    refine ⟨?_,fun i task held => (by cases held)⟩
    intro i task held
    exact (spawned.wifi i task held).setMedia _ rfl
  | usbUngreeted recv dialed k error pc failed =>
    exact consistent.usbStep app _ k .counted .withdrawing (usb k _ (by rw [pc]; rfl)) rfl rfl (.inl rfl)
  | usbWithdrawn dialed k pc =>
    exact consistent.usbStep app _ k .withdrawing .abandoned (usb k _ (by rw [pc]; rfl)) rfl rfl (.inr rfl)

theorem start_consistent (controlPort mediaPort : UInt16) : Consistent (.start controlPort mediaPort) :=
  ⟨fun _ _ held => (by cases held),fun _ _ held => (by cases held)⟩

end ClearCam.App

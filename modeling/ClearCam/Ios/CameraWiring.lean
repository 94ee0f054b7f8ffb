import ClearCam.Library.Transition
import ClearCam.Ios.CaptureEngine

/-! The camera is wired to a controller that is connected already: `attachCameraSystem` and
`publishCameraListAndStart` run while the pump answers SET_CAMERA. The actor lets the one in wherever the other
awaits its engine or its channel. -/
namespace ClearCam.Ios
open ClearCam.Library ClearCam.Protocol

/-- Where `publishCameraListAndStart` awaits. `outcome` is what `engine.start` came to, before the actor goes on. -/
inductive Publish where
  | notCalled
  | sendingCameraList
  | starting (cameraId : String) (outcome : Option (Except NSError Unit))
  | returned
  | threw
  deriving DecidableEq

/-- `running` says that `startRunning` is in the engine's queue, `switching` is the call of `applySetCamera`
that awaits its engine, and `answered` the cameras it went on to send CAMERA_STATE for. -/
structure CameraWiring where
  engine : CaptureSession
  running : Bool
  attached : Bool
  activeCameraId : Option String
  publish : Publish
  switching : Option (String × Option (Except NSError Unit))
  answered : List String

inductive WiringEvent where
  | attached
  | published
  | listSent (outcome : Except String Unit)
  | startConfigured
  | startReturned
  | setCamera (cameraId : String)
  | switchConfigured
  | switchReturned

def firstCamera (cameras : List CameraEntry) : Option CameraEntry :=
  (cameras.find? fun camera => camera.position = .back) <|> cameras.head?

section Wiring

variable (hardware : Hardware) (cameras : List CameraEntry)

namespace CameraWiring

def start : CameraWiring := ⟨⟨[],0,false⟩,false,false,none,.notCalled,none,[]⟩

def answer (s : CameraWiring) (cameraId : String) : CameraWiring :=
  {s with activeCameraId := some cameraId, answered := s.answered ++ [cameraId]}

def step (s : CameraWiring) : WiringEvent → Option CameraWiring
  | .attached => if s.attached then none else some {s with attached := true}
  | .published => if s.attached ∧ s.publish = .notCalled then some {s with publish := .sendingCameraList} else none
  | .listSent (.error _) => if s.publish = .sendingCameraList then some {s with publish := .threw} else none
  | .listSent (.ok _) =>
    if s.publish = .sendingCameraList then
      match firstCamera cameras, s.activeCameraId with
      | some first, none => some {s with publish := .starting first.id none}
      | _, _ => some {s with publish := .returned}
    else none
  | .startConfigured =>
    match s.publish with
    | .starting cameraId none =>
      let (engine,outcome) := AVCaptureEngine.configure hardware s.engine cameraId true
      some {s with engine := engine, running := outcome.isOk, publish := .starting cameraId (some outcome)}
    | _ => none
  | .startReturned =>
    match s.publish with
    | .starting cameraId (some (.ok _)) => some {s with activeCameraId := some cameraId, publish := .returned}
    | .starting _ (some (.error _)) => some {s with publish := .threw}
    | _ => none
  | .setCamera cameraId =>
    if s.switching.isSome then none
    else if s.attached then some {s with switching := some (cameraId,none)}
    else some (s.answer cameraId)
  | .switchConfigured =>
    match s.switching with
    | some (cameraId,none) =>
      let (engine,outcome) := AVCaptureEngine.setCamera hardware s.engine cameraId
      some {s with engine := engine, switching := some (cameraId,some outcome)}
    | _ => none
  | .switchReturned =>
    match s.switching with
    | some (cameraId,some (.ok _)) => some {s.answer cameraId with switching := none}
    -- the pump drops what `applySetCamera` throws
    | some (_,some (.error _)) => some {s with switching := none}
    | _ => none

end CameraWiring

/-- Everything one step of the wiring can do. -/
inductive CameraWiring.Moves (s : CameraWiring) : WiringEvent → CameraWiring → Prop where
  | attached (fresh : s.attached = false) : Moves s .attached {s with attached := true}
  | published (wired : s.attached = true) (fresh : s.publish = .notCalled) :
      Moves s .published {s with publish := .sendingCameraList}
  | listLost (description : String) (sending : s.publish = .sendingCameraList) :
      Moves s (.listSent (.error description)) {s with publish := .threw}
  | starts (first : CameraEntry) (sending : s.publish = .sendingCameraList) (found : firstCamera cameras = some first)
      (idle : s.activeCameraId = none) : Moves s (.listSent (.ok ())) {s with publish := .starting first.id none}
  | skips (sending : s.publish = .sendingCameraList) (taken : firstCamera cameras = none ∨ s.activeCameraId ≠ none) :
      Moves s (.listSent (.ok ())) {s with publish := .returned}
  | startConfigured (cameraId : String) (starting : s.publish = .starting cameraId none) :
      Moves s .startConfigured {s with
        engine := (AVCaptureEngine.configure hardware s.engine cameraId true).1
        running := (AVCaptureEngine.configure hardware s.engine cameraId true).2.isOk
        publish := .starting cameraId (some (AVCaptureEngine.configure hardware s.engine cameraId true).2)}
  | started (cameraId : String) (starting : s.publish = .starting cameraId (some (.ok ()))) :
      Moves s .startReturned {s with activeCameraId := some cameraId, publish := .returned}
  | startThrew (cameraId : String) (error : NSError) (starting : s.publish = .starting cameraId (some (.error error))) :
      Moves s .startReturned {s with publish := .threw}
  | switching (cameraId : String) (free : s.switching = none) (wired : s.attached = true) :
      Moves s (.setCamera cameraId) {s with switching := some (cameraId,none)}
  | unwired (cameraId : String) (free : s.switching = none) (wired : s.attached = false) :
      Moves s (.setCamera cameraId) (s.answer cameraId)
  | switchConfigured (cameraId : String) (awaits : s.switching = some (cameraId,none)) :
      Moves s .switchConfigured {s with
        engine := (AVCaptureEngine.setCamera hardware s.engine cameraId).1
        switching := some (cameraId,some (AVCaptureEngine.setCamera hardware s.engine cameraId).2)}
  | switched (cameraId : String) (awaits : s.switching = some (cameraId,some (.ok ()))) :
      Moves s .switchReturned {s.answer cameraId with switching := none}
  | switchThrew (cameraId : String) (error : NSError) (awaits : s.switching = some (cameraId,some (.error error))) :
      Moves s .switchReturned {s with switching := none}

namespace CameraWiring

theorem step_moves (s after : CameraWiring) (event : WiringEvent)
    (taken : s.step hardware cameras event = some after) : s.Moves hardware cameras event after := by
  cases event with
  | attached =>
    simp only [step] at taken
    split at taken
    · cases taken
    · next fresh =>
      obtain rfl := Option.some.inj taken
      exact .attached (by simpa using fresh)
  | published =>
    simp only [step] at taken
    split at taken
    · next ready =>
      obtain rfl := Option.some.inj taken
      exact .published ready.1 ready.2
    · cases taken
  | listSent outcome =>
    cases outcome with
    | error description =>
      simp only [step] at taken
      split at taken
      · next sending =>
        obtain rfl := Option.some.inj taken
        exact .listLost description sending
      · cases taken
    | ok done =>
      simp only [step] at taken
      split at taken
      · next sending =>
        split at taken
        · next first found idle =>
          obtain rfl := Option.some.inj taken
          exact .starts first sending found idle
        · next other =>
          obtain rfl := Option.some.inj taken
          refine .skips sending ?_
          cases found : firstCamera cameras with
          | none => exact .inl rfl
          | some first =>
            refine .inr ?_
            intro idle
            exact other first found idle
      · cases taken
  | startConfigured =>
    simp only [step] at taken
    split at taken
    · next cameraId starting =>
      obtain rfl := Option.some.inj taken
      exact .startConfigured cameraId starting
    · cases taken
  | startReturned =>
    simp only [step] at taken
    split at taken
    · next cameraId done starting =>
      obtain rfl := Option.some.inj taken
      exact .started cameraId starting
    · next cameraId error starting =>
      obtain rfl := Option.some.inj taken
      exact .startThrew cameraId error starting
    · cases taken
  | setCamera cameraId =>
    simp only [step] at taken
    split at taken
    · cases taken
    · next free =>
      split at taken
      · next wired =>
        obtain rfl := Option.some.inj taken
        exact .switching cameraId (by simpa using free) wired
      · next wired =>
        obtain rfl := Option.some.inj taken
        exact .unwired cameraId (by simpa using free) (by simpa using wired)
  | switchConfigured =>
    simp only [step] at taken
    split at taken
    · next cameraId awaits =>
      obtain rfl := Option.some.inj taken
      exact .switchConfigured cameraId awaits
    · cases taken
  | switchReturned =>
    simp only [step] at taken
    split at taken
    · next cameraId done awaits =>
      obtain rfl := Option.some.inj taken
      exact .switched cameraId awaits
    · next cameraId error awaits =>
      obtain rfl := Option.some.inj taken
      exact .switchThrew cameraId error awaits
    · cases taken

end CameraWiring

/-- When CAMERA_LIST is out, no SET_CAMERA has been answered yet. -/
def Unanswered (s : CameraWiring) (event : WiringEvent) : Prop := event = .listSent (.ok ()) → s.answered = []

/-- What a run has come to, by where `publishCameraListAndStart` is. `early` says that its CAMERA_LIST was out
before any answer. -/
inductive CameraWiring.Runs (early : Prop) (s : CameraWiring) : Prop where
  | before (publish : s.publish = .notCalled ∨ s.publish = .sendingCameraList) (still : s.running = false)
      (holds : early) (active : s.activeCameraId = s.answered.getLast?)
  | starting (cameraId : String) (publish : s.publish = .starting cameraId none) (still : s.running = false)
      (found : cameras ≠ []) (holds : early)
  | configured (cameraId : String) (outcome : Except NSError Unit) (publish : s.publish = .starting cameraId (some outcome))
      (runs : s.running = outcome.isOk) (found : cameras ≠ []) (holds : early)
  | returned (publish : s.publish = .returned) (runs : s.running = true ↔ cameras ≠ [] ∧ early)
  | threw (publish : s.publish = .threw) (still : s.running = false)

theorem firstCamera_none (cameras : List CameraEntry) : firstCamera cameras = none ↔ cameras = [] := by
  cases cameras with
  | nil => exact iff_of_true rfl rfl
  | cons camera rest =>
    refine iff_of_false ?_ (List.cons_ne_nil _ _)
    unfold firstCamera
    cases (camera :: rest).find? fun camera => camera.position = .back with
    | none => simp
    | some found => simp

theorem listed_of_first (cameras : List CameraEntry) (first : CameraEntry) (found : firstCamera cameras = some first) :
    cameras ≠ [] := by
  intro empty
  rw [(firstCamera_none cameras).mpr empty] at found
  cases found

namespace CameraWiring

/-- The publishing call stays where it is. -/
theorem Runs.kept (early later : Prop) (s after : CameraWiring) (runs : s.Runs cameras early) (same : later ↔ early)
    (publish : after.publish = s.publish) (running : after.running = s.running)
    (active : s.activeCameraId = s.answered.getLast? → after.activeCameraId = after.answered.getLast?) :
    after.Runs cameras later := by
  cases runs with
  | before at_start still holds shown =>
    exact .before (publish ▸ at_start) (running.trans still) (same.mpr holds) (active shown)
  | starting cameraId starts still found holds =>
    exact .starting cameraId (publish.trans starts) (running.trans still) found (same.mpr holds)
  | configured cameraId outcome starts runs found holds =>
    exact .configured cameraId outcome (publish.trans starts) (running.trans runs) found (same.mpr holds)
  | returned ends runs => exact .returned (publish.trans ends) (by rw [running,same]; exact runs)
  | threw ends still => exact .threw (publish.trans ends) (running.trans still)

theorem step_runs (early : Prop) (s after : CameraWiring) (event : WiringEvent) (runs : s.Runs cameras early)
    (taken : s.step hardware cameras event = some after) : after.Runs cameras (early ∧ Unanswered s event) := by
  have other (different : event ≠ .listSent (.ok ())) : early ∧ Unanswered s event ↔ early :=
    and_iff_left (fun same => absurd same different)
  cases s.step_moves hardware cameras after event taken with
  | attached fresh => exact runs.kept cameras early _ s _ (other (by simp)) rfl rfl id
  | switching cameraId free wired => exact runs.kept cameras early _ s _ (other (by simp)) rfl rfl id
  | switchConfigured cameraId awaits => exact runs.kept cameras early _ s _ (other (by simp)) rfl rfl id
  | switchThrew cameraId error awaits => exact runs.kept cameras early _ s _ (other (by simp)) rfl rfl id
  | unwired cameraId free wired =>
    exact runs.kept cameras early _ s _ (other (by simp)) rfl rfl (fun _ => List.getLast?_concat.symm)
  | switched cameraId awaits =>
    exact runs.kept cameras early _ s _ (other (by simp)) rfl rfl (fun _ => List.getLast?_concat.symm)
  | published wired fresh =>
    cases runs with
    | before at_start still holds active => exact .before (.inr rfl) still ((other (by simp)).mpr holds) active
    | starting cameraId starts => exact nomatch fresh.symm.trans starts
    | configured cameraId outcome starts => exact nomatch fresh.symm.trans starts
    | returned ends => exact nomatch fresh.symm.trans ends
    | threw ends => exact nomatch fresh.symm.trans ends
  | listLost description sending =>
    cases runs with
    | before at_start still holds active => exact .threw rfl still
    | starting cameraId starts => exact nomatch sending.symm.trans starts
    | configured cameraId outcome starts => exact nomatch sending.symm.trans starts
    | returned ends => exact nomatch sending.symm.trans ends
    | threw ends => exact nomatch sending.symm.trans ends
  | starts first sending found idle =>
    cases runs with
    | before at_start still holds active =>
      have unanswered : s.answered = [] := List.getLast?_eq_none_iff.mp (active.symm.trans idle)
      exact .starting first.id rfl still (listed_of_first cameras first found) ⟨holds,fun _ => unanswered⟩
    | starting cameraId starts => exact nomatch sending.symm.trans starts
    | configured cameraId outcome starts => exact nomatch sending.symm.trans starts
    | returned ends => exact nomatch sending.symm.trans ends
    | threw ends => exact nomatch sending.symm.trans ends
  | skips sending blocked =>
    cases runs with
    | before at_start still holds active =>
      refine .returned rfl (iff_of_false (Bool.eq_false_iff.mp still) ?_)
      rintro ⟨listed,_,unanswered⟩
      rcases blocked with none | answered
      · exact listed ((firstCamera_none cameras).mp none)
      · rw [active,unanswered rfl] at answered
        exact answered rfl
    | starting cameraId starts => exact nomatch sending.symm.trans starts
    | configured cameraId outcome starts => exact nomatch sending.symm.trans starts
    | returned ends => exact nomatch sending.symm.trans ends
    | threw ends => exact nomatch sending.symm.trans ends
  | startConfigured cameraId starting =>
    cases runs with
    | before at_start => rcases at_start with fresh | fresh <;> exact nomatch starting.symm.trans fresh
    | starting cameraId' starts still found holds =>
      exact .configured cameraId _ rfl rfl found ((other (by simp)).mpr holds)
    | configured cameraId' outcome starts => exact nomatch starting.symm.trans starts
    | returned ends => exact nomatch starting.symm.trans ends
    | threw ends => exact nomatch starting.symm.trans ends
  | started cameraId starting =>
    cases runs with
    | before at_start => rcases at_start with fresh | fresh <;> exact nomatch starting.symm.trans fresh
    | starting cameraId' starts => exact nomatch starting.symm.trans starts
    | configured cameraId' outcome starts runs found holds =>
      obtain ⟨_,rfl⟩ : cameraId = cameraId' ∧ Except.ok () = outcome := by simpa using starting.symm.trans starts
      exact .returned rfl (iff_of_true runs ⟨found,(other (by simp)).mpr holds⟩)
    | returned ends => exact nomatch starting.symm.trans ends
    | threw ends => exact nomatch starting.symm.trans ends
  | startThrew cameraId error starting =>
    cases runs with
    | before at_start => rcases at_start with fresh | fresh <;> exact nomatch starting.symm.trans fresh
    | starting cameraId' starts => exact nomatch starting.symm.trans starts
    | configured cameraId' outcome starts runs found holds =>
      obtain ⟨_,rfl⟩ : cameraId = cameraId' ∧ Except.error error = outcome := by simpa using starting.symm.trans starts
      exact .threw rfl runs
    | returned ends => exact nomatch starting.symm.trans ends
    | threw ends => exact nomatch starting.symm.trans ends

theorem run_runs (events : List WiringEvent) (s : CameraWiring)
    (run : exec (fun s => s.step hardware cameras) .start events = some s) :
    s.Runs cameras (Along (fun s => s.step hardware cameras) Unanswered .start events) := by
  refine (exec_history (fun s : CameraWiring => s.step hardware cameras) (fun _ _ => True)
    (fun s history => exec (fun s => s.step hardware cameras) .start history = some s ∧
      s.Runs cameras (Along (fun s => s.step hardware cameras) Unanswered .start history)) ?_ events .start s []
    ⟨rfl,.before (.inl rfl) rfl trivial rfl⟩ (along_trivial _ events _) run).2
  intro s history event after ⟨reached,runs⟩ _ taken
  constructor
  · rw [exec_append,reached]
    change (exec _ s [event]) = some after
    rw [exec_cons]
    exact ⟨after,taken,rfl⟩
  · refine (step_runs hardware cameras _ s after event runs taken).kept cameras _ _ _ _ ?_ rfl rfl id
    exact along_snoc _ _ history event .start s reached

end CameraWiring

/-- The capture session runs, when the wiring is done, just where CAMERA_LIST was out before the phone answered
any SET_CAMERA: an earlier answer makes a camera active that was never started. -/
theorem camera_runs_iff (events : List WiringEvent) (s : CameraWiring)
    (run : exec (fun s => s.step hardware cameras) .start events = some s) (returned : s.publish = .returned) :
    s.running = true ↔ cameras ≠ [] ∧ Along (fun s => s.step hardware cameras) Unanswered .start events := by
  cases CameraWiring.run_runs hardware cameras events s run with
  | before at_start => rcases at_start with fresh | fresh <;> exact nomatch returned.symm.trans fresh
  | starting cameraId starts => exact nomatch returned.symm.trans starts
  | configured cameraId outcome starts => exact nomatch returned.symm.trans starts
  | returned ends runs => exact runs
  | threw ends => exact nomatch returned.symm.trans ends

def wideCamera : CameraEntry := ⟨"wide","Back Camera",.back,1920,1080,60,["nv12"]⟩

def freeCameras : Hardware := ⟨fun _ => true,fun _ => .ok (),fun _ _ => true,fun _ => true⟩

def wiringTurns : List WiringEvent := [.attached,.published,.listSent (.ok ()),.startConfigured,.startReturned]

theorem camera_runs_iff_wired : ∃ s,
    exec (fun s => CameraWiring.step freeCameras [wideCamera] s) .start wiringTurns = some s ∧
    (s.running = true ↔ [wideCamera] ≠ [] ∧
      Along (fun s => CameraWiring.step freeCameras [wideCamera] s) Unanswered .start wiringTurns) :=
  ⟨_,rfl,camera_runs_iff freeCameras [wideCamera] wiringTurns _ rfl rfl⟩

/-- A SET_CAMERA in the moment before the wiring leaves the session stopped, with a camera reported as active. -/
example : (exec (fun s => CameraWiring.step freeCameras [wideCamera] s) .start
    [.setCamera "front",.attached,.published,.listSent (.ok ())]).map (fun s => (s.publish,s.running,s.answered)) =
    some (.returned,false,["front"]) := by decide

/-- The camera that the engine is to have, once the outcome of a call that awaits it is known. -/
def CameraWiring.expected (s : CameraWiring) : List String :=
  match s.switching with
  | some (cameraId,some (.ok _)) => [cameraId]
  | _ =>
    match s.publish with
    | .starting cameraId (some (.ok _)) => [cameraId]
    | _ => s.activeCameraId.toList

def CameraWiring.starting (s : CameraWiring) : Bool :=
  match s.publish with
  | .starting _ _ => true
  | _ => false

/-- No camera is switched to before the engine is attached or while it is started, and none is started while
another is switched to: a CAMERA_LIST that is out starts one where there is any and none is active. -/
def Apart (s : CameraWiring) : WiringEvent → Prop
  | .setCamera _ => s.attached = true ∧ s.starting = false
  | .listSent (.ok _) => cameras ≠ [] → s.activeCameraId = none → s.switching = none
  | _ => True

instance : ∀ s event, Decidable (Apart cameras s event)
  | s, .setCamera _ => inferInstanceAs (Decidable (s.attached = true ∧ s.starting = false))
  | s, .listSent (.ok _) => inferInstanceAs (Decidable (cameras ≠ [] → s.activeCameraId = none → s.switching = none))
  | _, .attached | _, .published | _, .listSent (.error _) | _, .startConfigured | _, .startReturned
  | _, .switchConfigured | _, .switchReturned => .isTrue trivial

def switchTurns (cameraId : String) : List WiringEvent := [.setCamera cameraId,.switchConfigured,.switchReturned]

structure CameraWiring.Settled (s : CameraWiring) : Prop where
  inputs : s.engine.inputs = s.expected
  apart : s.switching = none ∨ s.starting = false

theorem configure_cases (session : CaptureSession) (cameraId : String) (initial : Bool)
    (switchable : Switchable hardware session cameraId) :
    (∃ error, AVCaptureEngine.configure hardware session cameraId initial = (session,.error error)) ∨
      ((AVCaptureEngine.configure hardware session cameraId initial).2 = .ok () ∧
        (AVCaptureEngine.configure hardware session cameraId initial).1.inputs = [cameraId]) := by
  unfold AVCaptureEngine.configure
  simp only [emptied_eq]
  cases device : hardware.device cameraId with
  | false => exact .inl ⟨_,rfl⟩
  | true =>
    obtain ⟨made,added⟩ := switchable.resolve_left (by simp [device])
    refine .inr ?_
    rw [made]
    simp only [added,not_true_eq_false,if_false,if_true]
    refine ⟨trivial,?_⟩
    split <;> rfl

namespace CameraWiring

/-- With no call that has its outcome, the engine is to have the active camera. -/
theorem expected_active (s : CameraWiring) (still : s.starting = false)
    (unset : ∀ cameraId, s.switching ≠ some (cameraId,some (.ok ()))) : s.expected = s.activeCameraId.toList := by
  unfold expected
  split
  · next cameraId done switched => exact absurd switched (unset cameraId)
  · split
    · next cameraId done starts => simp [starting,starts] at still
    · rfl

theorem Settled.active (s : CameraWiring) (still : s.starting = false)
    (unset : ∀ cameraId, s.switching ≠ some (cameraId,some (.ok ())))
    (inputs : s.engine.inputs = s.activeCameraId.toList) : s.Settled :=
  ⟨inputs.trans (expected_active s still unset).symm,.inr still⟩

/-- The publishing call goes on where the engine is not concerned. -/
theorem Settled.kept (s after : CameraWiring) (settled : s.Settled) (engine : after.engine = s.engine)
    (switching : after.switching = s.switching) (active : after.activeCameraId = s.activeCameraId)
    (before : s.starting = false) (still : after.starting = false) : after.Settled := by
  have inputs : after.engine.inputs = s.expected := engine ▸ settled.inputs
  refine ⟨inputs.trans ?_,.inr still⟩
  cases called : s.switching with
  | none =>
    rw [expected_active after still (by simp [switching,called]),expected_active s before (by simp [called]),active]
  | some call =>
    obtain ⟨cameraId,outcome⟩ := call
    rcases outcome with _ | error | done
    · rw [expected_active after still (by simp [switching,called]),expected_active s before (by simp [called]),active]
    · rw [expected_active after still (by simp [switching,called]),expected_active s before (by simp [called]),active]
    · simp only [expected,switching,called]

theorem step_settled (free : ∀ session cameraId, Switchable hardware session cameraId) (s after : CameraWiring)
    (event : WiringEvent) (settled : s.Settled) (apart : Apart cameras s event)
    (taken : s.step hardware cameras event = some after) : after.Settled := by
  have inputs := settled.inputs
  cases s.step_moves hardware cameras after event taken with
  | attached fresh => exact ⟨inputs,settled.apart⟩
  | published wired fresh => exact .kept s _ settled rfl rfl rfl (by simp only [starting,fresh]) rfl
  | listLost description sending => exact .kept s _ settled rfl rfl rfl (by simp only [starting,sending]) rfl
  | skips sending blocked => exact .kept s _ settled rfl rfl rfl (by simp only [starting,sending]) rfl
  | starts first sending found idle =>
    have silent : s.switching = none := apart (listed_of_first cameras first found) idle
    refine ⟨?_,.inl silent⟩
    rw [expected_active s (by simp [starting,sending]) (by simp [silent])] at inputs
    simpa only [expected,silent] using inputs
  | startConfigured cameraId starts =>
    have silent : s.switching = none := settled.apart.resolve_right (by simp [starting,starts])
    refine ⟨?_,.inl silent⟩
    rcases configure_cases hardware s.engine cameraId true (free s.engine cameraId) with
      ⟨error,result⟩ | ⟨outcome,only⟩
    · simp only [expected,silent,starts] at inputs
      simpa only [expected,silent,result] using inputs
    · simpa only [expected,silent,outcome] using only
  | started cameraId starts =>
    have silent : s.switching = none := settled.apart.resolve_right (by simp [starting,starts])
    have before : s.expected = [cameraId] := by simp only [expected,silent,starts]
    exact .active _ rfl (by simp [silent]) (inputs.trans before)
  | startThrew cameraId error starts =>
    have silent : s.switching = none := settled.apart.resolve_right (by simp [starting,starts])
    refine .active _ rfl (by simp [silent]) ?_
    simpa only [expected,silent,starts] using inputs
  | switching cameraId silent wired =>
    have before := expected_active s apart.2 (by simp [silent])
    exact .active _ apart.2 (by simp) (inputs.trans before)
  | unwired cameraId silent wired => exact absurd (wired.symm.trans apart.1) (by decide)
  | switchConfigured cameraId awaits =>
    have still : s.starting = false := settled.apart.resolve_left (by simp [awaits])
    unfold AVCaptureEngine.setCamera
    rcases configure_cases hardware s.engine cameraId false (free s.engine cameraId) with
      ⟨error,result⟩ | ⟨outcome,only⟩
    · rw [result]
      have before := expected_active s still (by simp [awaits])
      exact .active _ still (by simp) (inputs.trans before)
    · rw [outcome]
      exact ⟨only,.inr still⟩
  | switched cameraId awaits =>
    have still : s.starting = false := settled.apart.resolve_left (by simp [awaits])
    have before : s.expected = [cameraId] := by simp only [expected,awaits]
    exact .active _ still (by simp) (inputs.trans before)
  | switchThrew cameraId error awaits =>
    have still : s.starting = false := settled.apart.resolve_left (by simp [awaits])
    have before := expected_active s still (by simp [awaits])
    exact .active _ still (by simp) (inputs.trans before)

theorem run_settled (free : ∀ session cameraId, Switchable hardware session cameraId) (events : List WiringEvent)
    (s : CameraWiring) (run : exec (fun s => s.step hardware cameras) .start events = some s)
    (apart : Along (fun s => s.step hardware cameras) (Apart cameras) .start events) : s.Settled := by
  refine exec_invariant _ (Apart cameras) Settled events ?_ .start s ⟨rfl,.inl rfl⟩ apart run
  intro s event after _ settled alone taken
  exact step_settled hardware cameras free s after event settled alone taken

end CameraWiring

/-- With cameras that can all be switched to, and no SET_CAMERA while the camera is wired, the session's only input
is the active camera whenever no call awaits the engine. -/
theorem active_camera_is_input (free : ∀ session cameraId, Switchable hardware session cameraId)
    (events : List WiringEvent) (s : CameraWiring)
    (run : exec (fun s => s.step hardware cameras) .start events = some s)
    (apart : Along (fun s => s.step hardware cameras) (Apart cameras) .start events) (silent : s.switching = none)
    (still : s.starting = false) : s.engine.inputs = s.activeCameraId.toList := by
  rw [(CameraWiring.run_settled hardware cameras free events s run apart).inputs]
  exact CameraWiring.expected_active s still (by simp [silent])

theorem active_camera_is_input_switched : ∃ s,
    exec (fun s => CameraWiring.step freeCameras [wideCamera] s) .start (wiringTurns ++ switchTurns "front") = some s ∧
    s.engine.inputs = s.activeCameraId.toList := by
  refine ⟨_,rfl,active_camera_is_input freeCameras [wideCamera] (fun _ _ => .inr ⟨rfl,rfl⟩)
    (wiringTurns ++ switchTurns "front") _ rfl ?_ rfl rfl⟩
  decide

/-- A switch that returns while the first camera is started is answered, and then forgotten. -/
example : (exec (fun s => CameraWiring.step freeCameras [wideCamera] s) .start
    ([.attached,.published,.listSent (.ok ()),.startConfigured] ++ switchTurns "front" ++ [.startReturned])).map
      (fun s => (s.engine.inputs,s.activeCameraId)) = some (["front"],some "wide") := by decide

end Wiring
end ClearCam.Ios

import ClearCam.App.SessionSteps
import ClearCam.App.Attempts

/-! The binding of USB media streams. The consumer reads the `MEDIA_HELLO` of the stream that was
dialed with the control stream and starts a pipeline on whatever it says. -/
namespace ClearCam.App
open ClearCam.Session ClearCam.Pairing ClearCam.Library

def Session.credential (session : Session) : MediaBinding :=
  ⟨session.accepted.sessionId,session.accepted.token⟩

/-- The session whose `MEDIA_HELLO` the consumer awaits. -/
def AppState.greeting (app : AppState) : Option Session :=
  match app.usb with
  | .greeting _ i => app.sessions[i]?
  | _ => none

def Label.mediaHello : Label → Option Recv
  | .usbHello recv => some recv
  | _ => none

/-- A `MEDIA_HELLO` that can be read at all carries the credential of its session. -/
def Credentialed (app : AppState) (label : Label) : Prop :=
  ∀ recv ∈ label.mediaHello, ∀ session ∈ app.greeting, ∀ binding ∈ (readMediaHello recv).toOption,
    binding = session.credential

/-- A step that starts a pipeline on the dialed media stream was sent the session's credential. -/
def BindsCredential (token : String) (app : AppState) (label : Label) : Prop :=
  ∀ recv dialed i next, label = .usbHello recv → app.usb = .greeting dialed i →
    app.step token label = some next → next.media i = some (.attached dialed.media) →
    ∃ session, app.sessions[i]? = some session ∧ readMediaHello recv = .ok session.credential

theorem media_of_session (app : AppState) (i : Nat) (session : Session) (held : app.sessions[i]? = some session) :
    app.media i = some session.media := by
  rw [AppState.media,held]
  rfl

theorem greeted_media (app : AppState) (i : Nat) (session : Session) (media : Media)
    (held : app.sessions[i]? = some session) :
    ((app.setTask i .spawned).setMedia i media).media i = some media := by
  refine media_of_session _ i {session with task := .spawned, media := media} ?_
  rw [AppState.setMedia,AppState.modify,List.getElem?_modify,AppState.setTask,AppState.modify,
    List.getElem?_modify,held]
  simp

theorem ungreeted_media (app : AppState) (i : Nat) (task : Task) : (app.setTask i task).media i = app.media i := by
  rw [AppState.media,AppState.media,AppState.setTask,AppState.modify,List.getElem?_modify]
  cases app.sessions[i]? with
  | none => rfl
  | some session => simp

theorem bindsCredential_iff (token : String) (app next : AppState) (label : Label) (separate : Separate app)
    (taken : app.step token label = some next) : BindsCredential token app label ↔ Credentialed app label := by
  have stepped := step_stepped token app next label taken
  constructor
  · intro binds heard said session found other read
    cases stepped with
    | usbGreeted recv dialed i binding pc greeted =>
      obtain rfl : recv = heard := Option.some.inj said
      rw [AppState.greeting,pc] at found
      rw [greeted] at read
      obtain rfl : binding = other := Option.some.inj read
      obtain ⟨owner,held,presented⟩ := binds recv dialed i _ rfl pc taken (greeted_media app i session _ found)
      obtain rfl := Option.some.inj (held.symm.trans found)
      exact Except.ok.inj (greeted.symm.trans presented)
    | usbUngreeted recv dialed i error pc failed =>
      obtain rfl : recv = heard := Option.some.inj said
      rw [failed] at read
      cases read
    | _ => cases said
  · intro credentialed recv dialed i after same pc again attached
    subst same
    obtain rfl : next = after := Option.some.inj (taken.symm.trans again)
    obtain ⟨session,held,wired,counted⟩ := separate.consistent.usb i .counted (by rw [pc]; rfl)
    refine ⟨session,held,?_⟩
    cases stepped with
    | usbGreeted _ other j binding there greeted =>
      rw [greeted]
      refine congrArg Except.ok (credentialed recv rfl session ?_ binding ?_)
      · rw [AppState.greeting,pc]
        exact held
      · rw [greeted]
        rfl
    | usbUngreeted _ other j error there failed =>
      -- no other task hands a stream to a session that the consumer has in hand
      obtain ⟨_,rfl⟩ : other = dialed ∧ j = i := by simpa [pc] using there.symm
      have waiting := separate.unattached j session held wired (by rw [counted]; rfl)
      have media := (ungreeted_media app j .withdrawing).symm.trans attached
      rw [media_of_session app j session held,waiting] at media
      cases media

/-- Over a whole run, every pipeline that the consumer starts was asked for with the credential of its
session just when every `MEDIA_HELLO` that it can read carries that credential: it checks nothing. -/
theorem usb_media_credential_iff (token : String) (controlPort mediaPort : UInt16) (labels : List Label)
    (last : AppState) (run : exec (AppState.step token) (.start controlPort mediaPort) labels = some last) :
    Along (AppState.step token) (BindsCredential token) (.start controlPort mediaPort) labels ↔
      Along (AppState.step token) Credentialed (.start controlPort mediaPort) labels := by
  refine along_congr (AppState.step token) Separate _ _ ?_ ?_ labels _ last
    (start_separate controlPort mediaPort) run
  · intro app label next separate _ taken
    exact step_separate token app next label separate taken
  · intro app label next separate taken
    exact bindsCredential_iff token app next label separate taken

instance decidableCredentialed (app : AppState) (label : Label) : Decidable (Credentialed app label) :=
  inferInstanceAs (Decidable (∀ recv ∈ label.mediaHello, ∀ session ∈ app.greeting,
    ∀ binding ∈ (readMediaHello recv).toOption, binding = session.credential))

def usbSession (hello : MediaBinding) : List Label :=
  [.usbTake ⟨"u",10,11⟩,.usbResolve (.ok (some ⟨[1,2,3]⟩)),.usbHandshake (pairedUsbWire "AQID") "b",.usbPublish,
    .usbCount,.usbHello (.envelope ⟨0,none,.mediaHello ⟨hello.sessionId,hello.token⟩⟩)]

def usbAttached (hello : MediaBinding) : AppState :=
  (exec (AppState.step "t") (.start 7000 7001) (usbSession hello)).getD (.start 7000 7001)

theorem own_credential_binds :
    (usbAttached ⟨"sess-b","AQID"⟩).media 0 = some (.attached 11) ∧
    Along (AppState.step "t") (BindsCredential "t") (.start 7000 7001) (usbSession ⟨"sess-b","AQID"⟩) := by
  refine ⟨rfl,(usb_media_credential_iff "t" 7000 7001 _ (usbAttached ⟨"sess-b","AQID"⟩) rfl).mpr ?_⟩
  decide +kernel

def usbAwaiting : AppState :=
  (exec (AppState.step "t") (.start 7000 7001) ((usbSession ⟨"sess-x","wrong"⟩).take 5)).getD (.start 7000 7001)

/-- A stream that says it belongs to some other session gets a pipeline all the same. -/
theorem foreign_credential_attached :
    exec (AppState.step "t") (.start 7000 7001) (usbSession ⟨"sess-x","wrong"⟩) =
      some (usbAttached ⟨"sess-x","wrong"⟩) ∧
    (usbAttached ⟨"sess-x","wrong"⟩).media 0 = some (.attached 11) ∧
    ((usbAttached ⟨"sess-x","wrong"⟩).sessions.map Session.credential) = [⟨"sess-b","AQID"⟩] ∧
    ¬Along (AppState.step "t") (BindsCredential "t") (.start 7000 7001) (usbSession ⟨"sess-x","wrong"⟩) := by
  refine ⟨rfl,rfl,rfl,?_⟩
  intro binds
  rw [along_iff] at binds
  have bound := binds ((usbSession ⟨"sess-x","wrong"⟩).take 5) _ [] usbAwaiting rfl rfl
  obtain ⟨session,held,said⟩ := bound _ ⟨"u",10,11⟩ 0 (usbAttached ⟨"sess-x","wrong"⟩) rfl rfl rfl rfl
  have own : usbAwaiting.sessions[0]?.map Session.credential = some ⟨"sess-b","AQID"⟩ := rfl
  have presented : session.credential = ⟨"sess-x","wrong"⟩ := (Except.ok.inj said).symm
  rw [held,Option.map_some,presented] at own
  exact absurd own (by decide)

end ClearCam.App

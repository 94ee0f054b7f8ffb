import ClearCam.App.SessionSteps
import ClearCam.App.Succession
import ClearCam.Media.Pipeline

/-! How long media lives. A media pipeline is a task of its own: it runs until its stream ends, and
nothing ties it, or the entry that waits for its stream, to the control plane of its session. -/
namespace ClearCam.App
open ClearCam.Session ClearCam.Media ClearCam.Library

/-- The app with its running pipelines, each by its session, and the frames that they have submitted
to the sinks. -/
structure Streaming where
  app : AppState
  pipelines : List Nat
  fed : List (Nat × Frame)

inductive StreamLabel where
  | app (label : Label)
  | frame (session : Nat) (record : MediaFrame)
  | exit (session : Nat)

/-- The session that a step spawns a pipeline for. -/
def AppState.spawns (app : AppState) : Label → Option Nat
  | .attach i => some i
  | .usbHello recv =>
    match app.usb, readMediaHello recv with
    | .greeting _ i, .ok _ => some i
    | _, _ => none
  | _ => none

/-- What one record makes a pipeline submit to each of its sinks. -/
def submits (decode : Codec → List UInt8 → FrameHint → Option Frame) (record : MediaFrame) : List Frame :=
  (handleFrame (stateless decode) record ⟨(),[[]],none⟩).sinks.flatten

variable (decode : Codec → List UInt8 → FrameHint → Option Frame) (token : String)

def Streaming.step (s : Streaming) : StreamLabel → Option Streaming
  | .app label => (s.app.step token label).map fun app =>
    {s with app := app, pipelines := s.pipelines ++ (s.app.spawns label).toList}
  | .frame i record =>
    if i ∈ s.pipelines then some {s with fed := s.fed ++ (submits decode record).map fun frame => (i,frame)}
    else none
  | .exit i => if i ∈ s.pipelines then some {s with pipelines := s.pipelines.erase i} else none

def Streaming.start (controlPort mediaPort : UInt16) : Streaming := ⟨.start controlPort mediaPort,[],[]⟩

/-- Every running pipeline belongs to a session that is not over. -/
def Streaming.Bounded (s : Streaming) : Prop := ∀ i ∈ s.pipelines, s.app.live i = true

/-- The control plane of the session returns on this input. -/
def AppState.returns (app : AppState) (i : Nat) (input : PlaneInput) : Bool :=
  match app.task i with
  | some (.running plane) => (plane.handle app.channels input).2.returned
  | _ => false

def StreamLabel.ends (app : AppState) : StreamLabel → Option Nat
  | .app (.plane i input) => if app.returns i input then some i else none
  | _ => none

def StreamLabel.attaches : StreamLabel → Option Nat
  | .app (.attach i) => some i
  | _ => none

/-- No control plane returns on a step that finds a pipeline of its session running, and no stream is
attached to a session that is over. -/
def Tied (s : Streaming) (label : StreamLabel) : Prop :=
  (∀ i ∈ label.ends s.app, i ∉ s.pipelines) ∧ ∀ i ∈ label.attaches, s.app.live i = true

instance decidableTied (s : Streaming) (label : StreamLabel) : Decidable (Tied s label) :=
  inferInstanceAs (Decidable ((∀ i ∈ label.ends s.app, i ∉ s.pipelines) ∧ ∀ i ∈ label.attaches, s.app.live i = true))

theorem tied_of_aside (s : Streaming) (label : StreamLabel) (running : label.ends s.app = none)
    (aside : label.attaches = none) : Tied s label := by
  constructor
  · intro i ended
    rw [running] at ended
    cases ended
  · intro i attached
    rw [aside] at attached
    cases attached

/-- A pipeline's session has been handed its stream. -/
structure Streaming.Formed (s : Streaming) : Prop where
  separate : Separate s.app
  handed : ∀ i ∈ s.pipelines, ∃ session, s.app.sessions[i]? = some session ∧ session.media ≠ .waiting

omit decode in
/-- The session that a pipeline is spawned for has its stream, and ends or lives on as before. -/
theorem step_spawns (app next : AppState) (label : Label) (i : Nat) (consistent : Consistent app)
    (taken : app.step token label = some next) (spawned : app.spawns label = some i) :
    ∃ session, next.sessions[i]? = some session ∧ session.media ≠ .waiting ∧
      (label = .attach i ∧ next.live i = app.live i ∨ label ≠ .attach i ∧ next.live i = true) := by
  cases step_stepped token app next label taken with
  | attached k socket delivered =>
    obtain rfl := Option.some.inj spawned
    obtain ⟨session,held,_⟩ := Option.map_eq_some_iff.mp delivered
    have kept : (app.setMedia k (.attached socket)).sessions[k]? = some {session with media := .attached socket} := by
      rw [AppState.setMedia,AppState.modify,List.getElem?_modify,held]
      simp
    refine ⟨_,kept,(by intro waiting; cases waiting),.inl ⟨rfl,?_⟩⟩
    have task := task_of_session (app.setMedia k (.attached socket)) k _ kept
    change ((app.setMedia k (.attached socket)).task k).any Task.live = (app.task k).any Task.live
    rw [task,task_of_session app k session held]
  | usbGreeted recv dialed k binding pc greeted =>
    rw [AppState.spawns,pc,greeted] at spawned
    obtain rfl := Option.some.inj spawned
    obtain ⟨session,held,_⟩ := consistent.usb k .counted (by rw [pc]; rfl)
    have kept : ((app.setTask k .spawned).setMedia k (.attached dialed.media)).sessions[k]? =
        some {session with task := .spawned, media := .attached dialed.media} := by
      rw [AppState.setMedia,AppState.modify,List.getElem?_modify,AppState.setTask,AppState.modify,
        List.getElem?_modify,held]
      simp
    refine ⟨_,kept,(by intro waiting; cases waiting),.inr ⟨(by intro same; cases same),?_⟩⟩
    have task := task_of_session ((app.setTask k .spawned).setMedia k (.attached dialed.media)) k _ kept
    change (((app.setTask k .spawned).setMedia k (.attached dialed.media)).task k).any Task.live = true
    rw [task]
    rfl
  | usbUngreeted recv dialed k error pc failed =>
    rw [AppState.spawns,pc,failed] at spawned
    cases spawned
  | _ => cases spawned

omit decode in
theorem step_handed (app next : AppState) (label : Label) (i : Nat) (session : Session)
    (consistent : Consistent app) (taken : app.step token label = some next)
    (held : app.sessions[i]? = some session) (handed : session.media ≠ .waiting) :
    ∃ after, next.sessions[i]? = some after ∧ after.media ≠ .waiting := by
  cases step_session token app next label consistent taken i with
  | same kept => exact ⟨session,kept.trans held,handed⟩
  | created fresh absent kept task media =>
    rw [absent] at held
    cases held
  | moved before after found kept moves =>
    obtain rfl := Option.some.inj (found.symm.trans held)
    exact ⟨_,kept,handed⟩
  | delivered before socket pair found known kept => exact ⟨_,kept,by intro waiting; cases waiting⟩
  | attached before socket found here given kept => exact ⟨_,kept,by intro waiting; cases waiting⟩
  | greeted before socket found wired counted kept => exact ⟨_,kept,by intro waiting; cases waiting⟩

theorem Streaming.step_formed (s s' : Streaming) (label : StreamLabel) (formed : s.Formed)
    (taken : s.step decode token label = some s') : s'.Formed := by
  cases label with
  | app label =>
    obtain ⟨app,stepped,rfl⟩ := Option.map_eq_some_iff.mp taken
    refine ⟨step_separate token s.app app label formed.separate stepped,?_⟩
    intro i member
    rcases List.mem_append.mp member with old | new
    · obtain ⟨session,held,handed⟩ := formed.handed i old
      exact step_handed token s.app app label i session formed.separate.consistent stepped held handed
    · obtain ⟨session,kept,handed,_⟩ := step_spawns token s.app app label i formed.separate.consistent stepped
        (Option.mem_toList.mp new)
      exact ⟨session,kept,handed⟩
  | frame i record =>
    rw [Streaming.step] at taken
    split at taken
    · obtain rfl := Option.some.inj taken
      exact ⟨formed.separate,formed.handed⟩
    · cases taken
  | exit i =>
    rw [Streaming.step] at taken
    split at taken
    · obtain rfl := Option.some.inj taken
      exact ⟨formed.separate,fun j member => formed.handed j (List.mem_of_mem_erase member)⟩
    · cases taken

omit decode in
theorem plane_returned (app next : AppState) (k : Nat) (input : PlaneInput)
    (ended : app.returns k input = true)
    (taken : app.step token (.plane k input) = some next) : next.task k = some .returned := by
  cases step_stepped token app next _ taken with
  | planeStepped _ _ plane after channels held handled =>
    simp only [AppState.returns,held,handled] at ended
    refine (setTask_task app k k _ _ held).trans ?_
    rw [if_pos rfl,if_pos ended]

omit decode in
/-- A session with a pipeline lives on, but for the step on which its control plane returns. -/
theorem Streaming.step_live (s : Streaming) (app : AppState) (label : Label) (formed : s.Formed)
    (bounded : s.Bounded) (stepped : s.app.step token label = some app) (i : Nat) (member : i ∈ s.pipelines) :
    app.live i = true ∨ ∃ input, label = .plane i input ∧ s.app.returns i input = true := by
  rcases ClearCam.App.step_live token s.app app label formed.separate.consistent stepped i (bounded i member) with
    live | ⟨owner,found,wired,counted⟩ | ⟨input,plane,here,running,ended⟩
  · exact .inl live
  · obtain ⟨session,held,handed⟩ := formed.handed i member
    obtain rfl := Option.some.inj (held.symm.trans found)
    exact absurd (formed.separate.unattached i session held wired (by rw [counted]; rfl)) handed
  · refine .inr ⟨input,here,?_⟩
    simp only [AppState.returns,running]
    exact ended

theorem Streaming.step_bounded (s s' : Streaming) (label : StreamLabel) (formed : s.Formed)
    (bounded : s.Bounded) (taken : s.step decode token label = some s') : s'.Bounded ↔ Tied s label := by
  cases label with
  | frame i record =>
    rw [Streaming.step] at taken
    split at taken
    · obtain rfl := Option.some.inj taken
      exact iff_of_true bounded (tied_of_aside s _ rfl rfl)
    · cases taken
  | exit i =>
    rw [Streaming.step] at taken
    split at taken
    · obtain rfl := Option.some.inj taken
      exact iff_of_true (fun j member => bounded j (List.mem_of_mem_erase member)) (tied_of_aside s _ rfl rfl)
    · cases taken
  | app label =>
    obtain ⟨app,stepped,rfl⟩ := Option.map_eq_some_iff.mp taken
    have lives := s.step_live token app label formed bounded stepped
    have spawned := fun i => step_spawns token s.app app label i formed.separate.consistent stepped
    constructor
    · intro after
      cases label with
      | plane k input =>
        refine ⟨?_,fun _ attached => (by cases attached)⟩
        intro i ends member
        obtain ⟨ended,same⟩ := Option.ite_none_right_eq_some.mp ends
        obtain rfl := Option.some.inj same
        have live := after k (List.mem_append_left _ member)
        rw [AppState.live,plane_returned token s.app app k input ended stepped] at live
        cases live
      | attach k =>
        refine ⟨fun _ ends => (by cases ends),?_⟩
        intro i attached
        obtain rfl := Option.some.inj attached
        obtain ⟨_,_,_,⟨_,same⟩ | ⟨other,_⟩⟩ := spawned k rfl
        · exact same.symm.trans (after k (List.mem_append_right _ List.mem_cons_self))
        · exact absurd rfl other
      | _ => exact tied_of_aside s _ rfl rfl
    · intro tied i member
      rcases List.mem_append.mp member with old | new
      · rcases lives i old with live | ⟨input,rfl,ended⟩
        · exact live
        · exact absurd old (tied.1 i (if_pos ended))
      · obtain ⟨_,_,_,⟨rfl,same⟩ | ⟨_,live⟩⟩ := spawned i (Option.mem_toList.mp new)
        · exact same.trans (tied.2 i rfl)
        · exact live

def Streaming.fedBy (s : Streaming) (i : Nat) : List (Nat × Frame) := s.fed.filter fun entry => entry.1 == i

/-- With every step tied, a session that is over feeds the sinks no more. -/
theorem Streaming.step_fedBy (s s' : Streaming) (label : StreamLabel) (i : Nat) (bounded : s.Bounded)
    (finished : s.app.over i = true) (taken : s.step decode token label = some s') : s'.fedBy i = s.fedBy i := by
  cases label with
  | app label =>
    obtain ⟨app,stepped,rfl⟩ := Option.map_eq_some_iff.mp taken
    rfl
  | exit j =>
    rw [Streaming.step] at taken
    split at taken
    · obtain rfl := Option.some.inj taken
      rfl
    · cases taken
  | frame j record =>
    rw [Streaming.step] at taken
    split at taken
    · next member =>
      obtain rfl := Option.some.inj taken
      have other : j ≠ i := by
        intro same
        rw [same] at member
        exact not_live_of_over s.app i finished (bounded i member)
      simp [Streaming.fedBy,List.filter_append,other]
    · cases taken

theorem Streaming.step_over (s s' : Streaming) (label : StreamLabel) (i : Nat) (formed : s.Formed)
    (finished : s.app.over i = true) (taken : s.step decode token label = some s') : s'.app.over i = true := by
  cases label with
  | app label =>
    obtain ⟨app,stepped,rfl⟩ := Option.map_eq_some_iff.mp taken
    exact ClearCam.App.step_over token s.app app label formed.separate.consistent stepped i finished
  | exit j | frame j record =>
    rw [Streaming.step] at taken
    split at taken
    · obtain rfl := Option.some.inj taken
      exact finished
    · cases taken

theorem Streaming.start_formed (controlPort mediaPort : UInt16) : (Streaming.start controlPort mediaPort).Formed := by
  refine ⟨start_separate controlPort mediaPort,?_⟩
  intro i member
  cases member

/-- What a run of tied steps keeps of a session that is over. -/
structure Streaming.Settled (i : Nat) (fed : List (Nat × Frame)) (s : Streaming) : Prop where
  formed : s.Formed
  bounded : s.Bounded
  finished : s.app.over i = true
  silent : s.fedBy i = fed

theorem Streaming.run_settled (s t : Streaming) (labels : List StreamLabel) (i : Nat) (fed : List (Nat × Frame))
    (settled : s.Settled i fed) (tied : Along (Streaming.step decode token) Tied s labels)
    (run : exec (Streaming.step decode token) s labels = some t) : t.Settled i fed := by
  refine exec_invariant (Streaming.step decode token) Tied (Streaming.Settled i fed) labels ?_ s t settled tied run
  intro before label after _ kept condition taken
  refine ⟨before.step_formed decode token after label kept.formed taken,?_,
    before.step_over decode token after label i kept.formed kept.finished taken,?_⟩
  · exact (before.step_bounded decode token after label kept.formed kept.bounded taken).mpr condition
  · exact (before.step_fedBy decode token after label i kept.bounded kept.finished taken).trans kept.silent

/-- In every state that a run reaches the pipelines belong to sessions that are not over, just when
every step of the run is tied; and then a session that is over is attached to no stream and feeds the
sinks no more. -/
theorem media_lives_with_session_iff (controlPort mediaPort : UInt16) (labels : List StreamLabel) (last : Streaming)
    (run : exec (Streaming.step decode token) (.start controlPort mediaPort) labels = some last) :
    ((∀ before after s, labels = before ++ after →
        exec (Streaming.step decode token) (.start controlPort mediaPort) before = some s → s.Bounded) ↔
      Along (Streaming.step decode token) Tied (.start controlPort mediaPort) labels) ∧
    (Along (Streaming.step decode token) Tied (.start controlPort mediaPort) labels →
      ∀ before after s i, labels = before ++ after →
        exec (Streaming.step decode token) (.start controlPort mediaPort) before = some s →
        s.app.over i = true → .app (.attach i) ∉ after ∧ last.fedBy i = s.fedBy i) := by
  have exactly := reached_iff_along (Streaming.step decode token) Streaming.Formed Streaming.Bounded Tied
    (fun s label s' formed taken => s.step_formed decode token s' label formed taken)
    (fun s label s' formed bounded taken => s.step_bounded decode token s' label formed bounded taken)
    labels _ last (Streaming.start_formed controlPort mediaPort) (fun i member => (by cases member)) run
  refine ⟨exactly,?_⟩
  intro tied before after s i split reached finished
  have formed : s.Formed := by
    refine exec_kept (Streaming.step decode token) Streaming.Formed before ?_ _ s
      (Streaming.start_formed controlPort mediaPort) reached
    intro earlier label later _ kept taken
    exact earlier.step_formed decode token later label kept taken
  have settled : s.Settled i (s.fedBy i) := ⟨formed,exactly.mpr tied before after s split reached,finished,rfl⟩
  rw [split] at tied run
  rw [exec_append,reached] at run
  have tied := along_append_right _ _ _ _ _ _ tied reached
  refine ⟨?_,(s.run_settled decode token last after i _ settled tied run).silent⟩
  intro member
  obtain ⟨earlier,later,rfl⟩ := List.append_of_mem member
  obtain ⟨t,here,_⟩ := Option.bind_eq_some_iff.mp ((exec_append _ _ _ _).symm.trans run)
  have live := (along_iff _ _ _ _).mp tied earlier _ later t rfl here
  have still := s.run_settled decode token t earlier i _ settled (along_append_left _ _ _ _ _ tied) here
  exact not_live_of_over t.app i still.finished (live.2 i rfl)

def oneStream : List StreamLabel := oneSession.map .app ++ [.frame 0 (tinyRecord 1 [1,2,3,4,5,6])]

def partWays : StreamLabel := .app (.plane 0 (.recv 0 0 none (.ok ⟨4,none,.bye ⟨"done"⟩⟩)))

def streamedOut : Streaming :=
  (exec (Streaming.step (fun _ _ _ => none) "t") (.start 7000 7001) (oneStream ++ [.exit 0,partWays])).getD
    (.start 7000 7001)

theorem stream_ends_first :
    exec (Streaming.step (fun _ _ _ => none) "t") (.start 7000 7001) (oneStream ++ [.exit 0,partWays]) =
      some streamedOut ∧
    streamedOut.app.over 0 = true ∧ streamedOut.fedBy 0 = [(0,⟨2,2,7,1,.raw,[1,2,3,4],[5,6],true⟩)] ∧
    streamedOut.Bounded := by
  have run : exec (Streaming.step (fun _ _ _ => none) "t") (.start 7000 7001) (oneStream ++ [.exit 0,partWays]) =
      some streamedOut := rfl
  have tied : Along (Streaming.step (fun _ _ _ => none) "t") Tied (.start 7000 7001)
      (oneStream ++ [.exit 0,partWays]) := by
    decide +kernel
  have lives := (media_lives_with_session_iff (fun _ _ _ => none) "t" 7000 7001 _ streamedOut run).1.mpr tied
  exact ⟨run,rfl,rfl,lives _ [] streamedOut (List.append_nil _).symm run⟩

/-- The control plane returns while the pipeline runs, or before the stream has come. -/
def orphaned : Streaming :=
  (exec (Streaming.step (fun _ _ _ => none) "t") (.start 7000 7001) (oneStream ++ [partWays])).getD (.start 7000 7001)

def lateStream : List StreamLabel := (oneSession.take 5).map .app ++ partWays :: (oneSession.drop 5).map .app

def lateOrphan : Streaming :=
  (exec (Streaming.step (fun _ _ _ => none) "t") (.start 7000 7001) lateStream).getD (.start 7000 7001)

theorem media_outlives_session :
    (exec (Streaming.step (fun _ _ _ => none) "t") (.start 7000 7001) (oneStream ++ [partWays]) = some orphaned ∧
      orphaned.app.over 0 = true ∧ ¬orphaned.Bounded ∧
      ∃ last, orphaned.step (fun _ _ _ => none) "t" (.frame 0 (tinyRecord 2 [1,2,3,4,5,6])) = some last ∧
        (orphaned.fedBy 0).length < (last.fedBy 0).length) ∧
    (exec (Streaming.step (fun _ _ _ => none) "t") (.start 7000 7001) lateStream = some lateOrphan ∧
      lateOrphan.app.over 0 = true ∧ ¬lateOrphan.Bounded) := by
  have finished : orphaned.app.live 0 = false := rfl
  have late : lateOrphan.app.live 0 = false := rfl
  refine ⟨⟨rfl,rfl,?_,_,rfl,by decide +kernel⟩,rfl,rfl,?_⟩
  · intro bounded
    have live := bounded 0 (by decide +kernel)
    rw [finished] at live
    cases live
  · intro bounded
    have live := bounded 0 (by decide +kernel)
    rw [late] at live
    cases live

end ClearCam.App

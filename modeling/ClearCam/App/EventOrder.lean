import ClearCam.App.MediaBinding

/-! The order in which the two listeners queue the connections of a Wi-Fi client. The accept
loop reads MEDIA_HELLO inline, and the client sends it only after AUTH_OK, which comes
from the same loop: the media connection has to wait its turn behind the control one. -/
namespace ClearCam.App
open ClearCam.Session ClearCam.Library

structure Client where
  control : Nat
  media : Nat

def Client.Owns (client : Client) (peer : Peer) : Prop :=
  peer.transport = .wifi ∧ peer.control = client.control

/-- What the desktop receives on the client's sockets: on control a HELLO of this version and
the right token, on media the MEDIA_HELLO of the session it was granted, and nothing as
long as it has not been granted one. No other stream knows its session id. -/
def Client.Behaves (token : String) (client : Client) (app : AppState) : Label → Prop
  | .wifiHandshake wire _ => app.wifi = .handshaking client.control →
      ∃ inbox helloEnv hello authEnv, wire = .reliable inbox ∧ Presents .token token inbox helloEnv hello authEnv
  | .wifiHello recv =>
    (app.wifi = .greeting client.media →
      (∃ peer ∈ app.peers, client.Owns peer ∧ readMediaHello recv = .ok peer.binding) ∨
      (∀ peer ∈ app.peers, ¬ client.Owns peer) ∧ ∀ env, recv ≠ .envelope env) ∧
    (app.wifi ≠ .greeting client.media → ∀ peer ∈ app.peers, client.Owns peer →
      ∀ binding, readMediaHello recv = .ok binding → binding.sessionId ≠ peer.accepted.sessionId)
  | _ => True

def Label.connection : Label → Option WifiServerEvent
  | .connect event => some event
  | _ => none

def Client.InOrder (client : Client) (app : AppState) (label : Label) : Prop :=
  label.connection = some (.media client.media) → .control client.control ∈ app.arrived

instance (client : Client) (app : AppState) (label : Label) : Decidable (client.InOrder app label) :=
  inferInstanceAs (Decidable (_ → _))

def Client.Delivered (client : Client) (app : AppState) : Prop :=
  ∃ handover ∈ app.handed, handover.media = client.media ∧
    ∃ peer, app.peers[handover.session]? = some peer ∧ client.Owns peer

def Label.acceptLoop : Label → Bool
  | .wifiTake | .wifiHandshake _ _ | .wifiPublish | .wifiHello _ => true
  | _ => false

/-- What the accept loop can do next, however the read it waits for ends. -/
def AppState.Awaits (app : AppState) (label : Label) : Prop :=
  match app.wifi, label with
  | .idle, .wifiTake => app.queue ≠ []
  | .handshaking _, .wifiHandshake _ _ => True
  | .publishing _ _, .wifiPublish => True
  | .greeting _, .wifiHello _ => True
  | _, _ => False

theorem awaits_enabled (token : String) (app : AppState) (label : Label) (awaits : app.Awaits label) :
    (app.step token label).isSome := by
  unfold AppState.Awaits at awaits
  split at awaits
  · rename_i idle
    cases queue : app.queue with
    | nil => exact absurd queue awaits
    | cons event rest => cases event <;> simp [AppState.step,AppState.wifiTake,idle,queue]
  · rename_i socket wire uuid pc
    simp only [AppState.step,AppState.wifiHandshake,pc]
    split <;> rfl
  · rename_i socket i pc
    simp [AppState.step,AppState.wifiPublish,pc]
  · rename_i socket recv pc
    simp only [AppState.step,AppState.wifiHello,pc]
    split
    · split <;> rfl
    · rfl
  · exact awaits.elim

/-- Of the at most three steps the loop spends on an event, those spent on the one in hand. -/
def WifiLoop.spent : WifiLoop → Nat
  | .idle => 0
  | .handshaking _ | .greeting _ => 1
  | .publishing _ _ => 2

def AppState.progress (app : AppState) : Nat := 3 * app.handled.length + app.wifi.spent

theorem step_progress (token : String) (app next : AppState) (label : Label)
    (taken : app.step token label = some next) :
    app.progress + (if label.acceptLoop then 1 else 0) ≤ next.progress := by
  cases step_stepped token app next label taken with
  | controlTaken socket rest pc queued => simp [AppState.progress,Label.acceptLoop,pc,WifiLoop.spent]
  | mediaTaken socket rest pc queued => simp [AppState.progress,Label.acceptLoop,pc,WifiLoop.spent]
  | wifiAccepted wire left uuid socket accepted pc ok =>
    simp [AppState.progress,Label.acceptLoop,pc,WifiLoop.spent]
  | wifiRefused wire left uuid socket error pc failed =>
    simp [AppState.progress,Label.acceptLoop,pc,WifiLoop.spent]
    omega
  | wifiPublished socket i pc =>
    simp [AppState.progress,Label.acceptLoop,pc,WifiLoop.spent]
    omega
  | handedOver recv socket i binding pc greeted known =>
    simp [AppState.progress,Label.acceptLoop,pc,WifiLoop.spent]
    omega
  | mediaDropped recv socket pc unknown =>
    simp [AppState.progress,Label.acceptLoop,pc,WifiLoop.spent]
    omega
  | _ => exact Nat.le_refl _

theorem run_progress (token : String) (labels : List Label) (app later : AppState)
    (run : exec (AppState.step token) app labels = some later) :
    app.progress + labels.countP Label.acceptLoop ≤ later.progress := by
  induction labels generalizing app with
  | nil =>
    obtain rfl : app = later := by simpa [exec] using run
    exact Nat.le_refl _
  | cons label rest ih =>
    obtain ⟨next,taken,tail⟩ := (exec_cons _ _ _ _ _).mp run
    have first := step_progress token app next label taken
    have others := ih next tail
    rw [List.countP_cons]
    omega

theorem handled_in_time (app : AppState) (event : WifiServerEvent) (flow : Flow app)
    (arrived : event ∈ app.arrived) (enough : 3 * (app.arrived.idxOf event + 1) ≤ app.progress) :
    event ∈ app.handled := by
  have short : app.wifi.spent ≤ 2 := by cases app.wifi <;> simp [WifiLoop.spent]
  have inside : app.arrived.idxOf event < app.handled.length := by
    unfold AppState.progress at enough
    omega
  have found : app.arrived[app.arrived.idxOf event]? = some event := by
    rw [List.getElem?_eq_getElem (List.idxOf_lt_length_of_mem arrived),List.getElem_idxOf]
  rw [flow.order,List.append_assoc,List.getElem?_append_left (by rw [← List.append_assoc,← flow.order]; exact inside)] at found
  exact List.mem_of_getElem? found

/-- The invariant of a client whose connections are queued in order. -/
structure Client.Served (client : Client) (app : AppState) : Prop where
  ordered : ∀ before after, app.arrived = before ++ .media client.media :: after →
    .control client.control ∈ before
  granted : .control client.control ∈ app.handled ∨ (∃ i, app.wifi = .publishing client.control i) →
    ∃ peer ∈ app.peers, client.Owns peer
  mine : ∀ handover ∈ app.handed, ∀ peer, app.peers[handover.session]? = some peer → client.Owns peer →
    handover.media = client.media
  delivered : .media client.media ∈ app.handled → client.Delivered app

theorem start_served (client : Client) (controlPort mediaPort : UInt16) :
    client.Served (.start controlPort mediaPort) := by
  refine ⟨?_,?_,fun _ none => (by cases none),fun none => (by cases none)⟩
  · intro before after none
    simp [AppState.start] at none
  · intro grant
    rcases grant with none | ⟨i,pc⟩
    · cases none
    · cases pc

theorem correct_accepted (token uuid : String) (wire left : Wire) (error : SessionError)
    (failed : (acceptControl token serverCaps uuid).run wire = .error error left)
    (correct : ∃ inbox helloEnv hello authEnv, wire = .reliable inbox ∧
      Presents .token token inbox helloEnv hello authEnv) : False := by
  obtain ⟨inbox,helloEnv,hello,authEnv,rfl,presents⟩ := correct
  have accepted := acceptControl_correct.accepted token serverCaps uuid inbox helloEnv hello authEnv presents
  rw [outcome,failed] at accepted
  cases congrArg Prod.fst accepted

theorem Client.Served.control_first (client : Client) (app : AppState) (served : client.Served app)
    (flow : Flow app) (pc : app.wifi = .greeting client.media) : .control client.control ∈ app.handled := by
  apply served.ordered app.handled app.queue
  rw [flow.order,pc]
  simp [WifiLoop.inHand]

theorem Client.Served.awaiting (token : String) (client : Client) (app : AppState)
    (served : client.Served app) (sound : Sound token app) (pc : app.wifi = .greeting client.media)
    (peer : Peer) (member : peer ∈ app.peers) (own : client.Owns peer) :
    ∃ i, app.peers[i]? = some peer ∧
      app.pending.lookup (peer.binding.sessionId,peer.binding.token) = some i := by
  obtain ⟨i,held⟩ := List.mem_iff_getElem?.mp member
  refine ⟨i,held,(sound.bound.table _ i).mpr ⟨peer,held,own.1,rfl,?_⟩⟩
  intro handover given same
  subst same
  -- only this stream could have been handed to it, and this stream is still in hand
  have same := served.mine handover given peer held own
  have old := sound.bound.streams handover given
  have once := sound.flow.once
  rw [sound.flow.order,pc,List.append_assoc,List.nodup_append] at once
  rw [same] at old
  exact once.2.2 _ old (.media client.media) (by simp [WifiLoop.inHand]) rfl

theorem Client.Delivered.grow (client : Client) (app next : AppState) (delivered : client.Delivered app)
    (handed : app.handed ⊆ next.handed) (extra : List Peer) (peers : next.peers = app.peers ++ extra) :
    client.Delivered next := by
  obtain ⟨handover,member,stream,peer,held,own⟩ := delivered
  refine ⟨handover,handed member,stream,peer,?_,own⟩
  rw [peers,List.getElem?_append_left (List.getElem?_eq_some_iff.mp held).1]
  exact held

theorem Client.Served.unchanged (client : Client) (app next : AppState) (served : client.Served app)
    (arrived : next.arrived = app.arrived) (peers : next.peers = app.peers) (handed : next.handed = app.handed)
    (handled : next.handled = app.handled)
    (wifi : ∀ i, next.wifi = .publishing client.control i → app.wifi = .publishing client.control i) :
    client.Served next := by
  constructor
  · rw [arrived]
    exact served.ordered
  · rw [handled,peers]
    intro grant
    rcases grant with done | ⟨i,pc⟩
    · exact served.granted (.inl done)
    · exact served.granted (.inr ⟨i,wifi i pc⟩)
  · rw [handed,peers]
    exact served.mine
  · rw [handled]
    intro done
    exact (served.delivered done).grow client app next (by rw [handed]; exact List.Subset.refl _) []
      (by rw [peers,List.append_nil])

theorem Client.Served.accept (token : String) (client : Client) (app next : AppState) (fresh : Peer)
    (served : client.Served app) (bound : Bound token app) (arrived : next.arrived = app.arrived)
    (peers : next.peers = app.peers ++ [fresh]) (handed : next.handed = app.handed)
    (handled : next.handled = app.handled)
    (wifi : ∀ i, next.wifi = .publishing client.control i →
      app.wifi = .publishing client.control i ∨ client.Owns fresh) : client.Served next := by
  constructor
  · rw [arrived]
    exact served.ordered
  · rw [handled,peers]
    have old : (∃ peer ∈ app.peers, client.Owns peer) → ∃ peer ∈ app.peers ++ [fresh], client.Owns peer := by
      intro held
      rcases held with ⟨peer,member,own⟩
      exact ⟨peer,List.mem_append_left _ member,own⟩
    intro grant
    rcases grant with done | ⟨i,pc⟩
    · exact old (served.granted (.inl done))
    · obtain before | own := wifi i pc
      · exact old (served.granted (.inr ⟨i,before⟩))
      · exact ⟨fresh,by simp,own⟩
  · rw [handed,peers]
    intro handover member peer held own
    obtain ⟨other,inside,_⟩ := bound.authentic handover member
    rw [List.getElem?_append_left (List.getElem?_eq_some_iff.mp inside).1] at held
    exact served.mine handover member peer held own
  · rw [handled]
    intro done
    exact (served.delivered done).grow client app next (by rw [handed]; exact List.Subset.refl _) [fresh] peers

theorem Client.Served.finish (client : Client) (app next : AppState) (socket : Nat)
    (served : client.Served app) (arrived : next.arrived = app.arrived) (peers : next.peers = app.peers)
    (handed : next.handed = app.handed) (handled : next.handled = app.handled ++ [.control socket])
    (wifi : next.wifi = .idle)
    (granted : socket = client.control → ∃ peer ∈ app.peers, client.Owns peer) : client.Served next := by
  constructor
  · rw [arrived]
    exact served.ordered
  · rw [handled,peers,wifi]
    intro grant
    rcases grant with done | ⟨i,pc⟩
    · rw [List.mem_append,List.mem_singleton] at done
      obtain old | new := done
      · exact served.granted (.inl old)
      · exact granted (WifiServerEvent.control.inj new).symm
    · cases pc
  · rw [handed,peers]
    exact served.mine
  · rw [handled]
    intro done
    rw [List.mem_append,List.mem_singleton] at done
    obtain old | new := done
    · exact (served.delivered old).grow client app next (by rw [handed]; exact List.Subset.refl _) []
        (by rw [peers,List.append_nil])
    · cases new

theorem Client.Served.connect (client : Client) (app next : AppState) (event : WifiServerEvent)
    (served : client.Served app) (inOrder : client.InOrder app (.connect event))
    (arrived : next.arrived = app.arrived ++ [event]) (peers : next.peers = app.peers)
    (handed : next.handed = app.handed) (handled : next.handled = app.handled) (wifi : next.wifi = app.wifi) :
    client.Served next := by
  have kept := served.unchanged client app {next with arrived := app.arrived} rfl peers handed handled
    (fun i pc => wifi ▸ pc)
  refine ⟨?_,kept.granted,kept.mine,kept.delivered⟩
  intro before after split
  rw [arrived] at split
  obtain ⟨rfl,rfl,_⟩ | ⟨middle,_,earlier⟩ :=
    (split_concat app.arrived before after event (.media client.media)).mp split
  · exact inOrder rfl
  · exact served.ordered before middle earlier

theorem Client.Served.greeted (token : String) (client : Client) (app : AppState) (recv : Recv)
    (served : client.Served app) (sound : Sound token app) (behaves : client.Behaves token app (.wifiHello recv))
    (pc : app.wifi = .greeting client.media) :
    ∃ peer i, client.Owns peer ∧ app.peers[i]? = some peer ∧ readMediaHello recv = .ok peer.binding ∧
      app.pending.lookup (peer.binding.sessionId,peer.binding.token) = some i := by
  obtain ⟨peer,member,own,presented⟩ | ⟨none,_⟩ := behaves.1 pc
  · obtain ⟨i,held,known⟩ := served.awaiting token client app sound pc peer member own
    exact ⟨peer,i,own,held,presented,known⟩
  · obtain ⟨peer,member,own⟩ := served.granted (.inl (served.control_first client app sound.flow pc))
    exact absurd own (none peer member)

/-- What has been done with the control connections when the loop lets go of a media stream. -/
theorem Client.Served.released (client : Client) (app next : AppState) (socket : Nat)
    (served : client.Served app) (peers : next.peers = app.peers)
    (handled : next.handled = app.handled ++ [.media socket]) (idle : next.wifi = .idle)
    (grant : .control client.control ∈ next.handled ∨ ∃ i, next.wifi = .publishing client.control i) :
    ∃ peer ∈ next.peers, client.Owns peer := by
  rw [handled,idle,List.mem_append,List.mem_singleton] at grant
  rw [peers]
  rcases grant with (old | new) | ⟨i,publishing⟩
  · exact served.granted (.inl old)
  · cases new
  · cases publishing

theorem Client.Served.handOver (token : String) (client : Client) (app next : AppState) (recv : Recv)
    (socket k : Nat) (binding : MediaBinding) (sound : Sound token app) (served : client.Served app)
    (behaves : client.Behaves token app (.wifiHello recv)) (pc : app.wifi = .greeting socket)
    (presented : readMediaHello recv = .ok binding)
    (known : app.pending.lookup (binding.sessionId,binding.token) = some k)
    (arrived : next.arrived = app.arrived) (peers : next.peers = app.peers)
    (handed : next.handed = app.handed ++ [⟨socket,binding,k⟩])
    (handled : next.handled = app.handled ++ [.media socket]) (idle : next.wifi = .idle) :
    client.Served next := by
  obtain ⟨owner,held,_,sent,_⟩ := (sound.bound.table _ k).mp known
  refine ⟨?_,served.released client app next socket peers handled idle,?_,?_⟩
  · rw [arrived]
    exact served.ordered
  · intro handover member peer here own
    rw [peers] at here
    rw [handed,List.mem_append,List.mem_singleton] at member
    obtain old | rfl := member
    · exact served.mine handover old peer here own
    · obtain rfl : owner = peer := by simpa [held] using here
      -- no other stream presents the id of the client's session
      by_contra other
      have elsewhere : app.wifi ≠ .greeting client.media := by
        rw [pc]
        intro same
        exact other (WifiLoop.greeting.inj same)
      exact behaves.2 elsewhere owner (List.mem_of_getElem? held) own binding presented
        (Prod.mk.inj sent).1.symm
  · intro done
    rw [handled,List.mem_append,List.mem_singleton] at done
    obtain old | new := done
    · apply (served.delivered old).grow client app next _ []
      · rw [peers,List.append_nil]
      · rw [handed]
        exact List.subset_append_left _ _
    · obtain rfl : client.media = socket := WifiServerEvent.media.inj new
      obtain ⟨peer,i,own,there,again,found⟩ := served.greeted token client app recv sound behaves pc
      obtain rfl : binding = peer.binding := by simpa [presented] using again
      obtain rfl : k = i := by simpa [known] using found
      refine ⟨⟨client.media,peer.binding,k⟩,by simp [handed],rfl,peer,?_,own⟩
      rw [peers]
      exact there

theorem Client.Served.drop (token : String) (client : Client) (app next : AppState) (recv : Recv)
    (socket : Nat) (sound : Sound token app) (served : client.Served app)
    (behaves : client.Behaves token app (.wifiHello recv)) (pc : app.wifi = .greeting socket)
    (unknown : ∀ binding, readMediaHello recv = .ok binding →
      app.pending.lookup (binding.sessionId,binding.token) = none)
    (arrived : next.arrived = app.arrived) (peers : next.peers = app.peers) (handed : next.handed = app.handed)
    (handled : next.handled = app.handled ++ [.media socket]) (idle : next.wifi = .idle) :
    client.Served next := by
  refine ⟨?_,served.released client app next socket peers handled idle,?_,?_⟩
  · rw [arrived]
    exact served.ordered
  · rw [handed,peers]
    exact served.mine
  · intro done
    rw [handled,List.mem_append,List.mem_singleton] at done
    obtain old | new := done
    · apply (served.delivered old).grow client app next _ []
      · rw [peers,List.append_nil]
      · rw [handed]
        exact List.Subset.refl _
    · obtain rfl : client.media = socket := WifiServerEvent.media.inj new
      obtain ⟨peer,i,_,_,presented,known⟩ := served.greeted token client app recv sound behaves pc
      rw [unknown peer.binding presented] at known
      cases known

theorem step_served (token : String) (client : Client) (app next : AppState) (label : Label)
    (sound : Sound token app) (served : client.Served app) (behaves : client.Behaves token app label)
    (inOrder : client.InOrder app label) (taken : app.step token label = some next) : client.Served next := by
  cases step_stepped token app next label taken with
  | connected event fresh => exact served.connect client app _ event inOrder rfl rfl rfl rfl rfl
  | controlTaken socket rest idle queued | mediaTaken socket rest idle queued =>
    exact served.unchanged client app _ rfl rfl rfl rfl fun i pc => (by cases pc)
  | wifiAccepted wire left uuid socket accepted pc ok =>
    refine served.accept token client app _ ⟨.wifi,socket,accepted⟩ sound.bound rfl
      (by simp [AppState.peers,Session.peer]) rfl rfl ?_
    intro i publishing
    exact .inr ⟨rfl,(WifiLoop.publishing.inj publishing).1⟩
  | usbAccepted wire left uuid key dialed accepted pc ok =>
    exact served.accept token client app _ ⟨.usb,dialed.control,accepted⟩ sound.bound rfl
      (by simp [AppState.peers,Session.peer]) rfl rfl fun i publishing => .inl publishing
  | wifiRefused wire left uuid socket error pc failed =>
    refine served.finish client app _ socket rfl rfl rfl rfl rfl ?_
    intro same
    subst same
    exact (correct_accepted token uuid wire left error failed (behaves pc)).elim
  | wifiPublished socket k pc =>
    refine served.finish client app _ socket rfl (setTask_peers app k _) rfl rfl rfl ?_
    intro same
    subst same
    exact served.granted (.inr ⟨k,pc⟩)
  | handedOver recv socket k binding pc presented known =>
    exact served.handOver token client app _ recv socket k binding sound behaves pc presented known rfl
      (setMedia_peers app k _) rfl rfl rfl
  | mediaDropped recv socket pc unknown =>
    exact served.drop token client app _ recv socket sound behaves pc unknown rfl rfl rfl rfl rfl
  | attached k socket delivered =>
    exact served.unchanged client app _ rfl (setMedia_peers app k _) rfl rfl fun _ pc => pc
  | started k now session found spawned channels plane begun =>
    exact served.unchanged client app _ rfl (setTask_peers app k _) rfl rfl fun _ pc => pc
  | planeStepped k input plane after channels held handled =>
    exact served.unchanged client app _ rfl (setTask_peers app k _) rfl rfl fun _ pc => pc
  | outboundCleared k held | speedtestCleared k held =>
    exact served.unchanged client app _ rfl (setTask_peers app k _) rfl rfl fun _ pc => pc
  | usbPublished dialed k pc | usbCounted dialed k pc | usbWithdrawn dialed k pc =>
    exact served.unchanged client app _ rfl (setTask_peers app k _) rfl rfl fun _ pc => pc
  | usbUngreeted recv dialed k error pc failed =>
    exact served.unchanged client app _ rfl (setTask_peers app k _) rfl rfl fun _ pc => pc
  | usbGreeted recv dialed k binding pc greeted =>
    exact served.unchanged client app _ rfl ((setMedia_peers _ k _).trans (setTask_peers app k _)) rfl rfl
      fun _ pc => pc
  | _ => exact served.unchanged client app _ rfl rfl rfl rfl fun _ pc => pc

/-- In every run that queues a correct client's control connection before its media connection,
the accept loop never waits for its MEDIA_HELLO with its control connection undone and is never
stuck; when it has nothing left to do, or has taken three steps for each event up to this one,
the client's stream has been handed to its session. -/
theorem media_after_control_delivered (token : String) (controlPort mediaPort : UInt16) (client : Client)
    (labels : List Label) (app : AppState)
    (fresh : Along (AppState.step token) FreshUuid (.start controlPort mediaPort) labels)
    (behaves : Along (AppState.step token) (client.Behaves token) (.start controlPort mediaPort) labels)
    (inOrder : Along (AppState.step token) client.InOrder (.start controlPort mediaPort) labels)
    (run : exec (AppState.step token) (.start controlPort mediaPort) labels = some app) :
    ¬ (app.wifi = .greeting client.media ∧ .control client.control ∉ app.handled) ∧
    (.media client.media ∈ app.handled → client.Delivered app) ∧
    (∀ label, app.Awaits label → (app.step token label).isSome) ∧
    (.media client.media ∈ app.arrived →
      app.wifi = .idle ∧ app.queue = [] ∨
        3 * (app.arrived.idxOf (.media client.media) + 1) ≤ labels.countP Label.acceptLoop →
      client.Delivered app) := by
  have inv : Sound token app ∧ client.Served app := by
    refine exec_invariant (AppState.step token) _ (fun app => Sound token app ∧ client.Served app) labels ?_ _ app
      ⟨start_sound token controlPort mediaPort,start_served client controlPort mediaPort⟩
      (along_and _ _ _ labels _ fresh (along_and _ _ _ labels _ behaves inOrder)) run
    intro before label after _ kept condition taken
    rcases kept with ⟨sound,served⟩
    rcases condition with ⟨unused,correct,order⟩
    exact ⟨step_sound token before after label sound unused taken,
      step_served token client before after label sound served correct order taken⟩
  obtain ⟨sound,served⟩ := inv
  refine ⟨?_,served.delivered,fun label awaits => awaits_enabled token app label awaits,?_⟩
  · intro blocked
    rcases blocked with ⟨pc,undone⟩
    exact undone (served.control_first client app sound.flow pc)
  · intro arrived finished
    rcases finished with ⟨idle,empty⟩ | enough
    · apply served.delivered
      rw [sound.flow.order,idle,empty] at arrived
      simpa [WifiLoop.inHand] using arrived
    · have steps := run_progress token labels _ app run
      apply served.delivered
      apply handled_in_time app _ sound.flow arrived
      omega

theorem pairedWire_correct (token : String) : ∃ inbox helloEnv hello authEnv,
    pairedWire token = .reliable inbox ∧ Presents .token token inbox helloEnv hello authEnv :=
  ⟨_,_,_,_,rfl,[],rfl,rfl,rfl,rfl⟩

theorem one_session_media_delivered :
    ∃ app, exec (AppState.step "t") (.start 7000 7001) oneSession = some app ∧
      Client.Delivered ⟨0,0⟩ app := by
  have reached : ((exec (AppState.step "t") (.start 7000 7001) oneSession).map fun app => app.handled) =
      some [.control 0,.media 0] := by
    decide +kernel
  obtain ⟨app,run,handled⟩ := Option.map_eq_some_iff.mp reached
  refine ⟨app,run,(media_after_control_delivered "t" 7000 7001 ⟨0,0⟩ oneSession app (by decide +kernel) ?_ ?_
    run).2.1 (by rw [handled]; simp)⟩
  · refine ⟨trivial,fun s₁ t₁ => ⟨trivial,fun s₂ t₂ => ⟨fun _ => pairedWire_correct "t",fun s₃ t₃ =>
      ⟨trivial,fun s₄ t₄ => ⟨trivial,fun s₅ t₅ => ⟨trivial,fun s₆ t₆ => ⟨trivial,fun s₇ t₇ => ⟨?_,fun _ _ =>
      ⟨trivial,fun _ _ => trivial⟩⟩⟩⟩⟩⟩⟩⟩⟩
    have peers : ((exec (AppState.step "t") (.start 7000 7001) (oneSession.take 7)).map fun app =>
        (app.wifi,app.peers.map fun peer => (peer.transport,peer.control,peer.binding))) =
          some (.greeting 0,[(.wifi,0,⟨"sess-a","t"⟩)]) := by
      decide +kernel
    simp only [oneSession,List.take,exec,t₁,t₂,t₃,t₄,t₅,t₆,t₇,Option.bind_some,Option.map_some,
      Option.some.injEq,Prod.mk.injEq] at peers
    obtain ⟨pc,only⟩ := peers
    obtain ⟨peer,single,facts⟩ := List.map_eq_singleton_iff.mp only
    simp only [Prod.mk.injEq] at facts
    constructor
    · intro _
      refine .inl ⟨peer,by simp [single],⟨facts.1,facts.2.1⟩,?_⟩
      rw [facts.2.2]
      rfl
    · intro elsewhere
      exact absurd pc elsewhere
  · decide +kernel

/-- The media connection of a phone that opens both sockets at once is queued first. -/
def mediaFirst : List Label := [.connect (.media 0),.connect (.control 0),.wifiTake]

def mediaFirstServed : List Label :=
  mediaFirst ++ [.wifiHello .timeout,.wifiTake,.wifiHandshake (pairedWire "t") "a",.wifiPublish]

theorem media_first_drops_stream :
    (∃ app, exec (AppState.step "t") (.start 7000 7001) mediaFirst = some app ∧
      app.wifi = .greeting 0 ∧ .control 0 ∈ app.arrived ∧ .control 0 ∉ app.handled) ∧
    Along (AppState.step "t") (Client.Behaves "t" ⟨0,0⟩) (.start 7000 7001) mediaFirstServed ∧
    ∃ app, exec (AppState.step "t") (.start 7000 7001) mediaFirstServed = some app ∧
      app.wifi = .idle ∧ app.queue = [] ∧ app.sessions.length = 1 ∧ ¬ Client.Delivered ⟨0,0⟩ app := by
  refine ⟨?_,?_,?_⟩
  · have reached : ((exec (AppState.step "t") (.start 7000 7001) mediaFirst).map fun app =>
        (app.wifi,app.arrived,app.handled)) = some (.greeting 0,[.media 0,.control 0],[]) := by
      decide +kernel
    obtain ⟨app,run,shape⟩ := Option.map_eq_some_iff.mp reached
    simp only [Prod.mk.injEq] at shape
    exact ⟨app,run,shape.1,by simp [shape.2.1],by simp [shape.2.2]⟩
  · refine ⟨trivial,fun s₁ t₁ => ⟨trivial,fun s₂ t₂ => ⟨trivial,fun s₃ t₃ => ⟨⟨?_,?_⟩,fun _ _ => ⟨trivial,
      fun _ _ => ⟨fun _ => pairedWire_correct "t",fun _ _ => ⟨trivial,fun _ _ => trivial⟩⟩⟩⟩⟩⟩⟩
    · intro _
      have nobody : ((exec (AppState.step "t") (.start 7000 7001) mediaFirst).map fun app => app.peers) =
          some [] := by
        decide +kernel
      simp only [mediaFirst,exec,t₁,t₂,t₃,Option.bind_some,Option.map_some,Option.some.injEq] at nobody
      refine .inr ⟨?_,fun env arrived => (by cases arrived)⟩
      rw [nobody]
      simp
    · intro _ peer _ _ binding greeted
      cases greeted
  · have reached : ((exec (AppState.step "t") (.start 7000 7001) mediaFirstServed).map fun app =>
        (app.wifi,app.queue,app.sessions.length,app.handed)) = some (.idle,[],1,[]) := by
      decide +kernel
    obtain ⟨app,run,shape⟩ := Option.map_eq_some_iff.mp reached
    simp only [Prod.mk.injEq] at shape
    refine ⟨app,run,shape.1,shape.2.1,shape.2.2.1,?_⟩
    intro delivered
    rcases delivered with ⟨handover,member,_⟩
    rw [shape.2.2.2] at member
    cases member

end ClearCam.App

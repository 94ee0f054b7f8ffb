import ClearCam.App.Loops
import ClearCam.Session.HandshakeAgreement

/-! The binding of Wi-Fi media streams to sessions. The pending table always holds exactly
the sessions accepted over Wi-Fi that have not been handed a stream. -/
namespace ClearCam.App
open ClearCam.Session ClearCam.Library

structure Peer where
  transport : TransportTag
  control : Nat
  accepted : AcceptedSession
  deriving DecidableEq

def Session.peer (session : Session) : Peer := ⟨session.transport,session.control,session.accepted⟩

def Peer.binding (peer : Peer) : MediaBinding := ⟨peer.accepted.sessionId,peer.accepted.token⟩

def AppState.peers (app : AppState) : List Peer := app.sessions.map Session.peer

def WifiLoop.inHand : WifiLoop → List WifiServerEvent
  | .idle => []
  | .handshaking socket | .publishing socket _ => [.control socket]
  | .greeting socket => [.media socket]

def Label.uuid : Label → Option String
  | .wifiHandshake _ uuid | .usbHandshake _ uuid => some uuid
  | _ => none

/-- No session accepted so far was given the uuid that this step draws. -/
def FreshUuid (app : AppState) (label : Label) : Prop :=
  ∀ uuid ∈ label.uuid, ∀ session ∈ app.sessions, session.accepted.sessionId ≠ "sess-" ++ uuid

instance (app : AppState) (label : Label) : Decidable (FreshUuid app label) :=
  inferInstanceAs (Decidable (∀ uuid ∈ label.uuid, _))

theorem map_modify {α β : Type} (items : List α) (k : Nat) (f : α → α) (g : α → β)
    (same : ∀ a, g (f a) = g a) : (items.modify k f).map g = items.map g := by
  apply List.ext_getElem?
  intro i
  simp only [List.getElem?_map,List.getElem?_modify]
  cases items[i]? with
  | none => rfl
  | some a =>
    by_cases here : k = i
    · simp [here,same]
    · simp [here]

theorem nodup_map_concat {α β : Type} (items : List α) (item : α) (g : α → β) (distinct : (items.map g).Nodup)
    (unused : ∀ old ∈ items, g old ≠ g item) : ((items ++ [item]).map g).Nodup := by
  rw [List.map_append,List.nodup_append]
  refine ⟨distinct,List.nodup_singleton _,?_⟩
  intro value member new single same
  obtain ⟨old,present,rfl⟩ := List.mem_map.mp member
  rw [List.map_singleton,List.mem_singleton] at single
  exact unused old present (same.trans single)

@[simp] theorem setTask_peers (app : AppState) (k : Nat) (task : Task) :
    (app.setTask k task).peers = app.peers := map_modify _ _ _ _ fun _ => rfl

@[simp] theorem setMedia_peers (app : AppState) (k : Nat) (media : Media) :
    (app.setMedia k media).peers = app.peers := map_modify _ _ _ _ fun _ => rfl

/-- Every connection is handled, in hand or queued, and each arrived once. -/
structure Flow (app : AppState) : Prop where
  order : app.arrived = app.handled ++ app.wifi.inHand ++ app.queue
  once : app.arrived.Nodup

theorem step_flow (token : String) (app next : AppState) (label : Label) (flow : Flow app)
    (taken : app.step token label = some next) : Flow next := by
  have ⟨order,once⟩ := flow
  cases step_stepped token app next label taken with
  | connected event fresh =>
    constructor
    · simp [order]
    · rw [List.nodup_append]
      refine ⟨once,List.nodup_singleton event,?_⟩
      intro old member new single same
      rw [List.mem_singleton] at single
      rw [same,single] at member
      exact fresh member
  | controlTaken socket rest idle queued =>
    refine ⟨?_,once⟩
    rw [order,idle,queued]
    simp [WifiLoop.inHand]
  | mediaTaken socket rest idle queued =>
    refine ⟨?_,once⟩
    rw [order,idle,queued]
    simp [WifiLoop.inHand]
  | wifiAccepted wire left uuid socket accepted pc ok =>
    refine ⟨?_,once⟩
    rw [order,pc]
    rfl
  | wifiRefused wire left uuid socket error pc failed =>
    refine ⟨?_,once⟩
    rw [order,pc]
    simp [WifiLoop.inHand]
  | wifiPublished socket i pc =>
    refine ⟨?_,once⟩
    change app.arrived = (app.handled ++ [.control socket]) ++ [] ++ app.queue
    rw [order,pc]
    simp [WifiLoop.inHand]
  | handedOver recv socket i binding pc greeted known =>
    refine ⟨?_,once⟩
    change app.arrived = (app.handled ++ [.media socket]) ++ [] ++ app.queue
    rw [order,pc]
    simp [WifiLoop.inHand]
  | mediaDropped recv socket pc unknown =>
    refine ⟨?_,once⟩
    change app.arrived = (app.handled ++ [.media socket]) ++ [] ++ app.queue
    rw [order,pc]
    simp [WifiLoop.inHand]
  | _ => exact ⟨order,once⟩

/-- A session accepted over Wi-Fi under this pair that has no stream yet. -/
def Awaiting (app : AppState) (pair : String × String) (i : Nat) : Prop :=
  ∃ peer, app.peers[i]? = some peer ∧ peer.transport = .wifi ∧
    (peer.accepted.sessionId,peer.accepted.token) = pair ∧ ∀ handover ∈ app.handed, handover.session ≠ i

structure Bound (token : String) (app : AppState) : Prop where
  origin : ∀ peer ∈ app.peers, peer.transport = .wifi →
    ∃ uuid wire left, (acceptControl token serverCaps uuid).run wire = .ok peer.accepted left
  distinct : (app.peers.map fun peer => peer.accepted.sessionId).Nodup
  table : ∀ pair i, app.pending.lookup pair = some i ↔ Awaiting app pair i
  authentic : ∀ handover ∈ app.handed, ∃ peer, app.peers[handover.session]? = some peer ∧
    peer.transport = .wifi ∧ handover.binding = peer.binding
  once : (app.handed.map fun handover => handover.session).Nodup
  streams : ∀ handover ∈ app.handed, .media handover.media ∈ app.handled
  streamsOnce : (app.handed.map fun handover => handover.media).Nodup

theorem Bound.unchanged (token : String) (app next : AppState) (bound : Bound token app)
    (peers : next.peers = app.peers) (pending : next.pending = app.pending) (handed : next.handed = app.handed)
    (handled : app.handled ⊆ next.handled) : Bound token next := by
  have awaiting (pair : String × String) (i : Nat) : Awaiting next pair i ↔ Awaiting app pair i := by
    rw [Awaiting,peers,handed]
    rfl
  constructor
  · rw [peers]
    exact bound.origin
  · rw [peers]
    exact bound.distinct
  · intro pair i
    rw [pending,awaiting]
    exact bound.table pair i
  · rw [peers,handed]
    exact bound.authentic
  · rw [handed]
    exact bound.once
  · rw [handed]
    intro handover member
    exact handled (bound.streams handover member)
  · rw [handed]
    exact bound.streamsOnce

theorem same_session (app : AppState) (distinct : (app.peers.map fun peer => peer.accepted.sessionId).Nodup)
    (i j : Nat) (a b : Peer) (left : app.peers[i]? = some a) (right : app.peers[j]? = some b)
    (same : a.accepted.sessionId = b.accepted.sessionId) : i = j := by
  have inside : i < (app.peers.map fun peer => peer.accepted.sessionId).length := by
    rw [List.length_map]
    exact (List.getElem?_eq_some_iff.mp left).1
  apply (List.getElem?_inj inside distinct).mp
  rw [List.getElem?_map,List.getElem?_map,left,right]
  simp [same]

theorem Bound.accept (token : String) (app next : AppState) (fresh : Peer) (bound : Bound token app)
    (peers : next.peers = app.peers ++ [fresh]) (handed : next.handed = app.handed)
    (handled : next.handled = app.handled)
    (unused : ∀ peer ∈ app.peers, peer.accepted.sessionId ≠ fresh.accepted.sessionId)
    (origin : fresh.transport = .wifi →
      ∃ uuid wire left, (acceptControl token serverCaps uuid).run wire = .ok fresh.accepted left)
    (table : ∀ pair i, next.pending.lookup pair = some i ↔ Awaiting next pair i) : Bound token next := by
  constructor
  · intro peer member wireless
    rw [peers,List.mem_append,List.mem_singleton] at member
    obtain old | rfl := member
    · exact bound.origin peer old wireless
    · exact origin wireless
  · rw [peers]
    exact nodup_map_concat _ _ _ bound.distinct unused
  · exact table
  · rw [handed,peers]
    intro handover member
    obtain ⟨peer,held,rest⟩ := bound.authentic handover member
    refine ⟨peer,?_,rest⟩
    rw [List.getElem?_append_left (List.getElem?_eq_some_iff.mp held).1]
    exact held
  · rw [handed]
    exact bound.once
  · rw [handed,handled]
    exact bound.streams
  · rw [handed]
    exact bound.streamsOnce

theorem awaiting_append (app next : AppState) (fresh : Peer) (pair : String × String) (i : Nat)
    (peers : next.peers = app.peers ++ [fresh]) (handed : next.handed = app.handed)
    (inside : i < app.peers.length) : Awaiting next pair i ↔ Awaiting app pair i := by
  rw [Awaiting,Awaiting,peers,handed,List.getElem?_append_left inside]

theorem awaiting_inside (app : AppState) (pair : String × String) (i : Nat) (awaiting : Awaiting app pair i) :
    i < app.peers.length := by
  obtain ⟨peer,held,_⟩ := awaiting
  exact (List.getElem?_eq_some_iff.mp held).1

/-- A session just accepted changes nothing for a pair under which it does not wait. -/
theorem awaiting_accept (app next : AppState) (fresh : Peer) (pair : String × String) (i : Nat)
    (peers : next.peers = app.peers ++ [fresh]) (handed : next.handed = app.handed)
    (elsewhere : fresh.transport = .wifi → (fresh.accepted.sessionId,fresh.accepted.token) ≠ pair) :
    Awaiting app pair i ↔ Awaiting next pair i := by
  constructor
  · intro awaiting
    exact (awaiting_append app next fresh pair i peers handed (awaiting_inside app pair i awaiting)).mpr awaiting
  · intro awaiting
    have below := awaiting_inside next pair i awaiting
    rw [peers,List.length_append,List.length_singleton] at below
    have inside : i < app.peers.length := by
      by_contra beyond
      obtain ⟨peer,held,wireless,sent,_⟩ := awaiting
      have index : i = app.peers.length := by omega
      rw [peers,index] at held
      obtain rfl : fresh = peer := by simpa using held
      exact elsewhere wireless sent
    exact (awaiting_append app next fresh pair i peers handed inside).mp awaiting

theorem Bound.wifiAccept (token : String) (app next : AppState) (fresh : Peer) (bound : Bound token app)
    (peers : next.peers = app.peers ++ [fresh]) (handed : next.handed = app.handed)
    (handled : next.handled = app.handled) (wireless : fresh.transport = .wifi)
    (pending : next.pending =
      app.pending.insert (fresh.accepted.sessionId,fresh.accepted.token) app.peers.length)
    (unused : ∀ peer ∈ app.peers, peer.accepted.sessionId ≠ fresh.accepted.sessionId)
    (origin : ∃ uuid wire left, (acceptControl token serverCaps uuid).run wire = .ok fresh.accepted left) :
    Bound token next := by
  have last : next.peers[app.peers.length]? = some fresh := by
    rw [peers]
    simp
  refine bound.accept token app next fresh peers handed handled unused (fun _ => origin) ?_
  intro pair i
  rw [pending]
  by_cases key : pair = (fresh.accepted.sessionId,fresh.accepted.token)
  · rw [key,AList.lookup_insert,Option.some.injEq]
    constructor
    · intro same
      subst same
      refine ⟨fresh,last,wireless,rfl,?_⟩
      intro handover member same
      rw [handed] at member
      obtain ⟨peer,held,_⟩ := bound.authentic handover member
      rw [same] at held
      exact absurd (List.getElem?_eq_some_iff.mp held).1 (Nat.lt_irrefl _)
    · intro awaiting
      rcases awaiting with ⟨peer,held,_,sent,_⟩
      have below : i < next.peers.length := (List.getElem?_eq_some_iff.mp held).1
      rw [peers,List.length_append,List.length_singleton] at below
      by_contra other
      have inside : i < app.peers.length := by omega
      rw [peers,List.getElem?_append_left inside] at held
      exact unused peer (List.mem_of_getElem? held) (Prod.mk.inj sent).1
  · rw [AList.lookup_insert_ne key,bound.table]
    exact awaiting_accept app next fresh pair i peers handed fun _ same => key same.symm

theorem Bound.usbAccept (token : String) (app next : AppState) (fresh : Peer) (bound : Bound token app)
    (peers : next.peers = app.peers ++ [fresh]) (handed : next.handed = app.handed)
    (handled : next.handled = app.handled) (pending : next.pending = app.pending)
    (wired : fresh.transport = .usb)
    (unused : ∀ peer ∈ app.peers, peer.accepted.sessionId ≠ fresh.accepted.sessionId) :
    Bound token next := by
  refine bound.accept token app next fresh peers handed handled unused (fun wireless => ?_) ?_
  · rw [wired] at wireless
    cases wireless
  · intro pair i
    rw [pending,bound.table]
    apply awaiting_accept app next fresh pair i peers handed
    intro wireless
    rw [wired] at wireless
    cases wireless

/-- A stream handed to session `k` ends the wait of that session and of no other. -/
theorem awaiting_handOver (app next : AppState) (handover : Handover) (owner : Peer) (pair : String × String) (i : Nat)
    (held : app.peers[handover.session]? = some owner)
    (elsewhere : (owner.accepted.sessionId,owner.accepted.token) ≠ pair) (peers : next.peers = app.peers)
    (handed : next.handed = app.handed ++ [handover]) : Awaiting app pair i ↔ Awaiting next pair i := by
  rw [Awaiting,Awaiting,peers,handed]
  constructor
  · intro awaiting
    rcases awaiting with ⟨peer,here,onWifi,claimed,free⟩
    refine ⟨peer,here,onWifi,claimed,?_⟩
    intro other member
    rw [List.mem_append,List.mem_singleton] at member
    obtain old | rfl := member
    · exact free other old
    · intro same
      rw [same,here] at held
      obtain rfl := Option.some.inj held
      exact elsewhere claimed
  · intro awaiting
    rcases awaiting with ⟨peer,here,onWifi,claimed,free⟩
    refine ⟨peer,here,onWifi,claimed,?_⟩
    intro other member
    exact free other (List.mem_append_left _ member)

theorem Bound.handOver (token : String) (app next : AppState) (socket k : Nat) (binding : MediaBinding)
    (bound : Bound token app) (flow : Flow app) (pc : app.wifi = .greeting socket)
    (known : app.pending.lookup (binding.sessionId,binding.token) = some k)
    (peers : next.peers = app.peers)
    (pending : next.pending = app.pending.erase (binding.sessionId,binding.token))
    (handed : next.handed = app.handed ++ [⟨socket,binding,k⟩])
    (handled : next.handled = app.handled ++ [.media socket]) : Bound token next := by
  obtain ⟨owner,held,wireless,sent,unserved⟩ := (bound.table _ k).mp known
  obtain ⟨id,credential⟩ := Prod.mk.inj sent
  have unseen : ∀ handover ∈ app.handed, handover.media ≠ socket := by
    intro handover member same
    have old := bound.streams handover member
    have once := flow.once
    rw [flow.order,pc,List.append_assoc,List.nodup_append] at once
    rw [same] at old
    exact once.2.2 (.media socket) old (.media socket) (by simp [WifiLoop.inHand]) rfl
  constructor
  · rw [peers]
    exact bound.origin
  · rw [peers]
    exact bound.distinct
  · intro pair i
    rw [pending]
    by_cases key : pair = (binding.sessionId,binding.token)
    · rw [key,AList.lookup_erase]
      refine ⟨fun found => (by cases found),?_⟩
      intro awaiting
      rw [Awaiting,peers,handed] at awaiting
      rcases awaiting with ⟨peer,here,_,claimed,free⟩
      -- the pair names one session only, and that one has just been served
      have same : k = i := by
        apply same_session app bound.distinct k i owner peer held here
        exact id.trans (Prod.mk.inj claimed).1.symm
      exact absurd same (free ⟨socket,binding,k⟩ (by simp))
    · rw [AList.lookup_erase_ne key,bound.table]
      apply awaiting_handOver app next ⟨socket,binding,k⟩ owner pair i held _ peers handed
      intro same
      exact key (same.symm.trans sent)
  · rw [peers,handed]
    intro handover member
    rw [List.mem_append,List.mem_singleton] at member
    obtain old | rfl := member
    · exact bound.authentic handover old
    · exact ⟨owner,held,wireless,by rw [Peer.binding,id,credential]⟩
  · rw [handed]
    exact nodup_map_concat _ _ _ bound.once unserved
  · rw [handed,handled]
    intro handover member
    rw [List.mem_append,List.mem_singleton] at member ⊢
    obtain old | rfl := member
    · exact .inl (bound.streams handover old)
    · exact .inr rfl
  · rw [handed]
    exact nodup_map_concat _ _ _ bound.streamsOnce unseen

theorem step_bound (token : String) (app next : AppState) (label : Label) (flow : Flow app)
    (bound : Bound token app) (fresh : FreshUuid app label) (taken : app.step token label = some next) :
    Bound token next := by
  have unused (uuid : String) (drawn : label.uuid = some uuid) (peer : Peer) (member : peer ∈ app.peers) :
      peer.accepted.sessionId ≠ "sess-" ++ uuid := by
    obtain ⟨session,held,rfl⟩ := List.mem_map.mp member
    exact fresh uuid drawn session held
  cases step_stepped token app next label taken with
  | wifiAccepted wire left uuid socket accepted pc ok =>
    have returned := accept_returns .wifi token serverCaps uuid wire accepted left
      (by rw [← acceptControl_eq]; exact ok)
    refine bound.wifiAccept token app _ ⟨.wifi,socket,accepted⟩ (by simp [AppState.peers,Session.peer]) rfl rfl
      rfl (by simp [AppState.peers]) ?_ ⟨uuid,wire,left,ok⟩
    intro peer member
    rw [returned.1]
    exact unused uuid rfl peer member
  | usbAccepted wire left uuid key dialed accepted pc ok =>
    have returned := accept_returns .usb key serverCaps uuid wire accepted left
      (by rw [← acceptControlUsb_eq]; exact ok)
    refine bound.usbAccept token app _ ⟨.usb,dialed.control,accepted⟩ (by simp [AppState.peers,Session.peer]) rfl
      rfl rfl rfl ?_
    intro peer member
    rw [returned.1]
    exact unused uuid rfl peer member
  | handedOver recv socket k binding pc greeted known =>
    exact bound.handOver token app _ socket k binding flow pc known (setMedia_peers app k _) rfl rfl rfl
  | wifiRefused wire left uuid socket error pc failed =>
    exact bound.unchanged token app _ rfl rfl rfl (List.subset_append_left _ _)
  | mediaDropped recv socket pc unknown =>
    exact bound.unchanged token app _ rfl rfl rfl (List.subset_append_left _ _)
  | wifiPublished socket k pc =>
    exact bound.unchanged token app _ (setTask_peers app k _) rfl rfl (List.subset_append_left _ _)
  | attached k socket delivered =>
    exact bound.unchanged token app _ (setMedia_peers app k _) rfl rfl (List.Subset.refl _)
  | started k now session found spawned channels plane begun =>
    exact bound.unchanged token app _ (setTask_peers app k _) rfl rfl (List.Subset.refl _)
  | planeStepped k input plane after channels held handled =>
    exact bound.unchanged token app _ (setTask_peers app k _) rfl rfl (List.Subset.refl _)
  | outboundCleared k held | speedtestCleared k held =>
    exact bound.unchanged token app _ (setTask_peers app k _) rfl rfl (List.Subset.refl _)
  | usbPublished dialed k pc | usbCounted dialed k pc | usbWithdrawn dialed k pc =>
    exact bound.unchanged token app _ (setTask_peers app k _) rfl rfl (List.Subset.refl _)
  | usbUngreeted recv dialed k error pc failed =>
    exact bound.unchanged token app _ (setTask_peers app k _) rfl rfl (List.Subset.refl _)
  | usbGreeted recv dialed k binding pc greeted =>
    refine bound.unchanged token app _ ?_ rfl rfl (List.Subset.refl _)
    exact (setMedia_peers _ k _).trans (setTask_peers app k _)
  | _ => exact bound.unchanged token app _ rfl rfl rfl (List.Subset.refl _)

theorem start_flow (controlPort mediaPort : UInt16) : Flow (.start controlPort mediaPort) := ⟨rfl,List.nodup_nil⟩

theorem start_bound (token : String) (controlPort mediaPort : UInt16) :
    Bound token (.start controlPort mediaPort) := by
  refine ⟨fun _ none => (by cases none),List.nodup_nil,?_,fun _ none => (by cases none),List.nodup_nil,
    fun _ none => (by cases none),List.nodup_nil⟩
  intro pair i
  constructor
  · intro found
    cases found
  · intro awaiting
    rcases awaiting with ⟨peer,held,_⟩
    cases held

def Media.socket : Media → Option Nat
  | .waiting => none
  | .delivered socket | .attached socket => some socket

def Recorded (app : AppState) : Prop :=
  ∀ i session socket, app.sessions[i]? = some session → session.transport = .wifi →
    session.media.socket = some socket → ∃ handover ∈ app.handed, handover.session = i ∧ handover.media = socket

theorem Recorded.modify (app next : AppState) (k : Nat) (f : Session → Session) (recorded : Recorded app)
    (sessions : next.sessions = app.sessions.modify k f) (handed : next.handed = app.handed)
    (kept : ∀ session, app.sessions[k]? = some session → (f session).transport = .wifi →
      session.transport = .wifi ∧ (f session).media.socket = session.media.socket) : Recorded next := by
  intro i after socket found wireless given
  rw [sessions] at found
  obtain ⟨before,held,rfl⟩ := modify_session app.sessions k i f after found
  rw [handed]
  by_cases same : k = i
  · subst same
    rw [if_pos rfl] at wireless given
    obtain ⟨onWifi,stream⟩ := kept before held wireless
    rw [stream] at given
    exact recorded k before socket held onWifi given
  · rw [if_neg same] at wireless given
    exact recorded i before socket held wireless given

theorem Recorded.accept (app next : AppState) (fresh : Session) (recorded : Recorded app)
    (sessions : next.sessions = app.sessions ++ [fresh]) (handed : next.handed = app.handed)
    (waiting : fresh.media = .waiting) : Recorded next := by
  intro i session socket found wireless given
  rw [sessions] at found
  rw [handed]
  by_cases inside : i < app.sessions.length
  · rw [List.getElem?_append_left inside] at found
    exact recorded i session socket found wireless given
  · have below := (List.getElem?_eq_some_iff.mp found).1
    rw [List.length_append,List.length_singleton] at below
    have index : i = app.sessions.length := by omega
    rw [index] at found
    obtain rfl : fresh = session := by simpa using found
    rw [waiting] at given
    cases given

theorem step_recorded (token : String) (app next : AppState) (label : Label) (consistent : Consistent app)
    (recorded : Recorded app) (taken : app.step token label = some next) : Recorded next := by
  cases step_stepped token app next label taken with
  | wifiAccepted wire left uuid socket accepted pc ok => exact recorded.accept app _ _ rfl rfl rfl
  | usbAccepted wire left uuid key dialed accepted pc ok => exact recorded.accept app _ _ rfl rfl rfl
  | handedOver recv socket k binding pc greeted known =>
    intro i after given found wireless stream
    obtain ⟨before,held,rfl⟩ := modify_session app.sessions k i _ after found
    by_cases same : k = i
    · subst same
      rw [if_pos rfl] at stream
      exact ⟨⟨socket,binding,k⟩,by simp,rfl,Option.some.inj stream⟩
    · rw [if_neg same] at wireless stream
      obtain ⟨handover,member,rest⟩ := recorded i before given held wireless stream
      exact ⟨handover,List.mem_append_left _ member,rest⟩
  | attached k socket delivered =>
    refine recorded.modify app _ k _ rfl rfl ?_
    intro session found onWifi
    refine ⟨onWifi,?_⟩
    have held : session.media = .delivered socket := by simpa [AppState.media,found] using delivered
    rw [held]
    rfl
  | usbGreeted recv dialed k binding pc greeted =>
    -- the consumer's own session, which is no Wi-Fi session
    refine recorded.modify app _ k _ (List.modify_modify_eq _ _ _ _) rfl ?_
    intro session found onWifi
    obtain ⟨other,held,wired,_⟩ := consistent.usb k .counted (by rw [pc]; rfl)
    rw [found] at held
    obtain rfl := Option.some.inj held
    have wireless : session.transport = .wifi := onWifi
    rw [wired] at wireless
    cases wireless
  | wifiPublished socket k pc => exact recorded.modify app _ k _ rfl rfl fun _ _ onWifi => ⟨onWifi,rfl⟩
  | started k now session found spawned channels plane begun =>
    exact recorded.modify app _ k _ rfl rfl fun _ _ onWifi => ⟨onWifi,rfl⟩
  | planeStepped k input plane after channels held handled =>
    exact recorded.modify app _ k _ rfl rfl fun _ _ onWifi => ⟨onWifi,rfl⟩
  | outboundCleared k held | speedtestCleared k held =>
    exact recorded.modify app _ k _ rfl rfl fun _ _ onWifi => ⟨onWifi,rfl⟩
  | usbPublished dialed k pc | usbCounted dialed k pc | usbWithdrawn dialed k pc =>
    exact recorded.modify app _ k _ rfl rfl fun _ _ onWifi => ⟨onWifi,rfl⟩
  | usbUngreeted recv dialed k error pc failed =>
    exact recorded.modify app _ k _ rfl rfl fun _ _ onWifi => ⟨onWifi,rfl⟩
  | _ => exact recorded

structure Sound (token : String) (app : AppState) : Prop where
  consistent : Consistent app
  flow : Flow app
  bound : Bound token app
  recorded : Recorded app

theorem start_sound (token : String) (controlPort mediaPort : UInt16) :
    Sound token (.start controlPort mediaPort) :=
  ⟨start_consistent controlPort mediaPort,start_flow controlPort mediaPort,
    start_bound token controlPort mediaPort,fun _ _ _ none => (by cases none)⟩

theorem step_sound (token : String) (app next : AppState) (label : Label) (sound : Sound token app)
    (fresh : FreshUuid app label) (taken : app.step token label = some next) : Sound token next :=
  ⟨step_consistent token app next label sound.consistent taken,step_flow token app next label sound.flow taken,
    step_bound token app next label sound.flow sound.bound fresh taken,
    step_recorded token app next label sound.consistent sound.recorded taken⟩

/-- Wi-Fi media binding is authenticated and one to one, and a stream that presents an
unknown or used pair changes nothing. -/
theorem media_binding_one_to_one (token : String) (controlPort mediaPort : UInt16) (labels : List Label)
    (app : AppState) (fresh : Along (AppState.step token) FreshUuid (.start controlPort mediaPort) labels)
    (run : exec (AppState.step token) (.start controlPort mediaPort) labels = some app) :
    (∀ i session socket, app.sessions[i]? = some session → session.transport = .wifi →
      session.media.socket = some socket →
        ∃ handover ∈ app.handed, handover.session = i ∧ handover.media = socket) ∧
    (∀ handover ∈ app.handed, ∃ peer, app.peers[handover.session]? = some peer ∧ peer.transport = .wifi ∧
      (∃ uuid wire left, (acceptControl token serverCaps uuid).run wire = .ok peer.accepted left) ∧
      handover.binding = peer.binding) ∧
    (app.handed.map fun handover => handover.session).Nodup ∧
    (app.handed.map fun handover => handover.media).Nodup ∧
    ∀ recv binding next, readMediaHello recv = .ok binding →
      (¬ ∃ i, Awaiting app (binding.sessionId,binding.token) i) →
      app.step token (.wifiHello recv) = some next →
      next.pending = app.pending ∧ next.handed = app.handed ∧ next.sessions = app.sessions := by
  have sound : Sound token app := by
    refine exec_invariant (AppState.step token) FreshUuid (Sound token) labels ?_ _ app
      (start_sound token controlPort mediaPort) fresh run
    intro before label after _ kept unused taken
    exact step_sound token before after label kept unused taken
  have bound := sound.bound
  refine ⟨sound.recorded,?_,bound.once,bound.streamsOnce,?_⟩
  · intro handover member
    obtain ⟨peer,held,wireless,presented⟩ := bound.authentic handover member
    exact ⟨peer,held,wireless,bound.origin peer (List.mem_of_getElem? held) wireless,presented⟩
  · intro recv binding next greeted unknown taken
    cases step_stepped token app next _ taken with
    | handedOver _ socket k other pc again known =>
      obtain rfl : binding = other := by simpa [greeted] using again
      exact absurd ⟨k,(bound.table _ k).mp known⟩ unknown
    | mediaDropped _ socket pc absent => exact ⟨rfl,rfl,rfl⟩

theorem one_session_bound_once :
    ∃ app, exec (AppState.step "t") (.start 7000 7001) oneSession = some app ∧
      app.handed = [⟨0,⟨"sess-a","t"⟩,0⟩] ∧ (app.handed.map fun handover => handover.session).Nodup ∧
      (app.handed.map fun handover => handover.media).Nodup := by
  have reached : ((exec (AppState.step "t") (.start 7000 7001) oneSession).map fun app => app.handed) =
      some [⟨0,⟨"sess-a","t"⟩,0⟩] := by
    decide +kernel
  obtain ⟨app,run,handed⟩ := Option.map_eq_some_iff.mp reached
  have bound := media_binding_one_to_one "t" 7000 7001 oneSession app (by decide +kernel) run
  exact ⟨app,run,handed,bound.2.2.1,bound.2.2.2.1⟩

end ClearCam.App

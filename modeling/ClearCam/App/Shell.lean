import ClearCam.Library.Transducer
import ClearCam.Library.Transition
import ClearCam.Session.Events
import Mathlib.Data.List.Destutter

/-! The desktop shell: the commands that start and stop the server, and the pump that shows the events of the
running server to the user interface. Every started server has an event channel of its own. -/
namespace ClearCam.App.Ui
open ClearCam.Protocol ClearCam.Session ClearCam.Library

/-- What the pump emits, by the name of the event and its payload. -/
inductive UiEvent where
  | transportChanged (hint : String)
  | state (kind : SessionStateKind)
  | device (device : DeviceSnapshot)
  | telemetry (telemetry : Telemetry)
  | closed (reason : String)
  | usbTrustRequest (udid : String)
  | modeApplied (mode : Mode)
  deriving DecidableEq

def transportHint : SessionStateKind → Option String
  | .wifiHandshake => some "wifi"
  | .usbHandshake _ => some "usb"
  | .ready (some .wifi) => some "wifi"
  | .ready (some .usb) => some "usb"
  | _ => none

/-- One turn of the pump: the new `last_transport`, and what is emitted. -/
def render (lastTransport : Option String) : ControlPlaneEvent → Option String × List UiEvent
  | .stateChanged kind =>
    match transportHint kind with
    | some hint =>
      if some hint ≠ lastTransport then (some hint,[.transportChanged hint,.state kind])
      else (lastTransport,[.state kind])
    | none => (lastTransport,[.state kind])
  | .deviceInfo device => (lastTransport,[.device device])
  | .telemetry telemetry => (lastTransport,[.telemetry telemetry])
  | .closed reason => (lastTransport,[.closed reason])
  | .usbTrustRequest udid => (lastTransport,[.usbTrustRequest udid])
  | .modeApplied mode => (lastTransport,[.modeApplied mode])

/-- A started server: what its event channel has taken, what of it is still queued, and whether a sender is left. -/
structure Server where
  accepted : List ControlPlaneEvent
  queued : List ControlPlaneEvent
  senders : Bool
  deriving DecidableEq

/-- `running` is the server in the app state, `pump` the server whose receiver the pump awaits. -/
structure Shell where
  running : Option Nat
  servers : List Server
  pump : Option Nat
  lastTransport : Option String
  emitted : List UiEvent
  deriving DecidableEq

inductive ShellEvent where
  | startServer (bound : Bool)
  | stopServer
  | published (k : Nat) (event : ControlPlaneEvent)
  | closed (k : Nat)
  | polled
  | received
  | drained

def Shell.start : Shell := ⟨none,[],none,none,[]⟩

/-- The receiver of a server lives in its handle, and in the pump while that awaits it. -/
def Shell.listens (s : Shell) (k : Nat) : Bool := s.running = some k || s.pump = some k

def Shell.update (s : Shell) (k : Nat) (server : Server) : Shell := {s with servers := s.servers.set k server}

def Shell.step (s : Shell) : ShellEvent → Option Shell
  | .startServer bound =>
    -- "server already running", or the ports could not be bound
    if s.running.isSome || !bound then some s
    else some {s with running := some s.servers.length, servers := s.servers ++ [⟨[],[],true⟩]}
  | .stopServer => some {s with running := none}
  | .published k event =>
    match s.servers[k]? with
    | none => none
    | some server =>
      if !server.senders then none
      else if !s.listens k then some s
      else if server.queued.length < 64 then
        some (s.update k ⟨server.accepted ++ [event],server.queued ++ [event],server.senders⟩)
      else none
  | .closed k =>
    match s.servers[k]? with
    | none => none
    -- the handle holds a sender itself
    | some server => if s.running = some k then none else some (s.update k {server with senders := false})
  | .polled => if s.pump.isSome then none else some {s with pump := s.running}
  | .received =>
    match s.pump.bind fun k => (s.servers[k]?).map fun server => (k,server) with
    | some (k,⟨accepted,event :: queued,senders⟩) =>
      let (lastTransport,shown) := render s.lastTransport event
      some {s.update k ⟨accepted,queued,senders⟩ with
        pump := none
        lastTransport := lastTransport
        emitted := s.emitted ++ shown}
    | _ => none
  | .drained =>
    match s.pump.bind fun k => s.servers[k]? with
    | some ⟨_,[],false⟩ => some {s with pump := none}
    | _ => none

/-- Everything one step of the shell can do. -/
inductive Shell.Moves (s : Shell) : ShellEvent → Shell → Prop where
  | refused (bound : Bool) : Moves s (.startServer bound) s
  | started (idle : s.running = none) : Moves s (.startServer true)
      {s with running := some s.servers.length, servers := s.servers ++ [⟨[],[],true⟩]}
  | stopped : Moves s .stopServer {s with running := none}
  | unheard (k : Nat) (event : ControlPlaneEvent) (deaf : s.listens k = false) : Moves s (.published k event) s
  | published (k : Nat) (event : ControlPlaneEvent) (server : Server) (found : s.servers[k]? = some server) :
      Moves s (.published k event)
        (s.update k ⟨server.accepted ++ [event],server.queued ++ [event],server.senders⟩)
  | closed (k : Nat) (server : Server) (found : s.servers[k]? = some server) (other : s.running ≠ some k) :
      Moves s (.closed k) (s.update k {server with senders := false})
  | polled (free : s.pump = none) : Moves s .polled {s with pump := s.running}
  | received (k : Nat) (accepted queued : List ControlPlaneEvent) (senders : Bool) (event : ControlPlaneEvent)
      (awaited : s.pump = some k) (found : s.servers[k]? = some ⟨accepted,event :: queued,senders⟩) :
      Moves s .received {s.update k ⟨accepted,queued,senders⟩ with
        pump := none
        lastTransport := (render s.lastTransport event).1
        emitted := s.emitted ++ (render s.lastTransport event).2}
  | drained (k : Nat) (accepted : List ControlPlaneEvent) (awaited : s.pump = some k)
      (found : s.servers[k]? = some ⟨accepted,[],false⟩) : Moves s .drained {s with pump := none}

namespace Shell

theorem step_moves (s after : Shell) (event : ShellEvent) (taken : s.step event = some after) : s.Moves event after := by
  cases event with
  | startServer bound =>
    simp only [step] at taken
    split at taken
    · obtain rfl := Option.some.inj taken
      exact .refused bound
    · next starts =>
      obtain rfl := Option.some.inj taken
      obtain ⟨idle,rfl⟩ : s.running = none ∧ bound = true := by simpa using starts
      exact .started idle
  | stopServer =>
    obtain rfl := Option.some.inj taken
    exact .stopped
  | published k event =>
    simp only [step] at taken
    split at taken
    · cases taken
    · next server found =>
      split at taken
      · cases taken
      · split at taken
        · next deaf =>
          obtain rfl := Option.some.inj taken
          exact .unheard k event (by simpa using deaf)
        · split at taken
          · obtain rfl := Option.some.inj taken
            exact .published k event server found
          · cases taken
  | closed k =>
    simp only [step] at taken
    split at taken
    · cases taken
    · next server found =>
      split at taken
      · cases taken
      · next other =>
        obtain rfl := Option.some.inj taken
        exact .closed k server found other
  | polled =>
    simp only [step] at taken
    split at taken
    · cases taken
    · next free =>
      obtain rfl := Option.some.inj taken
      exact .polled (by simpa using free)
  | received =>
    simp only [step] at taken
    split at taken
    · next k accepted event queued senders awaits =>
      obtain ⟨k',awaited,mapped⟩ := Option.bind_eq_some_iff.mp awaits
      obtain ⟨server,found,same⟩ := Option.map_eq_some_iff.mp mapped
      obtain ⟨rfl,rfl⟩ := Prod.mk.inj same
      obtain rfl := Option.some.inj taken
      exact .received k' accepted queued senders event awaited found
    · cases taken
  | drained =>
    simp only [step] at taken
    split at taken
    · next accepted awaits =>
      obtain ⟨k,awaited,found⟩ := Option.bind_eq_some_iff.mp awaits
      obtain rfl := Option.some.inj taken
      exact .drained k accepted awaited found
    · cases taken

end Shell

def UiEvent.transport? : UiEvent → Option String
  | .transportChanged hint => some hint
  | _ => none

def transports (shown : List UiEvent) : List String := shown.filterMap UiEvent.transport?

def ControlPlaneEvent.hint (event : ControlPlaneEvent) : Option String := event.state?.bind transportHint

/-- What the pump emits for a sequence of events. -/
def rendered (lastTransport : Option String) (events : List ControlPlaneEvent) : List UiEvent :=
  (Transducer.trace render lastTransport events).flatMap Transducer.Entry.output

theorem rendered_snoc (events : List ControlPlaneEvent) (event : ControlPlaneEvent) :
    rendered none (events ++ [event]) =
      rendered none events ++ (render (Transducer.stateAfter render none events) event).2 := by
  rw [rendered,Transducer.trace_append,List.flatMap_append]
  exact congrArg _ (List.flatMap_singleton _ _)

theorem render_transports (lastTransport : Option String) (event : ControlPlaneEvent) :
    transports (render lastTransport event).2 =
      ((ControlPlaneEvent.hint event).filter fun hint => decide (some hint ≠ lastTransport)).toList ∧
      (render lastTransport event).1 = (ControlPlaneEvent.hint event).or lastTransport := by
  cases event with
  | stateChanged kind =>
    cases hint : transportHint kind with
    | none => simp [render,hint,transports,UiEvent.transport?,ControlPlaneEvent.hint,ControlPlaneEvent.state?]
    | some hint' =>
      by_cases same : some hint' = lastTransport
      · subst same
        simp [render,hint,transports,UiEvent.transport?,ControlPlaneEvent.hint,ControlPlaneEvent.state?,Option.filter]
      · simp [render,hint,same,transports,UiEvent.transport?,ControlPlaneEvent.hint,ControlPlaneEvent.state?,
          Option.filter]
  | _ => exact ⟨rfl,rfl⟩

theorem rendered_cons (lastTransport : Option String) (event : ControlPlaneEvent) (rest : List ControlPlaneEvent) :
    rendered lastTransport (event :: rest) =
      (render lastTransport event).2 ++ rendered (render lastTransport event).1 rest := by
  rfl

/-- After a hint the pump announces the hints that differ from the one before. -/
theorem rendered_after (hint : String) (events : List ControlPlaneEvent) :
    hint :: transports (rendered (some hint) events) =
      (events.filterMap ControlPlaneEvent.hint).destutter' (· ≠ ·) hint := by
  induction events generalizing hint with
  | nil => rfl
  | cons event rest ih =>
    obtain ⟨shown,last⟩ := render_transports (some hint) event
    rw [rendered_cons,last,transports,List.filterMap_append,← transports,← transports,shown]
    cases next : ControlPlaneEvent.hint event with
    | none =>
      rw [List.filterMap_cons_none next]
      exact ih hint
    | some other =>
      rw [List.filterMap_cons_some next]
      by_cases same : other = hint
      · rw [List.destutter'_cons_neg _ (by simp [same])]
        subst same
        simpa [Option.filter] using ih other
      · rw [List.destutter'_cons_pos _ (Ne.symm same),← ih other]
        simp [Option.filter,same]

theorem rendered_transports (events : List ControlPlaneEvent) :
    transports (rendered none events) = (events.filterMap ControlPlaneEvent.hint).destutter (· ≠ ·) := by
  induction events with
  | nil => rfl
  | cons event rest ih =>
    obtain ⟨shown,last⟩ := render_transports none event
    rw [rendered_cons,last,transports,List.filterMap_append,← transports,← transports,shown]
    cases next : ControlPlaneEvent.hint event with
    | none =>
      rw [List.filterMap_cons_none next]
      exact ih
    | some hint =>
      rw [List.filterMap_cons_some next,List.destutter_cons',← rendered_after]
      simp [Option.filter]

/-- The shell after a run, with the events that the pump has received and the servers they are of. -/
structure Ran (s : Shell) (received : List (Nat × ControlPlaneEvent)) : Prop where
  emitted : s.emitted = rendered none (received.map Prod.snd)
  last : s.lastTransport = Transducer.stateAfter render none (received.map Prod.snd)
  sorted : (received.map Prod.fst).Pairwise (· ≤ ·)
  known : ∀ k ∈ received.map Prod.fst, k < s.servers.length ∧ ∀ p, s.pump = some p → k ≤ p
  newest : ∀ r, s.running = some r → r + 1 = s.servers.length
  awaited : ∀ p, s.pump = some p → p < s.servers.length
  queues : ∀ k server, s.servers[k]? = some server →
    (received.filter fun item => item.1 = k).map Prod.snd ++ server.queued = server.accepted

theorem start_ran : Ran .start [] := by
  refine ⟨rfl,rfl,List.Pairwise.nil,?_,?_,?_,?_⟩
  · intro k member
    cases member
  · intro r running
    cases running
  · intro p awaited
    cases awaited
  · intro k server found
    cases found

theorem update_length (s : Shell) (k : Nat) (server : Server) : (s.update k server).servers.length = s.servers.length := by
  exact List.length_set

theorem update_getElem? (s : Shell) (k j : Nat) (old server : Server) (found : s.servers[k]? = some old) :
    (s.update k server).servers[j]? = if k = j then some server else s.servers[j]? := by
  obtain ⟨inside,_⟩ := List.getElem?_eq_some_iff.mp found
  change (s.servers.set k server)[j]? = _
  rw [List.getElem?_set]
  by_cases same : k = j
  · subst same
    simp [inside]
  · simp [same]

/-- A server's channel changes and the pump stays where it is. -/
theorem Ran.update (s : Shell) (received : List (Nat × ControlPlaneEvent)) (ran : Ran s received) (k : Nat)
    (old server : Server) (found : s.servers[k]? = some old)
    (grows : ∃ more, server.accepted = old.accepted ++ more ∧ server.queued = old.queued ++ more) :
    Ran (s.update k server) received := by
  obtain ⟨more,accepted,queued⟩ := grows
  have length := update_length s k server
  refine ⟨ran.emitted,ran.last,ran.sorted,?_,?_,?_,?_⟩
  · rw [length]
    exact ran.known
  · rw [length]
    exact ran.newest
  · rw [length]
    exact ran.awaited
  · intro j other
    rw [update_getElem? s k j old server found]
    split
    · next same =>
      intro shown
      obtain rfl := Option.some.inj shown
      rw [accepted,queued,← same,← ran.queues k old found,List.append_assoc]
    · exact ran.queues j other

theorem step_ran (s after : Shell) (received : List (Nat × ControlPlaneEvent)) (event : ShellEvent)
    (ran : Ran s received) (taken : s.step event = some after) : ∃ more, Ran after (received ++ more) := by
  cases s.step_moves after event taken with
  | refused bound => exact ⟨[],by rwa [List.append_nil]⟩
  | unheard k event deaf => exact ⟨[],by rwa [List.append_nil]⟩
  | started idle =>
    refine ⟨[],?_⟩
    rw [List.append_nil]
    refine ⟨ran.emitted,ran.last,ran.sorted,?_,?_,?_,?_⟩
    · intro k member
      obtain ⟨inside,before⟩ := ran.known k member
      rw [List.length_append]
      exact ⟨Nat.lt_add_right _ inside,before⟩
    · intro r running
      obtain rfl := Option.some.inj running
      rw [List.length_append]
      rfl
    · intro p awaited
      rw [List.length_append]
      exact Nat.lt_add_right _ (ran.awaited p awaited)
    · intro k server found
      rcases Nat.lt_or_ge k s.servers.length with inside | beyond
      · rw [List.getElem?_append_left inside] at found
        exact ran.queues k server found
      · have fresh : (received.filter fun item => item.1 = k) = [] := by
          rw [List.filter_eq_nil_iff]
          intro item member same
          have known := (ran.known item.1 (List.mem_map_of_mem member)).1
          rw [of_decide_eq_true same] at known
          exact absurd known (Nat.not_lt.mpr beyond)
        rw [List.getElem?_append_right beyond] at found
        obtain ⟨_,rfl⟩ := List.getElem?_eq_some_iff.mp found
        simp [fresh]
  | stopped =>
    refine ⟨[],?_⟩
    rw [List.append_nil]
    refine ⟨ran.emitted,ran.last,ran.sorted,ran.known,?_,ran.awaited,ran.queues⟩
    intro r running
    cases running
  | published k event server found =>
    refine ⟨[],?_⟩
    rw [List.append_nil]
    exact ran.update s received k server _ found ⟨[event],rfl,rfl⟩
  | closed k server found other =>
    refine ⟨[],?_⟩
    rw [List.append_nil]
    exact ran.update s received k server _ found ⟨[],(List.append_nil _).symm,(List.append_nil _).symm⟩
  | polled free =>
    refine ⟨[],?_⟩
    rw [List.append_nil]
    refine ⟨ran.emitted,ran.last,ran.sorted,?_,ran.newest,?_,ran.queues⟩
    · intro k member
      have inside := (ran.known k member).1
      refine ⟨inside,?_⟩
      intro p running
      have newest := ran.newest p running
      omega
    · intro p running
      have newest := ran.newest p running
      exact Nat.lt_of_succ_le (Nat.le_of_eq newest)
  | received k accepted queued senders event awaited found =>
    refine ⟨[(k,event)],?_⟩
    have length := update_length s k ⟨accepted,queued,senders⟩
    refine ⟨?_,?_,?_,?_,?_,?_,?_⟩
    · rw [List.map_append]
      change s.emitted ++ _ = rendered none (_ ++ [event])
      rw [rendered_snoc,← ran.emitted,← ran.last]
    · rw [List.map_append,Transducer.stateAfter_append,← ran.last]
      rfl
    · rw [List.map_append,List.pairwise_append]
      refine ⟨ran.sorted,List.pairwise_singleton _ _,?_⟩
      intro j member last there
      rw [List.mem_singleton.mp there]
      exact (ran.known j member).2 k awaited
    · intro j member
      rw [length]
      refine ⟨?_,?_⟩
      · rw [List.map_append] at member
        rcases List.mem_append.mp member with earlier | last
        · exact (ran.known j earlier).1
        · rw [List.mem_singleton.mp last]
          exact ran.awaited k awaited
      · intro p none
        cases none
    · rw [length]
      exact ran.newest
    · intro p none
      cases none
    · intro j server
      change (s.update k ⟨accepted,queued,senders⟩).servers[j]? = some server → _
      rw [update_getElem? s k j _ _ found,List.filter_append]
      have before := ran.queues k _ found
      split
      · next same =>
        intro shown
        obtain rfl := Option.some.inj shown
        rw [← same,List.map_append,← before]
        simp
      · next other =>
        intro shown
        have rest := ran.queues j server shown
        simpa [other] using rest
  | drained k accepted awaited found =>
    refine ⟨[],?_⟩
    rw [List.append_nil]
    refine ⟨ran.emitted,ran.last,ran.sorted,?_,ran.newest,?_,ran.queues⟩
    · intro j member
      refine ⟨(ran.known j member).1,?_⟩
      intro p none
      cases none
    · intro p none
      cases none

theorem run_ran (s t : Shell) (events : List ShellEvent) (received : List (Nat × ControlPlaneEvent))
    (ran : Ran s received) (run : exec Shell.step s events = some t) : ∃ more, Ran t (received ++ more) := by
  induction events generalizing s received with
  | nil =>
    obtain rfl : s = t := by simpa [exec] using run
    exact ⟨[],by rwa [List.append_nil]⟩
  | cons event rest ih =>
    obtain ⟨s',taken,later⟩ := (exec_cons Shell.step s t event rest).mp run
    obtain ⟨more,ran'⟩ := step_ran s s' received event ran taken
    obtain ⟨final,ends⟩ := ih s' _ ran' later
    refine ⟨more ++ final,?_⟩
    rw [← List.append_assoc]
    exact ends

/-- What the user interface is shown is what the servers published: server after server in the order of their
starts, of each a prefix of what its channel took, with a change of transport announced just where the hint
differs from the one before. -/
theorem ui_shows_published (events : List ShellEvent) (s : Shell) (run : exec Shell.step .start events = some s) :
    ∃ received : List (Nat × ControlPlaneEvent), s.emitted = rendered none (received.map Prod.snd) ∧
      (received.map Prod.fst).Pairwise (· ≤ ·) ∧
      (∀ k server, s.servers[k]? = some server →
        (received.filter fun item => item.1 = k).map Prod.snd ++ server.queued = server.accepted) ∧
      transports s.emitted =
        ((received.map Prod.snd).filterMap ControlPlaneEvent.hint).destutter (· ≠ ·) := by
  obtain ⟨received,ran⟩ := run_ran .start s events [] start_ran run
  rw [List.nil_append] at ran
  refine ⟨received,ran.emitted,ran.sorted,ran.queues,?_⟩
  rw [ran.emitted,rendered_transports]

/-- A phone connects to the first server, and the pump shows it. -/
def connected : List ShellEvent :=
  [.startServer true,.polled,.published 0 (.stateChanged .wifiHandshake),.received,
    .published 0 (.stateChanged (.ready (some .wifi))),.polled,.received]

theorem ui_shows_published_connected : ∃ received : List (Nat × ControlPlaneEvent),
    rendered none (received.map Prod.snd) =
      [.transportChanged "wifi",.state .wifiHandshake,.state (.ready (some .wifi))] ∧
      ((received.map Prod.snd).filterMap ControlPlaneEvent.hint).destutter (· ≠ ·) = ["wifi"] := by
  have shown : (exec Shell.step .start connected).map Shell.emitted =
      some [.transportChanged "wifi",.state .wifiHandshake,.state (.ready (some .wifi))] := by decide
  obtain ⟨s,run,emitted⟩ := Option.map_eq_some_iff.mp shown
  obtain ⟨received,renders,_,_,hints⟩ := ui_shows_published connected s run
  rw [emitted] at renders hints
  exact ⟨received,renders.symm,hints.symm⟩

/-- How many events of a server the pump has received. -/
def Shell.heard (s : Shell) (k : Nat) : Nat :=
  (s.servers[k]?).elim 0 fun server => server.accepted.length - server.queued.length

/-- How many more events of a server the pump is sure to take: the one it awaits. -/
def Shell.awaits (s : Shell) (k : Nat) : Nat := if s.pump = some k then 1 else 0

theorem heard_update (s : Shell) (k j : Nat) (old server : Server) (found : s.servers[k]? = some old) :
    (s.update k server).heard j = if k = j then server.accepted.length - server.queued.length else s.heard j := by
  rw [Shell.heard,update_getElem? s k j old server found]
  by_cases same : k = j
  · rw [if_pos same,if_pos same]
    rfl
  · rw [if_neg same,if_neg same]
    rfl

theorem heard_found (s : Shell) (k : Nat) (server : Server) (found : s.servers[k]? = some server) :
    s.heard k = server.accepted.length - server.queued.length := by
  rw [Shell.heard,found]
  rfl

/-- A server that is not running is not awaited again. -/
theorem step_heard (s after : Shell) (received : List (Nat × ControlPlaneEvent)) (event : ShellEvent) (k : Nat)
    (ran : Ran s received) (known : k < s.servers.length) (stopped : s.running ≠ some k)
    (taken : s.step event = some after) :
    k < after.servers.length ∧ after.running ≠ some k ∧ after.heard k + after.awaits k ≤ s.heard k + s.awaits k := by
  cases s.step_moves after event taken with
  | refused bound => exact ⟨known,stopped,Nat.le_refl _⟩
  | unheard j event deaf => exact ⟨known,stopped,Nat.le_refl _⟩
  | stopped => exact ⟨known,(fun none => nomatch none),Nat.le_refl _⟩
  | started idle =>
    have same : (s.servers ++ [⟨[],[],true⟩])[k]? = s.servers[k]? := List.getElem?_append_left known
    refine ⟨?_,?_,?_⟩
    · rw [List.length_append]
      exact Nat.lt_add_right _ known
    · intro running
      exact absurd (Option.some.inj running) (Nat.ne_of_gt known)
    · refine Nat.le_of_eq (congrArg (· + s.awaits k) ?_)
      rw [Shell.heard,same]
      rfl
  | published j event server found =>
    refine ⟨(update_length s j _).symm ▸ known,stopped,Nat.le_of_eq (congrArg (· + s.awaits k) ?_)⟩
    rw [heard_update s j k server _ found]
    split
    · next same =>
      rw [heard_found s k server (same ▸ found),List.length_append,List.length_append]
      exact Nat.add_sub_add_right _ _ _
    · rfl
  | closed j server found other =>
    refine ⟨(update_length s j _).symm ▸ known,stopped,Nat.le_of_eq (congrArg (· + s.awaits k) ?_)⟩
    rw [heard_update s j k server _ found]
    split
    · next same => exact (heard_found s k server (same ▸ found)).symm
    · rfl
  | polled free =>
    refine ⟨known,stopped,?_⟩
    have after : Shell.awaits {s with pump := s.running} k = 0 := if_neg stopped
    rw [after]
    exact Nat.le_add_right _ _
  | received j accepted queued senders event awaited found =>
    refine ⟨(update_length s j ⟨accepted,queued,senders⟩).symm ▸ known,stopped,?_⟩
    change (s.update j ⟨accepted,queued,senders⟩).heard k + 0 ≤ _
    rw [heard_update s j k _ _ found,Nat.add_zero]
    split
    · next same =>
      have awaits : s.awaits k = 1 := if_pos (same ▸ awaited)
      rw [heard_found s k _ (same ▸ found),awaits,List.length_cons]
      have whole := congrArg List.length (ran.queues j _ found)
      rw [List.length_append,List.length_cons] at whole
      dsimp only at whole ⊢
      omega
    · exact Nat.le_add_right _ _
  | drained j accepted awaited found => exact ⟨known,stopped,Nat.le_add_right _ _⟩

theorem run_heard (s t : Shell) (received : List (Nat × ControlPlaneEvent)) (events : List ShellEvent) (k : Nat)
    (ran : Ran s received) (known : k < s.servers.length) (stopped : s.running ≠ some k)
    (run : exec Shell.step s events = some t) : t.running ≠ some k ∧ t.heard k + t.awaits k ≤ s.heard k + s.awaits k := by
  induction events generalizing s received with
  | nil =>
    obtain rfl : s = t := by simpa [exec] using run
    exact ⟨stopped,Nat.le_refl _⟩
  | cons event rest ih =>
    obtain ⟨s',taken,later⟩ := (exec_cons Shell.step s t event rest).mp run
    obtain ⟨known',stopped',fewer⟩ := step_heard s s' received event k ran known stopped taken
    obtain ⟨more,ran'⟩ := step_ran s s' received event ran taken
    obtain ⟨ended,bounded⟩ := ih s' _ ran' known' stopped' later
    exact ⟨ended,Nat.le_trans bounded fewer⟩

/-- The pump awaits a server that is silent and not done. -/
structure Waits (s : Shell) (k : Nat) (accepted : List ControlPlaneEvent) (emitted : List UiEvent) : Prop where
  awaited : s.pump = some k
  silent : s.servers[k]? = some ⟨accepted,[],true⟩
  emitted : s.emitted = emitted

/-- What wakes a pump that awaits the server. -/
def ShellEvent.wakes (k : Nat) : ShellEvent → Bool
  | .published j _ | .closed j => j = k
  | _ => false

theorem step_waits (s after : Shell) (event : ShellEvent) (k : Nat) (accepted : List ControlPlaneEvent)
    (emitted : List UiEvent) (waits : Waits s k accepted emitted) (other : event.wakes k = false)
    (taken : s.step event = some after) : Waits after k accepted emitted := by
  have differs (j : Nat) (unequal : decide (j = k) = false) : ¬ j = k := of_decide_eq_false unequal
  cases s.step_moves after event taken with
  | refused bound => exact waits
  | unheard j event deaf => exact waits
  | stopped => exact ⟨waits.awaited,waits.silent,waits.emitted⟩
  | started idle =>
    obtain ⟨inside,_⟩ := List.getElem?_eq_some_iff.mp waits.silent
    exact ⟨waits.awaited,(List.getElem?_append_left inside).trans waits.silent,waits.emitted⟩
  | published j event server found =>
    refine ⟨waits.awaited,?_,waits.emitted⟩
    rw [update_getElem? s j k server _ found,if_neg (differs j other)]
    exact waits.silent
  | closed j server found another =>
    refine ⟨waits.awaited,?_,waits.emitted⟩
    rw [update_getElem? s j k server _ found,if_neg (differs j other)]
    exact waits.silent
  | polled free => exact absurd (free.symm.trans waits.awaited) (by simp)
  | received j earlier queued senders event awaited found =>
    obtain rfl := Option.some.inj (awaited.symm.trans waits.awaited)
    cases found.symm.trans waits.silent
  | drained j earlier awaited found =>
    obtain rfl := Option.some.inj (awaited.symm.trans waits.awaited)
    cases found.symm.trans waits.silent

/-- A stopped server is heard at most once more, and only if the pump awaits it; but as long as it neither
publishes nor ends, a pump that awaits it shows nothing of the servers after it. -/
theorem stopped_server_last_heard (events later : List ShellEvent) (s t : Shell) (k : Nat)
    (run : exec Shell.step .start events = some s) (known : k < s.servers.length) (stopped : s.running ≠ some k)
    (rest : exec Shell.step s later = some t) :
    t.heard k + t.awaits k ≤ s.heard k + s.awaits k ∧
      ∀ accepted, s.pump = some k → s.servers[k]? = some ⟨accepted,[],true⟩ →
        (∀ event ∈ later, event.wakes k = false) → t.emitted = s.emitted ∧ t.pump = some k := by
  obtain ⟨received,ran⟩ := run_ran .start s events [] start_ran run
  refine ⟨(run_heard s t _ later k ran known stopped rest).2,?_⟩
  intro accepted awaited silent quiet
  have waits := exec_kept Shell.step (fun s' => Waits s' k accepted s.emitted) later
    (fun before event after member waits taken => step_waits before after event k accepted s.emitted waits
      (quiet event member) taken) s t ⟨awaited,silent,rfl⟩ rest
  exact ⟨waits.emitted,waits.awaited⟩

/-- The server is restarted while the pump awaits the first one. -/
def restarted : List ShellEvent := [.startServer true,.polled,.stopServer,.startServer true]

theorem stopped_server_last_heard_restarted : ∃ s t,
    exec Shell.step .start restarted = some s ∧
      exec Shell.step s [.published 1 (.stateChanged .wifiHandshake)] = some t ∧
      t.running = some 1 ∧ t.emitted = [] ∧ t.pump = some 0 := by
  have run : exec Shell.step .start restarted =
      some ⟨some 1,[⟨[],[],true⟩,⟨[],[],true⟩],some 0,none,[]⟩ := by decide
  have rest : exec Shell.step ⟨some 1,[⟨[],[],true⟩,⟨[],[],true⟩],some 0,none,[]⟩
      [.published 1 (.stateChanged .wifiHandshake)] = some ⟨some 1,[⟨[],[],true⟩,
        ⟨[.stateChanged .wifiHandshake],[.stateChanged .wifiHandshake],true⟩],some 0,none,[]⟩ := by decide
  obtain ⟨_,waits⟩ := stopped_server_last_heard restarted [.published 1 (.stateChanged .wifiHandshake)] _ _ 0 run
    (by decide) (by decide) rest
  obtain ⟨same,awaits⟩ := waits [] rfl rfl (by decide)
  exact ⟨_,_,run,rest,rfl,same,awaits⟩

end ClearCam.App.Ui

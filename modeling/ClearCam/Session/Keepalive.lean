import ClearCam.Session.Events
import ClearCam.Library.Watchdog

/-! The keepalive of one control plane as a watchdog: a peer that answers in time is never given up, and one
that falls silent is given up within one tick of the limit. -/
namespace ClearCam.Session
open ClearCam.Protocol ClearCam.Transport ClearCam.Library

/-- A tick checks on the peer, and any envelope is a sign of life. -/
def PlaneInput.watch : PlaneInput → Option Watch
  | .tick now _ _ => some (.check now)
  | .recv now _ _ (.ok _) => some (.hear now)
  | _ => none

def watches (inputs : List PlaneInput) : List Watch := inputs.filterMap PlaneInput.watch

/-- Neither a failure nor the peer's BYE ends the plane on this input. -/
def PlaneInput.quiet : PlaneInput → Bool
  | .outbound _ failure => failure.isNone
  | .tick _ _ failure => failure.isNone
  | .recv _ _ _ (.ok ⟨_,_,.bye _⟩) => false
  | .recv _ _ _ (.ok _) => true
  | .recv _ _ _ (.error _) => false

theorem Plane.onEnvelope_lastRx (channels : Channels) (plane : Plane) (nowUsec : UInt64)
    (failure : Option TransportError) (env : ControlEnvelope) :
    (plane.onEnvelope channels nowUsec failure env).2.lastRx = plane.lastRx := by
  obtain ⟨seq,ack,body⟩ := env
  cases body with
  | cameraList list =>
    simp only [Plane.onEnvelope]
    split <;> rfl
  | _ => rfl

theorem Plane.onEnvelope_returned (channels : Channels) (plane : Plane) (now : Nat) (nowUsec : UInt64)
    (failure : Option TransportError) (env : ControlEnvelope)
    (quiet : (PlaneInput.recv now nowUsec failure (.ok env)).quiet = true) :
    (plane.onEnvelope channels nowUsec failure env).2.returned = plane.returned := by
  obtain ⟨seq,ack,body⟩ := env
  cases body with
  | bye bye => cases quiet
  | cameraList list =>
    simp only [Plane.onEnvelope]
    split <;> rfl
  | _ => rfl

/-- The plane keeps the time of the last sign, and ends on a quiet input just where a check fails. -/
theorem Plane.handle_watch (channels : Channels) (plane : Plane) (dog : Watchdog) (input : PlaneInput)
    (running : plane.returned = false) (sign : plane.lastRx = dog.heard) :
    (plane.handle channels input).2.lastRx = (dog.after (watches [input])).heard ∧
      ((plane.handle channels input).2.returned = false →
        ∀ watch ∈ input.watch, Watchdog.Alive deadPeerAfter dog watch) ∧
      (input.quiet = true → (∀ watch ∈ input.watch, Watchdog.Alive deadPeerAfter dog watch) →
        (plane.handle channels input).2.returned = false) := by
  cases input with
  | outbound message failure =>
    cases message with
    | none => exact ⟨sign,(fun _ _ absent => nomatch absent),fun _ _ => running⟩
    | some body =>
      cases failure with
      | none => exact ⟨sign,(fun _ _ absent => nomatch absent),fun _ _ => running⟩
      | some error => exact ⟨sign,(fun _ _ absent => nomatch absent),fun quiet => Bool.noConfusion quiet⟩
  | tick now nowUsec failure =>
    have checks : (∀ watch ∈ PlaneInput.watch (.tick now nowUsec failure), Watchdog.Alive deadPeerAfter dog watch) ↔
        now - plane.lastRx ≤ deadPeerAfter := by
      rw [sign]
      constructor
      · exact fun alive => alive (.check now) rfl
      · intro alive watch member
        cases member
        exact alive
    rw [checks]
    cases failure with
    | some error => exact ⟨sign,(fun ended => Bool.noConfusion ended),fun quiet => Bool.noConfusion quiet⟩
    | none =>
      by_cases dead : now - plane.lastRx > deadPeerAfter
      · have gone : plane.onTick channels now nowUsec none =
            (plane.send none (.ping ⟨nowUsec⟩) none).disconnect channels := if_pos dead
        rw [Plane.handle,gone]
        exact ⟨sign,(fun ended => Bool.noConfusion ended),fun _ alive => absurd alive (Nat.not_le.mpr dead)⟩
      · have stays : plane.onTick channels now nowUsec none = (channels,plane.send none (.ping ⟨nowUsec⟩) none) :=
          if_neg dead
        rw [Plane.handle,stays]
        exact ⟨sign,fun _ => Nat.not_lt.mp dead,fun _ _ => running⟩
  | recv now nowUsec failure result =>
    cases result with
    | error error => exact ⟨sign,(fun ended => Bool.noConfusion ended),fun quiet => Bool.noConfusion quiet⟩
    | ok env =>
      refine ⟨?_,?_,?_⟩
      · exact Plane.onEnvelope_lastRx channels {plane with lastRx := now} nowUsec failure env
      · intro _ watch member
        cases member
        trivial
      · intro quiet _
        exact (Plane.onEnvelope_returned channels {plane with lastRx := now} now nowUsec failure env quiet).trans running

theorem watches_cons (input : PlaneInput) (rest : List PlaneInput) :
    watches (input :: rest) = watches [input] ++ watches rest := by
  rw [watches,← List.singleton_append,List.filterMap_append]
  rfl

/-- The watchdog keeps step with the plane: one turn of the loop is at most one event of the watchdog. -/
theorem Watchdog.along_input (P : Watchdog → Watch → Prop) (dog : Watchdog) (input : PlaneInput)
    (rest : List PlaneInput) (along : Along Watchdog.step P dog (watches (input :: rest))) :
    (∀ watch ∈ input.watch, P dog watch) ∧ Along Watchdog.step P (dog.after (watches [input])) (watches rest) := by
  rw [watches_cons] at along
  cases seen : input.watch with
  | none =>
    have silent : watches [input] = [] := by simp [watches,seen]
    rw [silent] at along ⊢
    exact ⟨(fun _ absent => nomatch absent),along⟩
  | some watch =>
    have single : watches [input] = [watch] := by simp [watches,seen]
    rw [single] at along ⊢
    refine ⟨?_,along.2 (dog.next watch) rfl⟩
    intro other member
    cases member
    exact along.1

/-- What a run keeps of a peer that gives its sign at most `delay` after it was asked. -/
theorem run_kept (gap delay : Nat) (enough : gap + delay ≤ deadPeerAfter) (inputs : List PlaneInput)
    (s : Channels × Plane) (dog : Watchdog) (running : s.2.returned = false) (sign : s.2.lastRx = dog.heard)
    (fresh : dog.Fresh gap) (quiet : ∀ input ∈ inputs, input.quiet = true)
    (along : Along Watchdog.step
      (fun dog watch => Watchdog.Punctual gap dog watch ∧ Watchdog.Answered delay dog watch) dog (watches inputs)) :
    ∃ t, exec Plane.step s inputs = some t ∧ t.2.returned = false := by
  induction inputs generalizing s dog with
  | nil => exact ⟨s,rfl,running⟩
  | cons input rest ih =>
    obtain ⟨here,later⟩ := Watchdog.along_input _ dog input rest along
    obtain ⟨heard,_,kept⟩ := s.2.handle_watch s.1 dog input running sign
    have alive : ∀ watch ∈ input.watch, Watchdog.Alive deadPeerAfter dog watch := by
      intro watch seen
      obtain ⟨punctual,answered⟩ := here watch seen
      exact (Watchdog.fresh_alive gap delay dog watch fresh punctual answered).mono enough
    have fresh' : (dog.after (watches [input])).Fresh gap := by
      cases seen : input.watch with
      | none => simpa [watches,seen,Watchdog.after] using fresh
      | some watch =>
        have kept := Watchdog.next_fresh gap dog watch fresh (here watch seen).1
        simpa [watches,seen,Watchdog.after] using kept
    have still := kept (quiet input List.mem_cons_self) alive
    obtain ⟨t,run,ended⟩ := ih (s.2.handle s.1 input) _ still heard fresh'
      (fun other member => quiet other (List.mem_cons_of_mem _ member)) later
    refine ⟨t,?_,ended⟩
    rw [exec_cons]
    exact ⟨_,by rw [Plane.step,running]; rfl,run⟩

/-- A peer that lets no question of the plane wait for longer than `delay` is never given up: as long as
nothing else ends it, the plane takes every input and runs on. -/
theorem live_peer_kept (gap delay : Nat) (enough : gap + delay ≤ deadPeerAfter) (channels : Channels)
    (transport : TransportTag) (now : Nat) (telemetryTx : Option (Mailbox Telemetry)) (inputs : List PlaneInput)
    (quiet : ∀ input ∈ inputs, input.quiet = true)
    (along : Along Watchdog.step
      (fun dog watch => Watchdog.Punctual gap dog watch ∧ Watchdog.Answered delay dog watch)
      (.start now) (watches inputs)) :
    ∃ t, exec Plane.step (Plane.start channels transport now telemetryTx) inputs = some t ∧
      t.2.returned = false := by
  exact run_kept gap delay enough inputs _ (.start now) rfl rfl (Watchdog.start_fresh gap now) quiet along

/-- Two ticks of two seconds, each answered within half a second. -/
def answeredTicks : List PlaneInput :=
  [.tick 2000000000 0 none,.recv 2500000000 0 none (.ok ⟨1,none,.pong ⟨0,0⟩⟩),
    .tick 4000000000 0 none,.recv 4500000000 0 none (.ok ⟨2,none,.pong ⟨0,0⟩⟩)]

theorem live_peer_kept_answered : ∃ t, exec Plane.step (Plane.start ⟨⟨.idle,none,none⟩,[]⟩ .wifi 0 none)
    answeredTicks = some t ∧ t.2.returned = false := by
  exact live_peer_kept 2000000000 500000000 (by decide) ⟨⟨.idle,none,none⟩,[]⟩ .wifi 0 none answeredTicks
    (by decide) (by decide)

theorem exec_running (s t : Channels × Plane) (inputs : List PlaneInput)
    (run : exec Plane.step s inputs = some t) (running : t.2.returned = false) : s.2.returned = false := by
  cases inputs with
  | nil =>
    obtain rfl : s = t := by simpa [exec] using run
    exact running
  | cons input rest =>
    obtain ⟨s',taken,_⟩ := (exec_cons Plane.step s t input rest).mp run
    exact (Plane.step_eq s s' input taken).1

/-- A plane that still runs has checked on its peer at most `deadPeerAfter` past the last sign. -/
theorem run_checked (gap : Nat) (inputs : List PlaneInput) (s t : Channels × Plane) (dog : Watchdog)
    (sign : s.2.lastRx = dog.heard) (checked : dog.checked ≤ dog.heard + deadPeerAfter)
    (along : Along Watchdog.step (Watchdog.Punctual gap) dog (watches inputs))
    (run : exec Plane.step s inputs = some t) (running : t.2.returned = false) :
    t.2.lastRx = (dog.after (watches inputs)).heard ∧
      (dog.after (watches inputs)).checked ≤ (dog.after (watches inputs)).heard + deadPeerAfter := by
  induction inputs generalizing s dog with
  | nil =>
    obtain rfl : s = t := by simpa [exec] using run
    exact ⟨sign,checked⟩
  | cons input rest ih =>
    obtain ⟨here,later⟩ := Watchdog.along_input _ dog input rest along
    obtain ⟨s',taken,run'⟩ := (exec_cons Plane.step s t input rest).mp run
    obtain ⟨live,rfl⟩ := Plane.step_eq s s' input taken
    obtain ⟨heard,alive,_⟩ := s.2.handle_watch s.1 dog input live sign
    have live' := exec_running _ t rest run' running
    have checked' : (dog.after (watches [input])).checked ≤ (dog.after (watches [input])).heard + deadPeerAfter := by
      cases seen : input.watch with
      | none => simpa [watches,seen,Watchdog.after] using checked
      | some watch =>
        have kept := Watchdog.next_checked deadPeerAfter dog watch (here watch seen).2.1 (alive live' watch seen)
        simpa [watches,seen,Watchdog.after] using kept
    rw [watches_cons,Watchdog.after_append]
    exact ih _ _ heard checked' later run'

/-- A peer that falls silent is given up: a plane that ticks at least every `gap` and still runs hears its next
tick or envelope at most `deadPeerAfter + gap` after the last envelope, and a tick that finds more than
`deadPeerAfter` gone ends it. -/
theorem silent_peer_dropped (gap : Nat) (channels : Channels) (transport : TransportTag) (now : Nat)
    (telemetryTx : Option (Mailbox Telemetry)) (inputs : List PlaneInput) (s : Channels × Plane)
    (along : Along Watchdog.step (Watchdog.Punctual gap) (.start now) (watches inputs))
    (run : exec Plane.step (Plane.start channels transport now telemetryTx) inputs = some s)
    (running : s.2.returned = false) :
    let dog := (Watchdog.start now).after (watches inputs)
    s.2.lastRx = dog.heard ∧
      (∀ watch, dog.Punctual gap watch → watch.now ≤ s.2.lastRx + deadPeerAfter + gap) ∧
      ∀ later nowUsec failure t, Plane.step s (.tick later nowUsec failure) = some t →
        (t.2.returned = false ↔ failure = none ∧ later ≤ s.2.lastRx + deadPeerAfter) := by
  intro dog
  obtain ⟨sign,checked⟩ := run_checked gap inputs _ s (.start now) rfl (Nat.le_add_right now deadPeerAfter) along run
    running
  refine ⟨sign,?_,?_⟩
  · intro watch punctual
    have soon : watch.now ≤ dog.checked + gap := punctual.2.2
    have early : dog.checked ≤ s.2.lastRx + deadPeerAfter := by
      rw [sign]
      exact checked
    omega
  · intro later nowUsec failure t taken
    obtain ⟨_,rfl⟩ := Plane.step_eq s t _ taken
    obtain ⟨_,alive,kept⟩ := s.2.handle_watch s.1 dog (.tick later nowUsec failure) running sign
    have checks : Watchdog.Alive deadPeerAfter dog (.check later) ↔ later ≤ s.2.lastRx + deadPeerAfter := by
      rw [sign]
      exact Nat.sub_le_iff_le_add'
    constructor
    · intro still
      have sent : failure = none := by
        cases failure with
        | none => rfl
        | some error => exact Bool.noConfusion still
      exact ⟨sent,checks.mp (alive still _ rfl)⟩
    · rintro ⟨rfl,soon⟩
      refine kept rfl ?_
      intro watch member
      cases member
      exact checks.mpr soon

/-- The phone answers the first ping and is then silent: the tick after the limit ends the plane. -/
def silencedTicks : List PlaneInput :=
  [.tick 2000000000 0 none,.recv 2500000000 0 none (.ok ⟨1,none,.pong ⟨0,0⟩⟩),
    .tick 4000000000 0 none,.tick 6000000000 0 none,.tick 8000000000 0 none]

theorem silent_peer_dropped_silenced : ∃ s,
    exec Plane.step (Plane.start ⟨⟨.idle,none,none⟩,[]⟩ .wifi 0 none) silencedTicks = some s ∧
      s.2.lastRx = 2500000000 ∧
      ∀ t, Plane.step s (.tick 10000000000 0 none) = some t → t.2.returned = true := by
  cases run : exec Plane.step (Plane.start ⟨⟨.idle,none,none⟩,[]⟩ .wifi 0 none) silencedTicks with
  | none => exact absurd run (by decide)
  | some s =>
    have running : (exec Plane.step (Plane.start ⟨⟨.idle,none,none⟩,[]⟩ .wifi 0 none) silencedTicks).map
        (·.2.returned) = some false := by decide
    rw [run] at running
    obtain ⟨sign,_,judged⟩ := silent_peer_dropped 2000000000 ⟨⟨.idle,none,none⟩,[]⟩ .wifi 0 none silencedTicks s
      (by decide) run (Option.some.inj running)
    refine ⟨s,rfl,sign,?_⟩
    intro t taken
    by_contra still
    have late := ((judged 10000000000 0 none t taken).mp (by simpa using still)).2
    rw [sign] at late
    exact absurd late (by decide)

end ClearCam.Session

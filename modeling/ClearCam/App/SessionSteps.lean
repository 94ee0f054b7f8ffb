import ClearCam.App.Loops

/-! What a step does to one session, whichever task takes it: the inversion of the step function
once more, read at the index of a session. -/
namespace ClearCam.App
open ClearCam.Session

/-- Its control plane runs, or is yet to be started. -/
def Task.live : Task → Bool
  | .accepted | .published | .counted | .spawned | .running _ => true
  | _ => false

def AppState.live (app : AppState) (i : Nat) : Bool := (app.task i).any Task.live

def AppState.over (app : AppState) (i : Nat) : Bool := (app.task i).any fun task => !task.live

/-- The ways in which a step moves a session's task. -/
inductive Moves (app : AppState) (j : Nat) : Label → Task → Task → Prop where
  | prepared (label : Label) (before after : Task) (live : before.live = true) (next : after.live = true)
      (forward : after.inHand = true → before.inHand = true) : Moves app j label before after
  | withdrawn (label : Label) (stood : app.At .usb j .counted) : Moves app j label .counted .withdrawing
  | handled (input : PlaneInput) (plane after : Plane) (held : app.task j = some (.running plane))
      (result : (plane.handle app.channels input).2 = after) :
      Moves app j (.plane j input) (.running plane) (if after.returned then .returned else .running after)
  | settled (label : Label) (before after : Task) (finished : before.live = false) (next : after.live = false)
      (away : after.inHand = false) : Moves app j label before after

/-- What a step does to session `j`. -/
inductive SessionStep (app next : AppState) (label : Label) (j : Nat) : Prop where
  | same (kept : next.sessions[j]? = app.sessions[j]?)
  | created (fresh : Session) (absent : app.sessions[j]? = none) (kept : next.sessions[j]? = some fresh)
      (task : fresh.task = .accepted) (media : fresh.media = .waiting)
  | moved (session : Session) (after : Task) (held : app.sessions[j]? = some session)
      (kept : next.sessions[j]? = some {session with task := after}) (moves : Moves app j label session.task after)
  | delivered (session : Session) (socket : Nat) (pair : String × String) (held : app.sessions[j]? = some session)
      (known : app.pending.lookup pair = some j)
      (kept : next.sessions[j]? = some {session with media := .delivered socket})
  | attached (session : Session) (socket : Nat) (held : app.sessions[j]? = some session)
      (here : label = .attach j) (given : session.media = .delivered socket)
      (kept : next.sessions[j]? = some {session with media := .attached socket})
  | greeted (session : Session) (socket : Nat) (held : app.sessions[j]? = some session)
      (wired : session.transport = .usb) (counted : session.task = .counted)
      (kept : next.sessions[j]? = some {session with task := .spawned, media := .attached socket})

/-- A step that changes session `k` and no other. -/
theorem SessionStep.modify (app next : AppState) (label : Label) (k j : Nat) (f : Session → Session)
    (sessions : next.sessions = app.sessions.modify k f)
    (here : ∀ session, k = j → app.sessions[j]? = some session → next.sessions[j]? = some (f session) →
      SessionStep app next label j) : SessionStep app next label j := by
  cases held : app.sessions[j]? with
  | none =>
    apply SessionStep.same
    rw [sessions,List.getElem?_modify,held]
    rfl
  | some session =>
    by_cases same : k = j
    · refine here session same held ?_
      rw [sessions,List.getElem?_modify,held]
      simp [same]
    · apply SessionStep.same
      rw [sessions,List.getElem?_modify,held]
      simp [same]

theorem SessionStep.setTask (app next : AppState) (label : Label) (k j : Nat) (before after : Task)
    (held : app.task k = some before) (sessions : next.sessions = (app.setTask k after).sessions)
    (moves : k = j → Moves app j label before after) : SessionStep app next label j := by
  refine .modify app next label k j _ sessions ?_
  intro session here found kept
  subst here
  obtain rfl : session.task = before := by simpa [AppState.task,found] using held
  exact .moved session after found kept (moves rfl)

theorem SessionStep.append (app next : AppState) (label : Label) (j : Nat) (fresh : Session)
    (task : fresh.task = .accepted) (media : fresh.media = .waiting)
    (sessions : next.sessions = app.sessions ++ [fresh]) : SessionStep app next label j := by
  rcases Nat.lt_trichotomy j app.sessions.length with inside | rfl | beyond
  · apply SessionStep.same
    rw [sessions,List.getElem?_append_left inside]
  · refine .created fresh (List.getElem?_eq_none (Nat.le_refl _)) ?_ task media
    rw [sessions,List.getElem?_concat_length]
  · apply SessionStep.same
    rw [sessions,List.getElem?_eq_none (by simp; omega),List.getElem?_eq_none (by omega)]

theorem step_session (token : String) (app next : AppState) (label : Label) (consistent : Consistent app)
    (taken : app.step token label = some next) (j : Nat) : SessionStep app next label j := by
  have stepped := step_stepped token app next label taken
  have ⟨wifi,usb⟩ := consistent
  cases stepped with
  | wifiAccepted | usbAccepted => exact .append app _ _ j _ rfl rfl rfl
  | wifiPublished socket k pc =>
    exact .setTask app _ _ k j _ .spawned (wifi k .accepted (by rw [pc]; rfl)).task_eq rfl
      fun _ => .prepared _ _ _ rfl rfl fun _ => rfl
  | handedOver recv socket k binding pc greeted known =>
    refine .modify app _ _ k j _ rfl ?_
    intro session here held kept
    subst here
    exact .delivered session socket _ held known kept
  | attached k socket delivered =>
    refine .modify app _ _ k j _ rfl ?_
    intro session here held kept
    subst here
    have given : session.media = .delivered socket := by simpa [AppState.media,held] using delivered
    exact .attached session socket held rfl given kept
  | started k now session found spawned channels plane begun =>
    have held : app.task k = some .spawned := by simp [AppState.task,found,spawned]
    exact .setTask app _ _ k j _ (.running plane) held rfl
      fun _ => .prepared _ _ _ rfl rfl fun back => (by cases back)
  | planeStepped k input plane after channels held handled =>
    refine .setTask app _ _ k j _ _ held rfl ?_
    intro here
    subst here
    exact .handled input plane after held (congrArg Prod.snd handled)
  | outboundCleared k held =>
    exact .setTask app _ _ k j _ .outboundCleared held rfl fun _ => .settled _ _ _ rfl rfl rfl
  | speedtestCleared k held =>
    exact .setTask app _ _ k j _ .done held rfl fun _ => .settled _ _ _ rfl rfl rfl
  | usbPublished dialed k pc =>
    exact .setTask app _ _ k j _ .published (usb k .accepted (by rw [pc]; rfl)).task_eq rfl
      fun _ => .prepared _ _ _ rfl rfl fun _ => rfl
  | usbCounted dialed k pc =>
    exact .setTask app _ _ k j _ .counted (usb k .published (by rw [pc]; rfl)).task_eq rfl
      fun _ => .prepared _ _ _ rfl rfl fun _ => rfl
  | usbGreeted recv dialed k binding pc greeted =>
    obtain ⟨owner,found,wired,counted⟩ := usb k .counted (by rw [pc]; rfl)
    refine .modify app _ _ k j _ (List.modify_modify_eq _ _ _ _) ?_
    intro session here held kept
    subst here
    obtain rfl : owner = session := Option.some.inj (found.symm.trans held)
    exact .greeted owner dialed.media held wired counted kept
  | usbUngreeted recv dialed k error pc failed =>
    have stood := usb k .counted (by rw [pc]; rfl)
    refine .setTask app _ _ k j _ .withdrawing stood.task_eq rfl ?_
    intro here
    subst here
    exact .withdrawn _ stood
  | usbWithdrawn dialed k pc =>
    exact .setTask app _ _ k j _ .abandoned (usb k .withdrawing (by rw [pc]; rfl)).task_eq rfl
      fun _ => .settled _ _ _ rfl rfl rfl
  | _ => exact .same rfl

theorem Moves.over (app : AppState) (j : Nat) (label : Label) (before after : Task)
    (moves : Moves app j label before after) (finished : before.live = false) : after.live = false := by
  cases moves with
  | prepared _ _ _ live next =>
    rw [live] at finished
    cases finished
  | withdrawn _ stood => rfl
  | handled input plane after held result => cases finished
  | settled _ _ _ _ next => exact next

theorem Moves.inHand (app : AppState) (j : Nat) (label : Label) (before after : Task)
    (moves : Moves app j label before after) (hand : after.inHand = true) : before.inHand = true := by
  cases moves with
  | prepared _ _ _ live next forward => exact forward hand
  | withdrawn _ stood => rfl
  | handled input plane after held result =>
    cases ended : after.returned with
    | false =>
      rw [ended] at hand
      cases hand
    | true =>
      rw [ended] at hand
      cases hand
  | settled _ _ _ _ next away =>
    rw [away] at hand
    cases hand

/-- The only ways for a session to end: its control plane returns, or its `MEDIA_HELLO` fails. -/
theorem Moves.live (app : AppState) (j : Nat) (label : Label) (before after : Task)
    (moves : Moves app j label before after) (live : before.live = true) :
    after.live = true ∨ app.At .usb j .counted ∨
      ∃ input plane, label = .plane j input ∧ app.task j = some (.running plane) ∧
        (plane.handle app.channels input).2.returned = true := by
  cases moves with
  | prepared _ _ _ _ next => exact .inl next
  | withdrawn _ stood => exact .inr (.inl stood)
  | handled input plane after held result =>
    cases ended : after.returned with
    | false => exact .inl rfl
    | true => exact .inr (.inr ⟨input,plane,rfl,held,by rw [result,ended]⟩)
  | settled _ _ _ finished =>
    rw [finished] at live
    cases live

theorem task_of_session (app : AppState) (i : Nat) (session : Session) (held : app.sessions[i]? = some session) :
    app.task i = some session.task := by
  rw [AppState.task,held]
  rfl

theorem over_iff (app : AppState) (i : Nat) (session : Session) (held : app.sessions[i]? = some session) :
    app.over i = true ↔ session.task.live = false := by
  rw [AppState.over,task_of_session app i session held]
  simp

theorem live_iff (app : AppState) (i : Nat) (session : Session) (held : app.sessions[i]? = some session) :
    app.live i = true ↔ session.task.live = true := by
  rw [AppState.live,task_of_session app i session held]
  rfl

theorem not_live_of_over (app : AppState) (i : Nat) (finished : app.over i = true) : app.live i ≠ true := by
  intro live
  cases held : app.sessions[i]? with
  | none =>
    rw [AppState.live,AppState.task,held] at live
    cases live
  | some session =>
    rw [over_iff app i session held] at finished
    rw [live_iff app i session held,finished] at live
    cases live

theorem step_live (token : String) (app next : AppState) (label : Label) (consistent : Consistent app)
    (taken : app.step token label = some next) (j : Nat) (live : app.live j = true) :
    next.live j = true ∨ app.At .usb j .counted ∨
      ∃ input plane, label = .plane j input ∧ app.task j = some (.running plane) ∧
        (plane.handle app.channels input).2.returned = true := by
  cases step_session token app next label consistent taken j with
  | same kept =>
    rw [AppState.live,AppState.task,kept]
    exact .inl live
  | created fresh absent kept task media =>
    rw [AppState.live,AppState.task,absent] at live
    cases live
  | moved session after held kept moves =>
    rw [live_iff app j session held] at live
    rw [live_iff next j _ kept]
    exact moves.live app j label _ after live
  | delivered session socket pair held known kept =>
    rw [live_iff app j session held] at live
    rw [live_iff next j _ kept]
    exact .inl live
  | attached session socket held here given kept =>
    rw [live_iff app j session held] at live
    rw [live_iff next j _ kept]
    exact .inl live
  | greeted session socket held wired counted kept =>
    rw [live_iff next j _ kept]
    exact .inl rfl

theorem step_over (token : String) (app next : AppState) (label : Label) (consistent : Consistent app)
    (taken : app.step token label = some next) (j : Nat) (finished : app.over j = true) : next.over j = true := by
  cases step_session token app next label consistent taken j with
  | same kept =>
    rw [AppState.over,AppState.task,kept]
    exact finished
  | created fresh absent kept task media =>
    rw [AppState.over,AppState.task,absent] at finished
    cases finished
  | moved session after held kept moves =>
    rw [over_iff app j session held] at finished
    rw [over_iff next j _ kept]
    exact moves.over app j label _ after finished
  | delivered session socket pair held known kept =>
    rw [over_iff app j session held] at finished
    rw [over_iff next j _ kept]
    exact finished
  | attached session socket held here given kept =>
    rw [over_iff app j session held] at finished
    rw [over_iff next j _ kept]
    exact finished
  | greeted session socket held wired counted kept =>
    rw [over_iff app j session held,counted] at finished
    cases finished

/-- Wi-Fi streams go to Wi-Fi sessions only: a USB session that the consumer still has in hand has
no media yet. -/
structure Separate (app : AppState) : Prop where
  consistent : Consistent app
  pending : ∀ pair i, app.pending.lookup pair = some i →
    ∃ session, app.sessions[i]? = some session ∧ session.transport = .wifi
  delivered : ∀ (i : Nat) (session : Session) (socket : Nat), app.sessions[i]? = some session →
    session.media = .delivered socket → session.transport = .wifi
  unattached : ∀ (i : Nat) (session : Session), app.sessions[i]? = some session → session.transport = .usb →
    session.task.inHand = true → session.media = .waiting

theorem step_transport (token : String) (app next : AppState) (label : Label) (consistent : Consistent app)
    (taken : app.step token label = some next) (i : Nat) (session : Session)
    (held : app.sessions[i]? = some session) :
    ∃ after, next.sessions[i]? = some after ∧ after.transport = session.transport := by
  cases step_session token app next label consistent taken i with
  | same kept => exact ⟨session,kept.trans held,rfl⟩
  | created fresh absent kept task media =>
    rw [absent] at held
    cases held
  | moved before after found kept moves =>
    obtain rfl := Option.some.inj (found.symm.trans held)
    exact ⟨_,kept,rfl⟩
  | delivered before socket pair found known kept =>
    obtain rfl := Option.some.inj (found.symm.trans held)
    exact ⟨_,kept,rfl⟩
  | attached before socket found here given kept =>
    obtain rfl := Option.some.inj (found.symm.trans held)
    exact ⟨_,kept,rfl⟩
  | greeted before socket found wired counted kept =>
    obtain rfl := Option.some.inj (found.symm.trans held)
    exact ⟨_,kept,rfl⟩

/-- What waits for a stream after a step waited before, or was accepted over Wi-Fi by it. -/
theorem step_pending (token : String) (app next : AppState) (label : Label)
    (taken : app.step token label = some next) (pair : String × String) (i : Nat)
    (known : next.pending.lookup pair = some i) :
    app.pending.lookup pair = some i ∨
      ∃ session, next.sessions[i]? = some session ∧ session.transport = .wifi := by
  cases step_stepped token app next label taken with
  | wifiAccepted wire left uuid socket accepted pc ok =>
    by_cases same : pair = (accepted.sessionId,accepted.token)
    · rw [same,AList.lookup_insert] at known
      obtain rfl := Option.some.inj known
      exact .inr ⟨_,List.getElem?_concat_length,rfl⟩
    · rw [AList.lookup_insert_ne same] at known
      exact .inl known
  | handedOver recv socket k binding pc greeted found =>
    by_cases same : pair = (binding.sessionId,binding.token)
    · rw [same] at known
      rw [AList.lookup_erase] at known
      cases known
    · rw [AList.lookup_erase_ne same] at known
      exact .inl known
  | _ => exact .inl known

theorem step_separate (token : String) (app next : AppState) (label : Label) (separate : Separate app)
    (taken : app.step token label = some next) : Separate next := by
  have session := step_session token app next label separate.consistent taken
  refine ⟨step_consistent token app next label separate.consistent taken,?_,?_,?_⟩
  · intro pair i known
    rcases step_pending token app next label taken pair i known with before | accepted
    · obtain ⟨owner,held,wireless⟩ := separate.pending pair i before
      obtain ⟨after,kept,same⟩ := step_transport token app next label separate.consistent taken i owner held
      exact ⟨after,kept,same.trans wireless⟩
    · exact accepted
  · intro i after socket found given
    cases session i with
    | same kept => exact separate.delivered i after socket (kept.symm.trans found) given
    | created fresh absent kept task media =>
      obtain rfl := Option.some.inj (kept.symm.trans found)
      rw [media] at given
      cases given
    | moved before task held kept moves =>
      obtain rfl := Option.some.inj (kept.symm.trans found)
      exact separate.delivered i before socket held given
    | delivered before stream pair held known kept =>
      obtain rfl := Option.some.inj (kept.symm.trans found)
      obtain ⟨owner,here,wireless⟩ := separate.pending pair i known
      obtain rfl := Option.some.inj (here.symm.trans held)
      exact wireless
    | attached before stream held here delivered kept =>
      obtain rfl := Option.some.inj (kept.symm.trans found)
      cases given
    | greeted before stream held wired counted kept =>
      obtain rfl := Option.some.inj (kept.symm.trans found)
      cases given
  · intro i after found wired hand
    cases session i with
    | same kept => exact separate.unattached i after (kept.symm.trans found) wired hand
    | created fresh absent kept task media =>
      obtain rfl := Option.some.inj (kept.symm.trans found)
      exact media
    | moved before task held kept moves =>
      obtain rfl := Option.some.inj (kept.symm.trans found)
      exact separate.unattached i before held wired (moves.inHand app i label _ task hand)
    | delivered before stream pair held known kept =>
      obtain rfl := Option.some.inj (kept.symm.trans found)
      obtain ⟨owner,here,wireless⟩ := separate.pending pair i known
      obtain rfl := Option.some.inj (here.symm.trans held)
      exact absurd (wireless.symm.trans wired) (by decide)
    | attached before stream held here delivered kept =>
      obtain rfl := Option.some.inj (kept.symm.trans found)
      have wireless := separate.delivered i before stream held delivered
      exact absurd (wireless.symm.trans wired) (by decide)
    | greeted before stream held _ counted kept =>
      obtain rfl := Option.some.inj (kept.symm.trans found)
      cases hand

theorem start_separate (controlPort mediaPort : UInt16) : Separate (.start controlPort mediaPort) := by
  refine ⟨start_consistent controlPort mediaPort,?_,?_,?_⟩
  · intro pair i known
    cases known
  · intro i session socket held
    cases held
  · intro i session held
    cases held

end ClearCam.App

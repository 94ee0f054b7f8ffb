import ClearCam.Pairing.Agreement

/-! The trust requests of the phone. A controller has room for one prompt and one continuation, and a
request takes them over whoever holds them. -/
namespace ClearCam.Pairing
open ClearCam.Library

/-- The controller with the requests made of it, each by the desktop it is for and numbered by its
continuation, and the answers given to its prompts. -/
structure Trust where
  controller : TrustController
  requests : List String
  chosen : List (String × TrustOutcome)
  deriving DecidableEq

inductive TrustLabel where
  | request (desktopId : String)
  | respond (accept : Bool) (drawn : PairingKey)
  deriving DecidableEq

namespace Trust

def start : Trust := ⟨⟨none,none,[]⟩,[],[]⟩

def outcome (accept : Bool) (drawn : PairingKey) : TrustOutcome := if accept then .accepted drawn else .denied

def step (s : Trust) : TrustLabel → Option Trust
  | .request desktopId => some {s with
      controller := s.controller.requestTrust desktopId s.requests.length
      requests := s.requests ++ [desktopId]}
  | .respond accept drawn => some {s with
      controller := (s.controller.respond accept drawn).1
      chosen := s.chosen ++ (s.controller.pendingPrompt.map fun desktopId => (desktopId,outcome accept drawn)).toList}

def answered (s : Trust) : List Nat := s.controller.resumed.map fun entry => entry.1

/-- Every request is answered or is the one whose prompt is up. -/
def NoneLost (s : Trust) : Prop :=
  ∀ k < s.requests.length, k ∈ s.answered ∨
    s.controller.pendingContinuation = some k ∧ s.controller.pendingPrompt = s.requests[k]?

/-- A request finds no other one waiting. -/
def Unopposed (s : Trust) : TrustLabel → Prop
  | .request _ => s.controller.pendingContinuation = none
  | .respond _ _ => True

/-- The prompt is that of the continuation, which has not been resumed; no continuation is resumed
twice, and each was with the answer to the prompt for its own desktop. -/
structure Kept (s : Trust) : Prop where
  idle : s.controller.pendingContinuation = none → s.controller.pendingPrompt = none
  paired : ∀ k, s.controller.pendingContinuation = some k →
    k < s.requests.length ∧ s.controller.pendingPrompt = s.requests[k]? ∧ k ∉ s.answered
  once : s.answered.Nodup
  own : s.controller.resumed.map (fun entry => (s.requests[entry.1]?,entry.2)) =
    s.chosen.map fun answer => (some answer.1,answer.2)

theorem Kept.answered_lt (s : Trust) (kept : s.Kept) (k : Nat) (member : k ∈ s.answered) : k < s.requests.length := by
  obtain ⟨entry,resumed,rfl⟩ := List.mem_map.mp member
  have image := List.mem_map_of_mem (f := fun entry : Nat × TrustOutcome => (s.requests[entry.1]?,entry.2)) resumed
  rw [kept.own] at image
  obtain ⟨answer,_,same⟩ := List.mem_map.mp image
  exact (List.getElem?_eq_some_iff.mp (Prod.mk.inj same).1.symm).1

theorem start_kept : start.Kept := by
  refine ⟨fun _ => rfl,?_,List.nodup_nil,rfl⟩
  intro k pending
  cases pending

theorem step_request (s : Trust) (desktopId : String) (kept : s.Kept) :
    Kept ⟨s.controller.requestTrust desktopId s.requests.length,s.requests ++ [desktopId],s.chosen⟩ := by
  refine ⟨?_,?_,kept.once,?_⟩
  · intro idle
    cases idle
  · intro k pending
    obtain rfl := Option.some.inj pending
    refine ⟨by simp,by simp [TrustController.requestTrust],?_⟩
    intro member
    exact Nat.lt_irrefl _ (kept.answered_lt s _ member)
  · rw [← kept.own]
    apply List.map_congr_left
    intro entry resumed
    have inside := kept.answered_lt s entry.1 (List.mem_map_of_mem resumed)
    rw [List.getElem?_append_left inside]

/-- What an answer does where a prompt is up, and where none is. -/
theorem respond_cases (s : Trust) (accept : Bool) (drawn : PairingKey) (kept : s.Kept) :
    (s.controller.pendingContinuation = none ∧ s.step (.respond accept drawn) = some s) ∨
    ∃ k desktopId, s.controller.pendingContinuation = some k ∧ s.requests[k]? = some desktopId ∧
      s.step (.respond accept drawn) = some ⟨⟨none,none,s.controller.resumed ++ [(k,outcome accept drawn)]⟩,
        s.requests,s.chosen ++ [(desktopId,outcome accept drawn)]⟩ := by
  cases pending : s.controller.pendingContinuation with
  | none =>
    refine .inl ⟨rfl,?_⟩
    simp [step,TrustController.respond,pending,kept.idle pending]
  | some k =>
    obtain ⟨inside,prompt,_⟩ := kept.paired k pending
    have named := List.getElem?_eq_getElem inside
    rw [named] at prompt
    refine .inr ⟨k,s.requests[k],rfl,named,?_⟩
    cases accept with
    | true => simp [step,TrustController.respond,pending,prompt,outcome]
    | false => simp [step,TrustController.respond,pending,prompt,outcome]

theorem step_kept (s s' : Trust) (label : TrustLabel) (kept : s.Kept) (taken : s.step label = some s') :
    s'.Kept := by
  cases label with
  | request desktopId =>
    obtain rfl := Option.some.inj taken
    exact step_request s desktopId kept
  | respond accept drawn =>
    rcases respond_cases s accept drawn kept with ⟨_,same⟩ | ⟨k,desktopId,pending,named,same⟩
    · obtain rfl := Option.some.inj (same.symm.trans taken)
      exact kept
    · obtain rfl := Option.some.inj (same.symm.trans taken)
      obtain ⟨_,_,fresh⟩ := kept.paired k pending
      refine ⟨fun _ => rfl,fun k pending => (by cases pending),?_,?_⟩
      · change ((s.controller.resumed ++ [(k,outcome accept drawn)]).map fun entry => entry.1).Nodup
        rw [List.map_append,List.map_singleton,← List.concat_eq_append]
        exact List.Nodup.concat fresh kept.once
      · change (s.controller.resumed ++ [(k,outcome accept drawn)]).map (fun entry => (s.requests[entry.1]?,entry.2)) = _
        rw [List.map_append,kept.own,List.map_append,List.map_singleton,List.map_singleton,named]

theorem answered_respond (s : Trust) (k : Nat) (answer : TrustOutcome) (requests : List String)
    (chosen : List (String × TrustOutcome)) (prompt : Option String) (pending : Option Nat) :
    answered ⟨⟨prompt,pending,s.controller.resumed ++ [(k,answer)]⟩,requests,chosen⟩ = s.answered ++ [k] := by
  exact List.map_append

/-- A step loses no request just when it is not a request that finds another one waiting. -/
theorem step_noneLost (s s' : Trust) (label : TrustLabel) (kept : s.Kept) (noneLost : s.NoneLost)
    (taken : s.step label = some s') : s'.NoneLost ↔ s.Unopposed label := by
  cases label with
  | respond accept drawn =>
    refine iff_of_true ?_ trivial
    rcases respond_cases s accept drawn kept with ⟨_,same⟩ | ⟨k,desktopId,pending,named,same⟩
    · obtain rfl := Option.some.inj (same.symm.trans taken)
      exact noneLost
    · obtain rfl := Option.some.inj (same.symm.trans taken)
      intro other inside
      rw [answered_respond,List.mem_append,List.mem_singleton]
      rcases noneLost other inside with answered | ⟨waiting,_⟩
      · exact .inl (.inl answered)
      · exact .inl (.inr (Option.some.inj (waiting.symm.trans pending)))
  | request desktopId =>
    obtain rfl := Option.some.inj taken
    constructor
    · intro after
      by_contra waiting
      obtain ⟨k,pending⟩ := Option.ne_none_iff_exists'.mp waiting
      obtain ⟨inside,_,fresh⟩ := kept.paired k pending
      rcases after k (by simp; omega) with answered | ⟨now,_⟩
      · exact fresh answered
      · exact absurd (Option.some.inj now) (by omega)
    · intro unopposed k inside
      have bound : k ≤ s.requests.length := by simpa [Nat.lt_succ_iff] using inside
      rcases Nat.lt_or_eq_of_le bound with earlier | rfl
      · rcases noneLost k earlier with answered | ⟨waiting,_⟩
        · exact .inl answered
        · rw [unopposed] at waiting
          cases waiting
      · exact .inr ⟨rfl,by simp [TrustController.requestTrust]⟩

/-- No continuation is resumed twice, and each with the answer to its own prompt. A request is lost
just where it is overtaken while it waits: with none overtaken, whatever is unanswered is answered by
the next answer. -/
theorem trust_requests_answered_iff (labels : List TrustLabel) (s : Trust)
    (run : exec Trust.step start labels = some s) :
    ((∀ before after t, labels = before ++ after → exec Trust.step start before = some t → t.NoneLost) ↔
      Along Trust.step Unopposed start labels) ∧
    s.answered.Nodup ∧
    s.controller.resumed.map (fun entry => (s.requests[entry.1]?,entry.2)) =
      s.chosen.map (fun answer => (some answer.1,answer.2)) ∧
    (s.NoneLost → ∀ accept drawn s', s.step (.respond accept drawn) = some s' →
      ∀ k < s'.requests.length, k ∈ s'.answered) := by
  have kept : s.Kept := by
    refine exec_kept Trust.step Kept labels ?_ start s start_kept run
    intro before label after _ kept taken
    exact step_kept before after label kept taken
  refine ⟨?_,kept.once,kept.own,?_⟩
  · refine reached_iff_along Trust.step Kept NoneLost Unopposed ?_ ?_ labels start s start_kept ?_ run
    · intro before label after kept taken
      exact step_kept before after label kept taken
    · intro before label after kept noneLost taken
      exact step_noneLost before after label kept noneLost taken
    · intro k inside
      cases inside
  · intro noneLost accept drawn s' taken k inside
    rcases (step_noneLost s s' _ kept noneLost taken).mpr trivial k inside with answered | ⟨waiting,_⟩
    · exact answered
    · rcases respond_cases s accept drawn kept with ⟨idle,same⟩ | ⟨_,_,_,_,same⟩
      · obtain rfl := Option.some.inj (same.symm.trans taken)
        rw [idle] at waiting
        cases waiting
      · obtain rfl := Option.some.inj (same.symm.trans taken)
        cases waiting

def inTurn : List TrustLabel := [.request "a",.respond true ⟨[1]⟩,.request "b",.respond false ⟨[2]⟩]

def allAnswered : Trust :=
  ⟨⟨none,none,[(0,.accepted ⟨[1]⟩),(1,.denied)]⟩,["a","b"],[("a",.accepted ⟨[1]⟩),("b",.denied)]⟩

theorem inTurn_answered : exec Trust.step start inTurn = some allAnswered ∧ allAnswered.NoneLost := by
  have run : exec Trust.step start inTurn = some allAnswered := rfl
  have unopposed : Along Trust.step Unopposed start inTurn := by
    simp [inTurn,Along,Unopposed,Trust.step,start,TrustController.requestTrust,TrustController.respond]
  exact ⟨run,(trust_requests_answered_iff inTurn allAnswered run).1.mpr unopposed inTurn [] allAnswered
    (List.append_nil _).symm run⟩

/-- Two desktops ask at once; the answer goes to the second, and the first is never answered. -/
def overtaken : Trust := ⟨⟨none,none,[(1,.accepted ⟨[1]⟩)]⟩,["a","b"],[("b",.accepted ⟨[1]⟩)]⟩

theorem overtaken_lost :
    exec Trust.step start [.request "a",.request "b",.respond true ⟨[1]⟩] = some overtaken ∧
    0 ∉ overtaken.answered ∧ ¬overtaken.NoneLost ∧
    ∀ accept drawn, overtaken.step (.respond accept drawn) = some overtaken := by
  refine ⟨rfl,by decide,?_,fun _ _ => rfl⟩
  intro noneLost
  rcases noneLost 0 (by decide) with answered | ⟨waiting,_⟩
  · exact absurd answered (by decide)
  · cases waiting

end Trust
end ClearCam.Pairing

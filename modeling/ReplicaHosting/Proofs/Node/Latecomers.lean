import ReplicaHosting.Proofs.Node.Outcome

/-! Candidates that come late. A request cannot be taken back, so its callback may bring candidates
long after a stop. The node does not tell them from others: it turns them away because it is
closed, and it is closed until a start is through. -/
namespace ReplicaHosting.Node

def outcomes (n : Node) : Action → List (Option Failure)
  | .start reply => if n.live then [(n.start reply).1] else []
  | _ => []

def outcomesBy (n : Node) : List Action → List (Option Failure)
  | [] => []
  | a :: later => n.outcomes a ++ (n.step a).outcomesBy later

/-- Nothing gets into the node: it is at rest, or nobody holds it any more. -/
def AdmitsNobody (n : Node) : Prop := AtRest n ∨ n.live = false

variable {n m : Node}

theorem AdmitsNobody.addsNotices_onCandidate (h : AdmitsNobody n) (sameSession : SameSession n m)
    (d : Descriptor) : AddsNotices m (m.onCandidate d) := by
  rcases h with rest | gone
  · exact Node.addsNotices_onCandidate (sameSession.stopping.trans rest.closed) d
  · have same : m.onCandidate d = m := by simp [onCandidate, sameSession.live, gone]
    rw [same]
    exact addsNotices_self m

/-- A start that fails puts a node to rest again, or has never disturbed it. -/
theorem AtRest.start_of_failed (rest : AtRest n) (orderly : Orderly n) {reply : StartReply}
    (failed : (n.start reply).1 ≠ none) : AtRest (n.start reply).2 := by
  by_cases unobtained : n.obtained (.start reply) = []
  · exact (staysAtRest_start orderly reply unobtained rest).1
  -- a start that has got its handle and fails all the same takes everything back
  have h := start_case orderly reply
  generalize n.start reply = x at h failed
  cases h with
  | unbound free => simp [obtained, free] at unobtained
  | refused b e bound refused => simp [obtained, bound, refused] at unobtained
  | through b active m bound subscribed swept accepted => exact absurd rfl failed
  | rolledBack b active m k e bound subscribed swept refused halted => exact halted.atRest

theorem AdmitsNobody.step (h : AdmitsNobody n) (orderly : Orderly n) {a : Action}
    (failed : none ∉ n.outcomes a) : AdmitsNobody (n.step a) := by
  rcases h with rest | gone
  · have stays (kept : a ≠ .abandon) (unobtained : n.obtained a = []) : AdmitsNobody (n.step a) :=
      .inl (staysAtRest_step orderly kept unobtained rest).1
    cases a with
    | start reply =>
      cases live : n.live with
      | false =>
        rw [Node.step, live]
        exact .inr live
      | true =>
        rw [Node.step, live, if_pos rfl]
        simp only [outcomes, live, if_true, List.mem_singleton] at failed
        exact .inl (rest.start_of_failed orderly (Ne.symm failed))
    | abandon => exact .inr rfl
    | _ => exact stays (by simp) rfl
  · right
    by_contra live
    have held := live_of_step (by simpa using live)
    cases gone.symm.trans held

theorem AdmitsNobody.run (h : AdmitsNobody n) (orderly : Orderly n) {later : List Action}
    (failed : none ∉ n.outcomesBy later) : AdmitsNobody (n.run later) := by
  induction later generalizing n with
  | nil => exact h
  | cons a later ih =>
    rw [outcomesBy, List.mem_append, not_or] at failed
    exact ih (h.step orderly failed.1) (orderly.step a) failed.2

/-- A candidate that comes after a stop, through a callback that was handed out before, is not let
in, whatever has been attached since and whatever starts have failed, as long as no start has been
through. That holds in the midst of a further call as well, until the call opens the node. -/
theorem latecomers_refused (actions : List Action) :
    let n := run {} actions
    n.live = true → ∀ reply later, none ∉ (n.stop reply).outcomesBy later →
      ∀ m, SameSession ((n.stop reply).run later) m →
        ∀ callback < n.discoveryCallbacks, ∀ d,
          (m.step (.candidate callback d)).registry = m.registry ∧
            (m.step (.candidate callback d)).replicas = m.replicas := by
  intro n live reply later failed m sameSession callback given d
  have orderly : Orderly n := orderly_run actions
  have halted : Halted n (n.stop reply) := by
    rw [stop_eq]
    exact halted_stopInOrder orderly.unique reply (List.Perm.refl _)
  have admitsNobody := AdmitsNobody.run (.inl halted.atRest) (halted.orderly orderly) failed
  obtain ⟨xs, noted⟩ := admitsNobody.addsNotices_onCandidate sameSession d
  rw [step]
  split
  · rw [noted]
    exact ⟨rfl, rfl⟩
  · exact ⟨rfl, rfl⟩

/-- Another platform is attached, and two starts fail on it, one of them after a newcomer. -/
def failedStarts : List Action :=
  [.attach 1 1 {},
   .start { subscribe := { outcome := .error (.platform 31 "adapter not enabled") } },
   .start failingStart]

theorem latecomers_refused_failed_starts :
    let m := ((run {} session).stop {}).run failedStarts
    let d : Descriptor := { address := "n", uri := "/c/hosting" }
    (m.step (.candidate 0 d)).registry = m.registry ∧
      ∀ b reply, ((m.subscribing b reply).step (.candidate 0 d)).registry =
        (m.subscribing b reply).registry := by
  intro m d
  have live : (run {} session).live = true := by decide +kernel
  have failed : none ∉ ((run {} session).stop {}).outcomesBy failedStarts := by decide +kernel
  have given : 0 < (run {} session).discoveryCallbacks := by decide +kernel
  have refused := latecomers_refused session live {} failedStarts failed
  exact ⟨(refused m (sameSession_self m) 0 given d).1,
    fun b reply => (refused _ (sameSession_subscribing b reply m) 0 given d).1⟩

/-- Once a start has been through, on whatever platform, a late candidate is let in like any
other. -/
theorem latecomer_admitted :
    ¬ ∀ actions, (run {} actions).live = true → ∀ reply later,
      let n := run {} actions
      let m := (n.stop reply).run later
      ∀ callback < n.discoveryCallbacks, ∀ d,
        (m.step (.candidate callback d)).registry = m.registry := by
  intro refused
  have same := refused session (by decide +kernel) {}
    [.attach 1 1 {}, .start { subscribe := { outcome := .ok true } }] 0 (by decide +kernel)
    { address := "n", uri := "/c/hosting" }
  exact absurd same (by decide +kernel)

end ReplicaHosting.Node

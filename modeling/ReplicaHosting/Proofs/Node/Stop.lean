import ReplicaHosting.Proofs.Node.Handles
import ReplicaHosting.Proofs.Node.Callbacks

/-! A node that has been stopped is at rest: closed, empty, without a handle. It comes out of that
only by a start that obtains a handle; until then whatever comes in is taken notice of and no more,
and no discovery service is asked for anything. A start that fails in the end puts the node to rest
as well, so a closed node is always at rest. -/
namespace ReplicaHosting.Node

structure AtRest (n : Node) : Prop where
  closed : n.registry.stopping = true
  empty : n.registry.entries = []
  unheld : n.held = none

theorem Halted.atRest {n m : Node} (h : Halted n m) : AtRest m := by
  refine ⟨?_, ?_, h.held⟩
  · rw [h.registry]
    rfl
  · rw [h.registry]
    rfl

theorem ReplicasActed.atRest {n m : Node} (h : ReplicasActed n m) (rest : AtRest n) : AtRest m := by
  refine ⟨h.registry.stopping.trans rest.closed, ?_, h.held.trans rest.unheld⟩
  exact List.sublist_nil.mp (rest.empty ▸ h.registry.entries)

/-- A node at rest that goes on resting and has asked nobody for anything. -/
def StaysAtRest (n m : Node) : Prop := AtRest n → AtRest m ∧ m.asked = n.asked

theorem staysAtRest_self (n : Node) : StaysAtRest n n := fun rest => ⟨rest, rfl⟩

theorem ReplicasActed.staysAtRest {n m : Node} (h : ReplicasActed n m) : StaysAtRest n m :=
  fun rest => ⟨h.atRest rest, h.asked⟩

theorem AddsNotices.staysAtRest {n m : Node} (h : AddsNotices n m) : StaysAtRest n m := by
  obtain ⟨xs, rfl⟩ := h
  exact fun rest => ⟨⟨rest.closed, rest.empty, rest.unheld⟩, rfl⟩

theorem staysAtRest_start {n : Node} (orderly : Orderly n) (reply : StartReply)
    (unobtained : n.obtained (.start reply) = []) : StaysAtRest n (n.start reply).2 := by
  intro rest
  have h := start_case orderly reply
  generalize n.start reply = x at h
  cases h with
  | unbound free => exact ⟨rest, rfl⟩
  | refused b e bound failed =>
    have calling : AtRest (n.call (asking b)) := ⟨rest.closed, rest.empty, rest.unheld⟩
    have addsNotices := (addsNotices_onBeacons calling.closed reply.subscribe.beacons).trans
      (addsNotices_say _ (.subscriptionFailed e))
    obtain ⟨rest', asked⟩ := addsNotices.staysAtRest calling
    refine ⟨rest', asked.trans ?_⟩
    rw [asked_call]
    exact List.append_nil _
  | through b active m bound subscribed swept accepted =>
    simp [obtained, bound, subscribed] at unobtained
  | rolledBack b active m k e bound subscribed swept failed halted =>
    simp [obtained, bound, subscribed] at unobtained

theorem staysAtRest_step {n : Node} (orderly : Orderly n) {a : Action} (kept : a ≠ .abandon)
    (unobtained : n.obtained a = []) : StaysAtRest n (n.step a) := by
  intro rest
  cases a with
  | attach platform runtime config =>
    rcases n.step_attach platform runtime config with same | ⟨-, -, b, x, bound⟩
    · rw [same]
      exact ⟨rest, rfl⟩
    · rw [bound]
      exact ⟨⟨rest.closed, rest.empty, rest.unheld⟩, rfl⟩
  | start reply =>
    simp only [step]
    split
    · exact staysAtRest_start orderly reply unobtained rest
    · exact ⟨rest, rfl⟩
  | stop reply =>
    simp only [step]
    split
    · rw [stop_eq]
      have halted := halted_stopInOrder orderly.unique reply (List.Perm.refl _)
      exact ⟨halted.atRest, halted.asked⟩
    · exact ⟨rest, rfl⟩
  | presence callback x =>
    simp only [step]
    split
    · exact (addsNotices_onPresence rest.closed x).staysAtRest rest
    · exact ⟨rest, rfl⟩
  | candidate callback d =>
    simp only [step]
    split
    · exact (addsNotices_onCandidate rest.closed d).staysAtRest rest
    · exact ⟨rest, rfl⟩
  | handleSays active =>
    refine ⟨⟨rest.closed, rest.empty, ?_⟩, rfl⟩
    simp only [step, rest.unheld, Option.map_none]
  | turn id pick reply =>
      exact (n.replicasActed_perform id (Replica.turn pick reply)).staysAtRest rest
  | answer id x => exact (n.replicasActed_perform id fun r => (r.answer x, [])).staysAtRest rest
  | push id e => exact (n.replicasActed_perform id fun r => (r.push e, [])).staysAtRest rest
  | endStream id => exact (n.replicasActed_perform id fun r => (r.endStream, [])).staysAtRest rest
  | shutRuntime runtime =>
    exact (n.replicasActed_shutRuntime runtime).staysAtRest ⟨rest.closed, rest.empty, rest.unheld⟩
  | activate id platform runtime =>
      exact (n.replicasActed_activate id platform runtime).staysAtRest rest
  | teardown id => exact (n.replicasActed_perform id fun r => r.teardown.2).staysAtRest rest
  | abandon => exact absurd rfl kept

theorem staysAtRest_run {n : Node} (orderly : Orderly n) {later : List Action}
    (kept : .abandon ∉ later) (unobtained : n.obtainedBy later = []) :
    StaysAtRest n (n.run later) := by
  induction later generalizing n with
  | nil => exact staysAtRest_self n
  | cons a later ih =>
    obtain ⟨first, others⟩ := List.append_eq_nil_iff.mp unobtained
    obtain ⟨kept_first, kept_others⟩ : a ≠ .abandon ∧ .abandon ∉ later :=
      ⟨fun same => kept (same ▸ List.mem_cons_self), fun mem => kept (List.mem_cons_of_mem a mem)⟩
    intro rest
    obtain ⟨rest', asked⟩ := staysAtRest_step orderly kept_first first rest
    obtain ⟨rest'', asked'⟩ := ih (orderly.step a) kept_others others rest'
    exact ⟨rest'', asked'.trans asked⟩

theorem start_opens_or_rests {n : Node} (orderly : Orderly n) (reply : StartReply) :
    n.obtained (.start reply) = [] ∧
        (n.start reply).2.registry.stopping = n.registry.stopping ∨
      (n.start reply).2.registry.stopping = false ∨ AtRest (n.start reply).2 := by
  have h := start_case orderly reply
  generalize n.start reply = x at h
  cases h with
  | unbound free => exact .inl ⟨by simp [obtained, free], rfl⟩
  | refused b e bound failed =>
    exact .inl ⟨by simp [obtained, bound, failed],
      (sameSession_subscribing b reply.subscribe n).stopping⟩
  | through b active m bound subscribed swept accepted =>
      exact .inr (.inl swept.sameSession.stopping)
  | rolledBack b active m k e bound subscribed swept failed halted =>
    exact .inr (.inr halted.atRest)

theorem atRest_of_closed_step {n : Node} (orderly : Orderly n)
    (h : n.registry.stopping = true → AtRest n) (a : Action)
    (closed : (n.step a).registry.stopping = true) : AtRest (n.step a) := by
  -- a step that is not the first to close the node finds it at rest
  have go_on (kept : a ≠ .abandon) (unobtained : n.obtained a = [])
      (same : (n.step a).registry.stopping = n.registry.stopping) : AtRest (n.step a) :=
    (staysAtRest_step orderly kept unobtained (h (same ▸ closed))).1
  cases a with
  | attach platform runtime config =>
    apply go_on (by simp) rfl
    rcases n.step_attach platform runtime config with same | ⟨-, -, b, x, bound⟩
    · rw [same]
    · rw [bound]
      rfl
  | start reply =>
    cases live : n.live with
    | true =>
      have stepped : n.step (.start reply) = (n.start reply).2 := if_pos live
      rw [stepped] at closed go_on ⊢
      rcases start_opens_or_rests orderly reply with ⟨unobtained, same⟩ | opened | rest
      · exact go_on (by simp) unobtained same
      · rw [opened] at closed
        cases closed
      · exact rest
    | false =>
      have stepped : n.step (.start reply) = n := if_neg (by simp [live])
      rw [stepped] at closed ⊢
      exact h closed
  | stop reply =>
    simp only [step] at closed ⊢
    split at closed
    · rename_i live
      rw [if_pos live, stop_eq]
      exact (halted_stopInOrder orderly.unique reply (List.Perm.refl _)).atRest
    · rename_i unheld
      rw [if_neg unheld]
      exact h closed
  | handleSays active => exact go_on (by simp) rfl rfl
  | shutRuntime runtime =>
      exact go_on (by simp) rfl (n.replicasActed_shutRuntime runtime).registry.stopping
  | abandon => cases closed
  | _ => exact go_on (by simp) rfl (n.sameSession_of_minor rfl).stopping

theorem atRest_of_closed (actions : List Action)
    (closed : (run {} actions).registry.stopping = true) : AtRest (run {} actions) := by
  have all : Orderly (run {} actions) ∧
      ((run {} actions).registry.stopping = true → AtRest (run {} actions)) := by
    apply run_keeps (P := fun n => Orderly n ∧ (n.registry.stopping = true → AtRest n))
    · intro n a h
      exact ⟨h.1.step a, atRest_of_closed_step h.1 h.2 a⟩
    · exact ⟨orderly_initial, nofun⟩
  exact all.2 closed

/-- A stop closes the node, lets its handle go and silences for good whatever was hosted, in
whatever order that is torn down, and whatever comes of the handle. From then on the node stays
closed, empty and without a handle and asks nobody for anything, as long as it obtains no new
handle. So a closed node is never found in any other state. -/
theorem stopped_for_good (actions : List Action) :
    let n := run {} actions
    (n.registry.stopping = true → AtRest n) ∧
    (n.live = true → ∀ reply order, order.Perm n.registry.ids →
      let m := n.stopInOrder order reply
      (∃ xs, m = { n.stop reply with notices := xs }) ∧ AtRest m ∧
      (∀ id ∈ n.registry.ids, ∀ later, Silent (m.run later) id) ∧
      ∀ later, .abandon ∉ later → m.obtainedBy later = [] →
        AtRest (m.run later) ∧ (m.run later).asked = n.asked) := by
  intro n
  obtain ⟨orderly, hostedUncalled⟩ : Orderly n ∧ (n.live = true → HostedUncalled n) :=
    hostedUncalled_run actions
  refine ⟨atRest_of_closed actions, ?_⟩
  intro live reply order all m
  have halted : Halted n m := halted_stopInOrder orderly.unique reply all
  have orderly' : Orderly m := halted.orderly orderly
  refine ⟨stopInOrder_eq orderly.unique reply all, halted.atRest, ?_, ?_⟩
  · intro id hosted later
    exact ((hostedUncalled live).silent halted hosted).run orderly' later
  · intro later kept unobtained
    obtain ⟨rest, asked⟩ := staysAtRest_run orderly' kept unobtained halted.atRest
    exact ⟨rest, asked.trans halted.asked⟩

/-- Two replicas are hosted, and the first one gets as far as its stream. -/
def hostingSession : List Action :=
  [.attach 0 0 {},
   .start { subscribe := { outcome := .ok true }
            sweep := { candidates := [{ address := "n", uri := "/a/hosting" },
              { address := "n", uri := "/b/hosting" }] } },
   .turn ⟨1⟩ .origin (some .opens), .turn ⟨1⟩ .origin none]

/-- All that may come late, with two starts that get no handle. -/
def lateEvents : List Action :=
  [.push ⟨1⟩ (.fault "lost"), .turn ⟨1⟩ .origin none, .turn ⟨2⟩ .origin (some .panics),
   .candidate 0 { address := "n", uri := "/c/hosting" },
   .presence 0 { event := { result := .ok, address := "n" } },
   .start { subscribe := { outcome := .error (.invalidArgument "down") } }, .attach 1 1 {},
   .start { subscribe := { beacons := [{ event := { result := .ok, address := "n" } }]
                           outcome := .error (.invalidArgument "down") } },
   .stop {}]

theorem stopped_for_good_late_events :
    let n := run {} hostingSession
    let m := n.stopInOrder [⟨2⟩, ⟨1⟩] { refusal := some (.invalidArgument "busy") }
    n.registry.ids = [⟨1⟩, ⟨2⟩] ∧ m.told = [0] ∧ Silent (m.run lateEvents) ⟨1⟩ ∧
      Silent (m.run lateEvents) ⟨2⟩ ∧ AtRest (m.run lateEvents) ∧
      (m.run lateEvents).asked = n.asked ∧
      n.asked.length = 1 := by
  intro n m
  have live : n.live = true := by decide +kernel
  have ids : n.registry.ids = [⟨1⟩, ⟨2⟩] := by decide +kernel
  have told : m.told = [0] := by decide +kernel
  have asked : n.asked.length = 1 := by decide +kernel
  have kept : .abandon ∉ lateEvents := by simp [lateEvents]
  have unobtained : m.obtainedBy lateEvents = [] := by decide +kernel
  have backwards : List.Perm [⟨2⟩, ⟨1⟩] n.registry.ids := by
    rw [ids]
    exact List.Perm.swap _ _ _
  obtain ⟨-, -, silent, rests⟩ := (stopped_for_good hostingSession).2 live
    { refusal := some (.invalidArgument "busy") } [⟨2⟩, ⟨1⟩] backwards
  obtain ⟨rest, same⟩ := rests lateEvents kept unobtained
  exact ⟨ids, told, silent ⟨1⟩ (by rw [ids]; decide) lateEvents,
    silent ⟨2⟩ (by rw [ids]; decide) lateEvents, rest, same, asked⟩

end ReplicaHosting.Node

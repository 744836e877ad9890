import ReplicaHosting.Proofs.Replica.Stopping
import ReplicaHosting.Proofs.Node.Alignment
import ReplicaHosting.Proofs.Node.Handles
import ReplicaHosting.Proofs.Node.Watching

/-! What becomes of a node that the last one lets go. Its handle goes as it is, subscribed or not,
and nobody tells it to unsubscribe, as a stop would have done. Its replicas are kept by their own
tasks, together with the senders that would stop them, so no task is told anything. They go on as if
the node were still held, with the streams they have opened, and end when their origins or their
runtimes do. -/
namespace ReplicaHosting

/-- Whether an action is a matter of one replica and its origin, or of a runtime. -/
def Action.isOwn : Action → Bool
  | .turn _ _ _ | .answer _ _ | .push _ _ | .endStream _ | .shutRuntime _ => true
  | _ => false

theorem Action.isRegular_of_isOwn {a : Action} (own : a.isOwn = true) : a.isRegular = true := by
  cases a with
  | activate id platform runtime => cases own
  | teardown id => cases own
  | abandon => cases own
  | _ => rfl

namespace Node

variable {n m k : Node}

/-- Nobody holds the node any more, and no handle has been dealt with since. -/
structure AbandonedSince (n k : Node) : Prop where
  live : k.live = false
  held : k.held = none
  told : k.told = n.told
  letGo : k.letGo = n.letGo

theorem abandonedSince_abandon (n : Node) : AbandonedSince n (n.step .abandon) :=
  ⟨rfl, rfl, rfl, rfl⟩

theorem AbandonedSince.step (h : AbandonedSince n k) (a : Action) :
    AbandonedSince n (k.step a) := by
  cases minor : a.isMinor with
  | true =>
    have sameSession := k.sameSession_of_minor minor
    exact ⟨sameSession.live.trans h.live, sameSession.held.trans h.held,
      sameSession.told.trans h.told, sameSession.letGo.trans h.letGo⟩
  | false =>
    cases a with
    | attach platform runtime config =>
      simp only [Node.step, h.live, Bool.false_eq_true, if_false]
      exact h
    | start reply =>
      simp only [Node.step, h.live, Bool.false_eq_true, if_false]
      exact h
    | stop reply =>
      simp only [Node.step, h.live, Bool.false_eq_true, if_false]
      exact h
    | handleSays active =>
      refine ⟨h.live, ?_, h.told, h.letGo⟩
      simp only [Node.step, h.held, Option.map_none]
    | shutRuntime runtime =>
      have acted := k.replicasActed_shutRuntime runtime
      exact ⟨acted.live.trans h.live, acted.held.trans h.held, acted.told.trans h.told,
        acted.letGo.trans h.letGo⟩
    | abandon => exact ⟨rfl, rfl, h.told, h.letGo⟩
    | _ => cases minor

theorem AbandonedSince.run (h : AbandonedSince n k) (later : List Action) :
    AbandonedSince n (k.run later) :=
  run_keeps (P := AbandonedSince n) (fun _ a h => h.step a) h later

/-- Two nodes have the same replicas, and these the same past with their origins. -/
structure SameReplicas (m k : Node) : Prop where
  replicas : k.replicas = m.replicas
  shut : k.shut = m.shut
  streams : k.streams = m.streams

theorem SameReplicas.perform (h : SameReplicas m k) (id : ReplicaId)
    (a : Replica → Replica × List Effect) : SameReplicas (m.perform id a) (k.perform id a) := by
  have same : k.replica? id = m.replica? id := by simp only [replica?, h.replicas]
  cases found : m.replica? id with
  | none =>
    rw [perform_of_absent found, perform_of_absent (same.trans found)]
    exact h
  | some r =>
    have applied := appliesEffects_perform found a
    have applied' := appliesEffects_perform (same.trans found) a
    constructor
    · rw [applied.replicas, applied'.replicas]
      simp only [put, h.replicas]
    · exact applied'.shut.trans (h.shut.trans applied.shut.symm)
    · rw [(logs_perform found a).streams, (logs_perform (same.trans found) a).streams, h.streams]

theorem SameReplicas.dropTasks (h : SameReplicas m k) (ids : List ReplicaId) :
    SameReplicas (ids.foldl (fun n id => n.perform id Replica.dropTask) m)
      (ids.foldl (fun n id => n.perform id Replica.dropTask) k) := by
  induction ids generalizing m k with
  | nil => exact h
  | cons id ids ih => exact ih (h.perform id Replica.dropTask)

theorem SameReplicas.step (h : SameReplicas m k) {a : Action} (own : a.isOwn = true) :
    SameReplicas (m.step a) (k.step a) := by
  cases a with
  | turn id pick reply => exact h.perform id (Replica.turn pick reply)
  | answer id x => exact h.perform id fun r => (r.answer x, [])
  | push id e => exact h.perform id fun r => (r.push e, [])
  | endStream id => exact h.perform id fun r => (r.endStream, [])
  | shutRuntime runtime =>
    have off :
        SameReplicas { m with shut := m.shut ++ [runtime] }
          { k with shut := k.shut ++ [runtime] } :=
      ⟨h.replicas, by rw [h.shut], h.streams⟩
    -- the tasks that are dropped are found among the replicas, which are the same
    have ids :
        (k.replicas.filter fun r => r.task.any fun t => t.runtime == runtime).map Replica.id =
        (m.replicas.filter fun r => r.task.any fun t => t.runtime == runtime).map Replica.id := by
      rw [h.replicas]
    simp only [Node.step, shutRuntime]
    rw [ids]
    exact off.dropTasks _
  | _ => cases own

theorem SameReplicas.run (h : SameReplicas m k) {later : List Action}
    (own : ∀ a ∈ later, a.isOwn = true) : SameReplicas (m.run later) (k.run later) := by
  induction later generalizing m k with
  | nil => exact h
  | cons a later ih =>
    apply ih (h.step (own a List.mem_cons_self))
    intro b mem
    exact own b (List.mem_cons_of_mem a mem)

theorem replicas_turn_of_idle (orderly : Orderly n) (idle : n.IsIdle) (id : ReplicaId)
    (pick : Branch) (reply : Option WatchReply) : (n.turn id pick reply).replicas = n.replicas := by
  rw [Node.turn, replicas_perform orderly.unique id fun r => (Replica.passes_turn pick reply r).id]
  have still : ∀ r ∈ n.replicas, (if r.id = id then (r.turn pick reply).1 else r) = r := by
    intro r mem
    rw [Replica.turn_of_idle (idle r mem), ite_self]
  rw [List.map_congr_left still, List.map_id']

theorem replicas_run_of_idle (orderly : Orderly n) (idle : n.IsIdle) {later : List Action}
    (turns : ∀ a ∈ later, ∃ id pick reply, a = .turn id pick reply) :
    (n.run later).replicas = n.replicas := by
  induction later generalizing n with
  | nil => rfl
  | cons a later ih =>
    obtain ⟨id, pick, reply, rfl⟩ := turns a List.mem_cons_self
    have same := replicas_turn_of_idle orderly idle id pick reply
    have idle' : (n.turn id pick reply).IsIdle := by
      intro r mem
      rw [same] at mem
      exact idle r mem
    have rest := ih (orderly.step (.turn id pick reply)) idle'
      fun b mem => turns b (List.mem_cons_of_mem _ mem)
    exact rest.trans same

/-- A node has been left in order: a handle that says it is subscribed has been told to unsubscribe,
and whoever was hosted has ended, with the stream closed. -/
structure LeftTidy (n k : Node) : Prop where
  told : ∀ h, n.held = some h → h.active = true → h.number ∈ k.told
  ended : ∀ r ∈ k.replicas, r.id ∈ n.registry.ids → r.lifecycle = .terminated
  closed : ∀ id ∈ n.registry.ids, id ∉ k.openStreams

theorem IsIdle.without_stream (idle : k.IsIdle) (staffed : ∀ r ∈ k.replicas, r.Staffed)
    {id : ReplicaId}
    (ended : ∀ r ∈ k.replicas, r.id = id → r.lifecycle = .terminated) : id ∉ k.openStreams := by
  intro among
  obtain ⟨r, listed, rfl⟩ := List.mem_map.mp among
  obtain ⟨mem, holds⟩ := List.mem_filter.mp listed
  have gone := (staffed r mem).task_of_idle (ended r mem rfl) (idle r mem)
  simp [Replica.holdsStream, gone] at holds

theorem leftTidy_iff (sameReplicas : SameReplicas m k) (idle : k.IsIdle)
    (staffed : ∀ r ∈ m.replicas, r.Staffed)
    (untold : ∀ h, n.held = some h → h.number ∉ k.told) :
    LeftTidy n k ↔ n.isSubscribed = false ∧
      ∀ r ∈ m.replicas, r.id ∈ n.registry.ids → r.lifecycle = .terminated := by
  rw [← sameReplicas.replicas] at staffed ⊢
  constructor
  · intro tidy
    refine ⟨?_, tidy.ended⟩
    cases held : n.held with
    | none => simp [isSubscribed, held]
    | some h =>
      by_contra subscribed
      have active : h.active = true := by simpa [isSubscribed, held] using subscribed
      exact untold h held (tidy.told h held active)
  · rintro ⟨unsubscribed, ended⟩
    refine ⟨?_, ended, ?_⟩
    · intro h held active
      simp [isSubscribed, held, active] at unsubscribed
    · intro id hosted
      apply idle.without_stream staffed
      rintro r mem rfl
      exact ended r mem hosted

/-- When the last one lets a node go, nothing is done about its handle, then or later, and the
replicas go on as they would have gone on with the node still held: whoever would still be hosted is
active, and all streams are as they would be. So the node has been left in order only if there was
nothing to put in order. In particular, as long as the origins are silent no replica ends at all. -/
theorem abandoned_as_is (actions : List Action) (live : (run {} actions).live = true) :
    let n := run {} actions
    (∀ later, let k := (n.step .abandon).run later
      k.held = none ∧ k.told = n.told ∧ k.letGo = n.letGo ∧
      ∀ h, n.held = some h → h.number ∉ k.told) ∧
    (∀ later, (∀ a ∈ later, a.isOwn = true) →
      let k := (n.step .abandon).run later
      let m := n.run later
      k.replicas = m.replicas ∧ k.streams = m.streams ∧ k.openStreams = m.openStreams ∧
      ((∀ a ∈ actions, a.isRegular = true) →
        ∀ r ∈ k.replicas, r.lifecycle = .active ↔ r.id ∈ m.registry.ids) ∧
      (k.IsIdle → (LeftTidy n k ↔ n.isSubscribed = false ∧
        ∀ r ∈ m.replicas, r.id ∈ n.registry.ids → r.lifecycle = .terminated))) ∧
    (n.IsIdle → ∀ later, (∀ a ∈ later, ∃ id pick reply, a = .turn id pick reply) →
      ((n.step .abandon).run later).replicas = n.replicas) := by
  intro n
  have orderly : Orderly n := orderly_run actions
  have conserved : Conserved n := conserved_run actions live
  have abandonedSince (later : List Action) : AbandonedSince n ((n.step .abandon).run later) :=
    (abandonedSince_abandon n).run later
  have untold (later : List Action) :
      ∀ h, n.held = some h → h.number ∉ ((n.step .abandon).run later).told := by
    intro h held
    rw [(abandonedSince later).told]
    exact conserved.held_untold held
  refine ⟨?_, ?_, ?_⟩
  · intro later
    exact ⟨(abandonedSince later).held, (abandonedSince later).told, (abandonedSince later).letGo,
      untold later⟩
  · intro later own k m
    have start : SameReplicas n (n.step .abandon) := ⟨rfl, rfl, rfl⟩
    have sameReplicas : SameReplicas m k := start.run own
    have reached : m = run {} (actions ++ later) := List.foldl_append.symm
    have staffed : ∀ r ∈ m.replicas, r.Staffed := by
      intro r mem
      rw [reached] at mem
      exact ((accountsAll_run (actions ++ later)).2.accounts r mem).staffed
    refine ⟨sameReplicas.replicas, sameReplicas.streams,
      by rw [openStreams, sameReplicas.replicas]; rfl, ?_,
      fun idle => leftTidy_iff sameReplicas idle staffed (untold later)⟩
    intro regular r mem
    have all : ∀ a ∈ actions ++ later, a.isRegular = true := by
      intro a among
      rcases List.mem_append.mp among with before | after
      · exact regular a before
      · exact Action.isRegular_of_isOwn (own a after)
    obtain ⟨orderly', aligned⟩ : Orderly m ∧ Aligned m := reached ▸ aligned_run all
    rw [sameReplicas.replicas] at mem
    exact aligned.active_iff orderly' mem
  · intro idle later turns
    exact replicas_run_of_idle (n := n.step .abandon) (orderly.step .abandon) idle turns

def listeningSession : List Action :=
  [.attach 0 0 {}, .start { subscribe := { outcome := .ok true } },
   .candidate 0 { address := "n", uri := "/a/hosting" }, .turn ⟨1⟩ .origin (some .opens),
   .turn ⟨1⟩ .origin none]

theorem abandoned_as_is_listening :
    let n := run {} listeningSession
    let k := (n.step .abandon).run [.turn ⟨1⟩ .stop none]
    n.live = true ∧ n.held = some ⟨0, 0, true⟩ ∧ n.registry.ids = [⟨1⟩] ∧ n.IsIdle ∧
    0 ∉ k.told ∧ k.openStreams = [⟨1⟩] ∧ (∀ r ∈ k.replicas, r.lifecycle = .active) ∧
    ¬ LeftTidy n k := by
  intro n k
  have live : n.live = true := by decide +kernel
  have held : n.held = some ⟨0, 0, true⟩ := by decide +kernel
  have hosted : n.registry.ids = [⟨1⟩] := by decide +kernel
  have idle : n.IsIdle := by decide +kernel
  have regular : ∀ a ∈ listeningSession, a.isRegular = true := by decide
  obtain ⟨handle, replicas, still⟩ := abandoned_as_is listeningSession live
  obtain ⟨-, -, -, untold⟩ := handle [.turn ⟨1⟩ .stop none]
  obtain ⟨same, -, streams, active, tidy⟩ := replicas [.turn ⟨1⟩ .stop none] (by decide)
  have unchanged : k.replicas = n.replicas :=
    still idle [.turn ⟨1⟩ .stop none] (by simp)
  have idle' : k.IsIdle := by
    rw [IsIdle, unchanged]
    exact idle
  have unheard : 0 ∉ k.told := untold ⟨0, 0, true⟩ held
  refine ⟨live, held, hosted, idle, unheard, ?_, ?_, ?_⟩
  · rw [streams]
    decide +kernel
  · intro r mem
    apply (active regular r mem).mpr
    have numbered : ∀ r ∈ n.replicas, r.id ∈ (n.run [.turn ⟨1⟩ .stop none]).registry.ids := by
      decide +kernel
    exact numbered r (unchanged ▸ mem)
  · rw [tidy idle']
    rintro ⟨unsubscribed, -⟩
    have subscribed : n.isSubscribed = true := by rw [isSubscribed, held]; rfl
    cases subscribed.symm.trans unsubscribed

/-- Nobody puts things in order when the last one lets a node go. -/
theorem abandoned_untidy :
    ¬ ∀ actions later, (∀ a ∈ actions, a.isRegular = true) → (∀ a ∈ later, a.isOwn = true) →
      (((run {} actions).step .abandon).run later).IsIdle →
      LeftTidy (run {} actions) (((run {} actions).step .abandon).run later) := by
  intro tidy
  have held : (run {} listeningSession).held = some ⟨0, 0, true⟩ := by decide +kernel
  have idle : ((run {} listeningSession).step .abandon).IsIdle := by decide +kernel
  have left := tidy listeningSession [] (by decide) (List.forall_mem_nil _) idle
  have told : 0 ∈ ((run {} listeningSession).step .abandon).told := left.told ⟨0, 0, true⟩ held rfl
  exact absurd told (by decide +kernel)

end Node

end ReplicaHosting

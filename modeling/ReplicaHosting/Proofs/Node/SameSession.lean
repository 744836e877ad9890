import ReplicaHosting.Proofs.Node.Shift

/-! What a node keeps for itself while replicas act and collaborators call back: its binding, its
handles, whether it is closed. A closed node lets nothing in at all, it only takes notice. -/
namespace ReplicaHosting

/-- Whether an action is none of those by which whoever holds the node, its handle or its runtime
deals with it: a replica acts, or something comes through a callback. -/
def Action.isMinor : Action → Bool
  | .presence _ _ | .candidate _ _ | .turn _ _ _ | .answer _ _ | .push _ _ | .endStream _
  | .activate _ _ _ | .teardown _ => true
  | .attach _ _ _ | .start _ | .stop _ | .handleSays _ | .shutRuntime _ | .abandon => false

namespace Node

structure SameSession (n m : Node) : Prop where
  live : m.live = n.live
  binding : m.binding = n.binding
  held : m.held = n.held
  shut : m.shut = n.shut
  stopping : m.registry.stopping = n.registry.stopping
  subscriptions : m.subscriptions = n.subscriptions
  letGo : m.letGo = n.letGo
  told : m.told = n.told

theorem sameSession_self (n : Node) : SameSession n n := ⟨rfl, rfl, rfl, rfl, rfl, rfl, rfl, rfl⟩

theorem SameSession.trans {n m k : Node} (first : SameSession n m) (second : SameSession m k) :
    SameSession n k :=
  ⟨second.live.trans first.live, second.binding.trans first.binding,
    second.held.trans first.held, second.shut.trans first.shut,
    second.stopping.trans first.stopping, second.subscriptions.trans first.subscriptions,
    second.letGo.trans first.letGo, second.told.trans first.told⟩

/-- No business with collaborators but with origins that are asked to be watched. -/
structure OnlyWatches (n m : Node) : Prop where
  calls : ∀ {α : Type} (f : Call → Option α),
    (∀ id platform d, f (Call.watch id platform d) = none) →
    m.calls.filterMap f = n.calls.filterMap f
  subscriptions : m.subscriptions = n.subscriptions
  letGo : m.letGo = n.letGo

theorem OnlyWatches.trans {n m k : Node} (first : OnlyWatches n m) (second : OnlyWatches m k) :
    OnlyWatches n k :=
  ⟨fun f own => (second.calls f own).trans (first.calls f own),
    second.subscriptions.trans first.subscriptions, second.letGo.trans first.letGo⟩

theorem onlyWatches_apply (id : ReplicaId) (d : Descriptor) (n : Node) (e : Effect) :
    OnlyWatches n (n.apply id d e) := by
  cases e with
  | notice x => exact ⟨fun _ _ => rfl, rfl, rfl⟩
  | watch platform =>
    refine ⟨?_, rfl, rfl⟩
    intro α f own
    change (n.calls ++ [Call.watch id platform d]).filterMap f = _
    rw [List.filterMap_append, List.filterMap_cons_none (own id platform d), List.filterMap_nil,
      List.append_nil]
  | opened => exact ⟨fun _ _ => rfl, rfl, rfl⟩
  | calledBack ended c =>
    cases c with
    | report => exact ⟨fun _ _ => rfl, rfl, rfl⟩
    | release key =>
      simp only [apply]
      split
      · obtain ⟨x, released⟩ := release_eq key ended
          { n with calledBack := n.calledBack ++ [ended] }
        rw [released]
        exact ⟨fun _ _ => rfl, rfl, rfl⟩
      · exact ⟨fun _ _ => rfl, rfl, rfl⟩

theorem onlyWatches_foldl_apply (id : ReplicaId) (d : Descriptor) (n : Node) (es : List Effect) :
    OnlyWatches n (es.foldl (apply id d) n) := by
  induction es generalizing n with
  | nil => exact ⟨fun _ _ => rfl, rfl, rfl⟩
  | cons e es ih => exact (onlyWatches_apply id d n e).trans (ih _)

theorem onlyWatches_perform (n : Node) (id : ReplicaId) (act : Replica → Replica × List Effect) :
    OnlyWatches n (n.perform id act) := by
  cases found : n.replica? id with
  | none =>
    rw [perform_of_absent found]
    exact ⟨fun _ _ => rfl, rfl, rfl⟩
  | some r =>
    have h := onlyWatches_foldl_apply id r.descriptor (n.put (act r).1) (act r).2
    simp only [perform, found]
    exact ⟨h.calls, h.subscriptions, h.letGo⟩

/-- All that acts of replicas leave alone. -/
structure ReplicasActed (n m : Node) : Prop extends OnlyShrinks n m, OnlyWatches n m

theorem replicasActed_self (n : Node) : ReplicasActed n n :=
  { live := rfl, binding := rfl, held := rfl, shut := rfl, registry := Registry.shrinks_self _
    calls := fun _ _ => rfl, subscriptions := rfl, letGo := rfl }

theorem replicasActed_perform (n : Node) (id : ReplicaId) (act : Replica → Replica × List Effect) :
    ReplicasActed n (n.perform id act) :=
  ⟨n.onlyShrinks_perform id act, n.onlyWatches_perform id act⟩

theorem ReplicasActed.trans {n m k : Node} (first : ReplicasActed n m)
    (second : ReplicasActed m k) : ReplicasActed n k :=
  ⟨first.toOnlyShrinks.trans second.toOnlyShrinks, first.toOnlyWatches.trans second.toOnlyWatches⟩

theorem replicasActed_foldl {α : Type} {f : Node → α → Node} (each : ∀ n a, ReplicasActed n (f n a))
    (as : List α) (n : Node) : ReplicasActed n (as.foldl f n) := by
  induction as generalizing n with
  | nil => exact replicasActed_self n
  | cons a as ih => exact (each n a).trans (ih (f n a))

theorem ReplicasActed.asked {n m : Node} (h : ReplicasActed n m) : m.asked = n.asked :=
  h.calls Call.request? fun _ _ _ => rfl

theorem ReplicasActed.told {n m : Node} (h : ReplicasActed n m) : m.told = n.told :=
  h.calls Call.unsubscribed? fun _ _ _ => rfl

theorem ReplicasActed.sameSession {n m : Node} (h : ReplicasActed n m) : SameSession n m :=
  ⟨h.live, h.binding, h.held, h.shut, h.registry.stopping, h.subscriptions, h.letGo, h.told⟩

theorem replicasActed_activate (n : Node) (id : ReplicaId) (platform runtime : Nat) :
    ReplicasActed n (n.activate id platform runtime) := by
  have started := n.replicasActed_perform id fun r => (r.activate platform runtime).2
  unfold activate
  dsimp only
  split
  · exact started.trans (replicasActed_perform _ id Replica.dropTask)
  · exact started

theorem replicasActed_shutRuntime (n : Node) (runtime : Nat) :
    ReplicasActed { n with shut := n.shut ++ [runtime] } (n.shutRuntime runtime) :=
  replicasActed_foldl (fun n id => n.replicasActed_perform id Replica.dropTask) _ _

theorem told_call (n : Node) (c : Call) : (n.call c).told = n.told ++ c.unsubscribed?.toList := by
  simp only [told, call, List.filterMap_append]
  cases c <;> rfl

theorem asked_call (n : Node) (c : Call) : (n.call c).asked = n.asked ++ c.request?.toList := by
  simp only [asked, call, List.filterMap_append]
  cases c <;> rfl

theorem sameSession_enlist {n : Node} {key : DedupKey} {id : ReplicaId} {registry : Registry}
    (admitted : n.registry.enroll key = (.admitted id, registry)) (b : Binding) (d : Descriptor) :
    SameSession n (n.enlist b d id registry) := by
  obtain ⟨-, -, -, rfl⟩ := Registry.enroll_admitted admitted
  exact ⟨rfl, rfl, rfl, rfl, rfl, rfl, rfl, rfl⟩

theorem Reaction.sameSession {n m : Node} (h : Reaction n m) : SameSession n m := by
  cases h with
  | say x => exact ⟨rfl, rfl, rfl, rfl, rfl, rfl, rfl, rfl⟩
  | ask b host =>
    refine ⟨rfl, rfl, rfl, rfl, rfl, rfl, rfl, ?_⟩
    rw [told_call]
    exact List.append_nil _
  | accepted => exact ⟨rfl, rfl, rfl, rfl, rfl, rfl, rfl, rfl⟩
  | takeIn b d id registry live tagged bound admitted =>
    exact (sameSession_enlist admitted b d).trans (replicasActed_perform _ id _).sameSession
  | giveUp b id bound off => exact (n.replicasActed_perform id _).sameSession

theorem Reactions.sameSession {n m : Node} (h : Reactions n m) : SameSession n m := by
  induction h with
  | refl => exact sameSession_self n
  | tail _ last ih => exact ih.trans last.sameSession

/-- Nothing has happened but that notice has been taken. -/
def AddsNotices (n m : Node) : Prop := ∃ xs, m = { n with notices := n.notices ++ xs }

theorem addsNotices_self (n : Node) : AddsNotices n n := ⟨[], by rw [List.append_nil]⟩

theorem addsNotices_say (n : Node) (x : Notice) : AddsNotices n (n.say x) := ⟨[x], rfl⟩

theorem AddsNotices.trans {n m k : Node} (first : AddsNotices n m) (second : AddsNotices m k) :
    AddsNotices n k := by
  obtain ⟨xs, rfl⟩ := first
  obtain ⟨ys, rfl⟩ := second
  exact ⟨xs ++ ys, by rw [List.append_assoc]⟩

theorem AddsNotices.reactions {n m : Node} (h : AddsNotices n m) : Reactions n m := by
  obtain ⟨xs, rfl⟩ := h
  induction xs generalizing n with
  | nil => simpa using reactions_refl n
  | cons x xs ih =>
    have rest := ih (n := n.say x)
    simp only [say, List.append_assoc, List.singleton_append] at rest
    exact (Reaction.say n x).once.trans rest

theorem addsNotices_onCandidate {n : Node} (closed : n.registry.stopping = true) (d : Descriptor) :
    AddsNotices n (n.onCandidate d) := by
  rcases onCandidate_cases d n with same | ⟨x, said⟩ | ⟨b, id, registry, -, -, -, admitted, -⟩
  · rw [same]
    exact addsNotices_self n
  · rw [said]
    exact addsNotices_say n x
  · have opened := (Registry.enroll_admitted admitted).1
    rw [closed] at opened
    cases opened

theorem addsNotices_onPresence {n : Node} (closed : n.registry.stopping = true) (x : Beacon) :
    AddsNotices n (n.onPresence x) := by
  unfold onPresence
  dsimp only
  split
  · exact addsNotices_self n
  · exact addsNotices_say n _

theorem addsNotices_onBeacons {n : Node} (closed : n.registry.stopping = true) (xs : List Beacon) :
    AddsNotices n (n.onBeacons xs) := by
  induction xs generalizing n with
  | nil => exact addsNotices_self n
  | cons x xs ih =>
    have first := addsNotices_onPresence closed x
    have closed' : (n.onPresence x).registry.stopping = true :=
      (first.reactions.sameSession.stopping).trans closed
    exact first.trans (ih closed')

theorem live_of_step {n : Node} {a : Action} (h : (n.step a).live = true) : n.live = true := by
  cases regular : a.isRegular with
  | true => exact (n.shifts_step regular).live ▸ h
  | false =>
    cases a with
    | activate id platform runtime => exact (n.replicasActed_activate id platform runtime).live ▸ h
    | teardown id => exact (n.replicasActed_perform id fun r => r.teardown.2).live ▸ h
    | abandon => cases h
    | _ => cases regular

theorem minor_cases (n : Node) {a : Action} (minor : a.isMinor = true) :
    ReplicasActed n (n.step a) ∨ Reactions n (n.step a) := by
  cases a with
  | presence callback x =>
    simp only [step]
    split
    · exact .inr (reactions_onPresence x n)
    · exact .inr (reactions_refl n)
  | candidate callback d =>
    simp only [step]
    split
    · exact .inr (reactions_onCandidate d n)
    · exact .inr (reactions_refl n)
  | turn id pick reply => exact .inl (n.replicasActed_perform id (Replica.turn pick reply))
  | answer id x => exact .inl (n.replicasActed_perform id fun r => (r.answer x, []))
  | push id e => exact .inl (n.replicasActed_perform id fun r => (r.push e, []))
  | endStream id => exact .inl (n.replicasActed_perform id fun r => (r.endStream, []))
  | activate id platform runtime => exact .inl (n.replicasActed_activate id platform runtime)
  | teardown id => exact .inl (n.replicasActed_perform id fun r => r.teardown.2)
  | _ => cases minor

theorem sameSession_of_minor (n : Node) {a : Action} (minor : a.isMinor = true) :
    SameSession n (n.step a) := by
  rcases n.minor_cases minor with acted | reactions
  · exact acted.sameSession
  · exact reactions.sameSession

end Node

end ReplicaHosting

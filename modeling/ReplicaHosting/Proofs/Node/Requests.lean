import ReplicaHosting.Node.Outlook
import ReplicaHosting.Proofs.Node.Candidate

/-! The requests to discovery services follow from the occasions of a run. Each part of a step is
followed through its occasions, and what lies between them, candidates above all, leaves no mark on
the outlook. -/
namespace ReplicaHosting

theorem PresenceResult.classify_eq_announcing_iff (r : PresenceResult) :
    r.classify = .announcing ↔ r ∈ [.ok, .resourceCreated, .continue] := by
  cases r <;> simp [classify]

namespace Node

/-- The query kept with the binding is the one of its configuration, and a node that nobody holds
has no binding. -/
structure QueryKept (n : Node) : Prop where
  query : ∀ b, n.binding = some b → b.query = b.config.discoveryQuery
  held : n.live = true ∨ n.binding = none

variable {n m : Node} {b : Binding}

theorem QueryKept.of_same (h : QueryKept n) (binding : m.binding = n.binding)
    (live : m.live = n.live) : QueryKept m :=
  ⟨fun b bound => h.query b (binding ▸ bound), by rw [binding, live]; exact h.held⟩

theorem SameSession.queryKept (s : SameSession n m) (h : QueryKept n) : QueryKept m :=
  h.of_same s.binding s.live

theorem ReplicasActed.outlook (h : ReplicasActed n m) : m.outlook = n.outlook := by
  simp only [Node.outlook, h.binding, h.registry.stopping, h.asked]

theorem SameSession.outlook (h : SameSession n m) :
    m.outlook = { n.outlook with asked := m.asked } := by
  simp only [Node.outlook, h.binding, h.stopping]

theorem outlook_call (c : Call) (n : Node) :
    (n.call c).outlook = { n.outlook with asked := n.asked ++ c.request?.toList } := by
  rw [← asked_call]
  rfl

theorem outlook_onCandidate (d : Descriptor) (n : Node) :
    (n.onCandidate d).outlook = n.outlook := by
  rcases onCandidate_cases d n with same | ⟨x, said⟩ | ⟨b, id, registry, -, -, -, admitted, taken⟩
  · rw [same]
  · rw [said]
    rfl
  · have enlisted : (n.enlist b d id registry).outlook = n.outlook :=
      (sameSession_enlist admitted b d).outlook
    rw [taken, (replicasActed_activate _ id b.platform b.runtime).outlook, enlisted]

theorem outlook_onCandidates (ds : List Descriptor) (n : Node) :
    (n.onCandidates ds).outlook = n.outlook := by
  induction ds generalizing n with
  | nil => rfl
  | cons d ds ih => exact (ih _).trans (outlook_onCandidate d n)

theorem outlook_requestDiscovery (h : QueryKept n) (bound : n.binding = some b)
    (host : Option String) (reply : DiscoveryReply) :
    (n.requestDiscovery host b reply).outlook = n.outlook.ask host := by
  have asking : ((n.say (.discoveryRequested host b.query)).call
      (.discover b.platform host b.query b.config.connectivity)).outlook = n.outlook.ask host := by
    rw [outlook_call, h.query b bound]
    simp only [outlook, Outlook.ask, say, bound, Option.map_some]
    rfl
  have delivered := (outlook_onCandidates reply.candidates _).trans asking
  unfold requestDiscovery
  dsimp only
  split
  · exact delivered
  · exact delivered

theorem outlook_onPresence (h : QueryKept n) (x : Beacon) :
    (n.onPresence x).outlook = n.outlook.meet x.occasion := by
  have quiet (unbound : n.binding = none) : n.outlook.meet x.occasion = n.outlook := by
    simp [Outlook.meet, Beacon.occasion, Outlook.ask, outlook, unbound]
  by_cases live : n.live = true
  swap
  · rw [quiet (h.held.resolve_left live), onPresence]
    simp [live]
  cases closed : n.registry.stopping with
  | true => simp [onPresence, live, closed, say, outlook, Outlook.meet, Beacon.occasion, asked]
  | false =>
    have ignored (other : x.event.result.classify ≠ .announcing) :
        n.outlook.meet x.occasion = n.outlook := by
      rw [ne_eq, PresenceResult.classify_eq_announcing_iff] at other
      exact if_neg fun both => other both.1
    unfold onPresence
    simp only [live, closed, Bool.not_true, Bool.false_eq_true, if_false]
    cases kind : x.event.result.classify with
    | departure => exact (ignored (by simp [kind])).symm
    | ignored => exact (ignored (by simp [kind])).symm
    | announcing =>
      cases bound : n.binding with
      | none => exact (quiet bound).symm
      | some b =>
        have told : QueryKept (n.say (.announcement x.event)) := h.of_same rfl rfl
        have asked := outlook_requestDiscovery told bound (some x.event.address) x.reply
        have heard : n.outlook.meet x.occasion = n.outlook.ask (some x.event.address) :=
          if_pos ⟨(PresenceResult.classify_eq_announcing_iff _).mp kind, closed⟩
        dsimp only
        rw [heard]
        split
        · exact asked
        · exact asked

theorem outlook_onBeacons (h : QueryKept n) (xs : List Beacon) :
    (n.onBeacons xs).outlook = (xs.map Beacon.occasion).foldl Outlook.meet n.outlook := by
  induction xs generalizing n with
  | nil => rfl
  | cons x xs ih =>
    have rest := ih ((reactions_onPresence x n).sameSession.queryKept h)
    rw [outlook_onPresence h x] at rest
    exact rest

theorem outlook_letGoOf (h : QueryKept n) (x : Handle) (reply : UnsubscribeReply) :
    (n.letGoOf x reply).outlook = (reply.occasions x.active).foldl Outlook.meet n.outlook := by
  unfold letGoOf UnsubscribeReply.occasions
  dsimp only
  cases x.active with
  | false => rfl
  | true =>
    have told : QueryKept ({ n with letGo := n.letGo ++ [x] }.call (.unsubscribe x.number)) :=
      h.of_same rfl rfl
    have calling : ({ n with letGo := n.letGo ++ [x] }.call (.unsubscribe x.number)).outlook =
        n.outlook := by
      rw [outlook_call]
      exact congrArg (fun asked => { n.outlook with asked }) (List.append_nil _)
    have heard := outlook_onBeacons told reply.beacons
    rw [calling] at heard
    simp only [Bool.not_true, Bool.false_eq_true, if_false, if_true]
    split
    · exact heard
    · exact heard

theorem outlook_closeDown (h : QueryKept n) (reply : UnsubscribeReply) :
    (n.closeDown reply).outlook =
      (Occasion.closed :: reply.occasions n.isSubscribed).foldl Outlook.meet n.outlook := by
  unfold closeDown withdraw isSubscribed
  dsimp only
  cases n.held with
  | none => rfl
  | some x =>
    have closed : QueryKept { n with registry := n.registry.close, held := none } :=
      h.of_same rfl rfl
    exact outlook_letGoOf closed x reply

theorem outlook_drain (n : Node) : n.drain.outlook = n.outlook := by
  obtain ⟨rs, xs, shape⟩ :=
    teardownAll_shape { n with registry := n.registry.clear } n.registry.ids
  rw [drain, shape]
  rfl

theorem outlook_hold (h : QueryKept n) (x : Handle) (reply : UnsubscribeReply) :
    (n.hold x reply).outlook = (reply.occasions n.isSubscribed).foldl Outlook.meet n.outlook := by
  unfold hold isSubscribed
  cases n.held with
  | none => rfl
  | some old =>
    have taken : QueryKept { n with held := some x } := h.of_same rfl rfl
    exact outlook_letGoOf taken old reply

/-- The node with its new handle, open, before it turns to all hosts. -/
def install (b : Binding) (active : Bool) (reply : StartReply) (n : Node) : Node :=
  let pending := n.subscribing b reply.subscribe
  { pending with
    subscriptions := pending.subscriptions + 1
    registry := pending.registry.reopen }.hold (pending.nextHandle b active) reply.replaced

theorem start_of_subscribed (bound : n.binding = some b) {reply : StartReply} {active : Bool}
    (subscribed : reply.subscribe.outcome = .ok active) :
    n.start reply =
      let swept := (n.install b active reply).requestDiscovery none b reply.sweep
      match reply.sweep.refusal with
      | none => (none, swept.say (.started b.config.presenceAddress))
      | some e =>
        let closed := (swept.say (.sweepFailed e)).closeDown reply.withdrawn
        (some e, closed.drain.say (.rolledBack closed.registry.size)) := by
  unfold start
  simp only [bound, subscribed]
  rfl

theorem outlook_subscribing (h : QueryKept n) (b : Binding) (reply : SubscribeReply) :
    (n.subscribing b reply).outlook =
      (reply.beacons.map Beacon.occasion).foldl Outlook.meet n.outlook := by
  have queryKept : QueryKept (n.call (asking b)) := h.of_same rfl rfl
  have calling : (n.call (asking b)).outlook = n.outlook := by
    rw [outlook_call]
    exact congrArg (fun asked => { n.outlook with asked }) (List.append_nil _)
  rw [← calling]
  exact outlook_onBeacons queryKept reply.beacons

theorem sameSession_install (b : Binding) (active : Bool) (reply : StartReply) (n : Node) :
    SameSession ((n.subscribing b reply.subscribe).renewed b active) (n.install b active reply) :=
  (reactions_hold ((n.subscribing b reply.subscribe).nextHandle b active) reply.replaced
    { n.subscribing b reply.subscribe with
        subscriptions := (n.subscribing b reply.subscribe).subscriptions + 1
        registry := (n.subscribing b reply.subscribe).registry.reopen }).sameSession

theorem QueryKept.install (h : QueryKept n) (b : Binding) (active : Bool) (reply : StartReply) :
    QueryKept (n.install b active reply) :=
  (sameSession_install b active reply n).queryKept
    (((sameSession_subscribing b reply.subscribe n).queryKept h).of_same rfl rfl)

theorem outlook_install (h : QueryKept n) (b : Binding) (active : Bool) (reply : StartReply) :
    (n.install b active reply).outlook =
      (reply.subscribe.beacons.map Beacon.occasion ++
        .opened :: reply.replaced.occasions n.isSubscribed).foldl Outlook.meet n.outlook := by
  have sameSession := sameSession_subscribing b reply.subscribe n
  have subscribed : (n.subscribing b reply.subscribe).isSubscribed = n.isSubscribed := by
    rw [isSubscribed, isSubscribed, sameSession.held]
  have opened : QueryKept
      { n.subscribing b reply.subscribe with
          subscriptions := (n.subscribing b reply.subscribe).subscriptions + 1
          registry := (n.subscribing b reply.subscribe).registry.reopen } :=
    (sameSession.queryKept h).of_same rfl rfl
  rw [List.foldl_append, ← outlook_subscribing h b, ← subscribed]
  exact outlook_hold opened _ reply.replaced

theorem outlook_start (h : QueryKept n) (bound : n.binding = some b) (reply : StartReply) :
    (n.start reply).2.outlook =
      (reply.occasions n.isSubscribed).foldl Outlook.meet n.outlook := by
  unfold StartReply.occasions
  cases outcome : reply.subscribe.outcome with
  | error e =>
    simp only [start, bound, outcome, List.append_nil]
    exact outlook_subscribing h b reply.subscribe
  | ok active =>
    have queryKept := h.install b active reply
    have installed := sameSession_install b active reply n
    have bound' : (n.install b active reply).binding = some b :=
      installed.binding.trans ((sameSession_subscribing b reply.subscribe n).binding.trans bound)
    have swept := outlook_requestDiscovery queryKept bound' none reply.sweep
    dsimp only
    rw [start_of_subscribed bound outcome, ← List.append_assoc, List.foldl_append,
      ← outlook_install h b active reply, List.foldl_cons]
    -- what follows the sweep starts from the outlook that the sweep leaves
    change _ = List.foldl _ ((n.install b active reply).outlook.ask none) _
    rw [← swept]
    cases reply.sweep.refusal with
    | none => rfl
    | some e =>
      have sweeping :=
        (reactions_requestDiscovery none b reply.sweep (n.install b active reply)).sameSession
      have failed : QueryKept (((n.install b active reply).requestDiscovery none b
          reply.sweep).say (.sweepFailed e)) := (sweeping.queryKept queryKept).of_same rfl rfl
      have subscribed : (((n.install b active reply).requestDiscovery none b
          reply.sweep).say (.sweepFailed e)).isSubscribed = active := by
        change ((n.install b active reply).requestDiscovery none b reply.sweep).held.any _ = active
        rw [sweeping.held, installed.held]
        rfl
      have closed := outlook_closeDown failed reply.withdrawn
      rw [subscribed] at closed
      exact (outlook_drain _).trans closed

theorem outlook_stop (h : QueryKept n) (reply : UnsubscribeReply) : (n.stop reply).outlook =
    (Occasion.closed :: reply.occasions n.isSubscribed).foldl Outlook.meet n.outlook := by
  rw [← outlook_closeDown h reply]
  exact outlook_drain (n.closeDown reply)

theorem attach_eq {platform runtime : Nat} {config : Config}
    (attached : n.attach platform runtime config = .ok m) :
    m = { n with binding := some ⟨platform, runtime, config, config.discoveryQuery⟩ }.say
      (.attached config) := by
  unfold attach at attached
  split at attached
  · cases attached
  · split at attached
    · cases attached
    · cases attached
      rfl

theorem outlook_step (h : QueryKept n) (a : Action) :
    (n.step a).outlook = (n.occasions a).foldl Outlook.meet n.outlook := by
  cases a with
  | attach platform runtime config =>
    simp only [step, occasions]
    split
    · cases attached : n.attach platform runtime config with
      | error e => rfl
      | ok m =>
        rw [attach_eq attached]
        rfl
    · rfl
  | start reply =>
    simp only [step, occasions]
    by_cases live : n.live = true
    · cases bound : n.binding with
      | none => simp [live, start, bound]
      | some b => simp [live, outlook_start h bound reply]
    · simp [live]
  | stop reply =>
    simp only [step, occasions]
    split
    · exact outlook_stop h reply
    · rfl
  | presence callback x =>
    simp only [step, occasions]
    split
    · exact outlook_onPresence h x
    · rfl
  | candidate callback d =>
    simp only [step, occasions]
    split
    · exact outlook_onCandidate d n
    · rfl
  | handleSays active => rfl
  | turn id pick reply => exact (n.replicasActed_perform id (Replica.turn pick reply)).outlook
  | answer id x => exact (n.replicasActed_perform id fun r => (r.answer x, [])).outlook
  | push id e => exact (n.replicasActed_perform id fun r => (r.push e, [])).outlook
  | endStream id => exact (n.replicasActed_perform id fun r => (r.endStream, [])).outlook
  | shutRuntime runtime => exact (n.replicasActed_shutRuntime runtime).outlook
  | activate id platform runtime => exact (n.replicasActed_activate id platform runtime).outlook
  | teardown id => exact (n.replicasActed_perform id fun r => r.teardown.2).outlook
  | abandon => rfl

theorem binding_start (orderly : Orderly n) (reply : StartReply) :
    (n.start reply).2.binding = n.binding := by
  have h := start_case orderly reply
  generalize n.start reply = x at h
  cases h with
  | unbound free => rfl
  | refused b e bound failed => exact (sameSession_subscribing b reply.subscribe n).binding
  | through b active m bound subscribed swept accepted => exact binding_swept swept
  | rolledBack b active m k e bound subscribed swept failed halted =>
    exact halted.binding.trans (binding_swept swept)

theorem QueryKept.step (h : QueryKept n) (orderly : Orderly n) (a : Action) :
    QueryKept (n.step a) := by
  have kept (regular : a.isRegular = true) (binding : (n.step a).binding = n.binding) :
      QueryKept (n.step a) := h.of_same binding (n.shifts_step regular).live
  cases a with
  | attach platform runtime config =>
    simp only [Node.step]
    split
    · rename_i live
      cases attached : n.attach platform runtime config with
      | error e => exact h
      | ok m =>
        rw [attach_eq attached]
        refine ⟨?_, .inl live⟩
        intro b bound
        cases bound
        rfl
    · exact h
  | start reply =>
    apply kept rfl
    simp only [Node.step]
    split
    · exact binding_start orderly reply
    · rfl
  | stop reply =>
    apply kept rfl
    simp only [Node.step]
    split
    · rw [stop_eq]
      exact (halted_stopInOrder orderly.unique reply (List.Perm.refl _)).binding
    · rfl
  | handleSays active => exact kept rfl rfl
  | shutRuntime runtime => exact kept rfl (n.replicasActed_shutRuntime runtime).binding
  | abandon =>
    refine ⟨?_, .inr rfl⟩
    intro b bound
    cases bound
  | _ => exact (n.sameSession_of_minor rfl).queryKept h

theorem outlook_run (orderly : Orderly n) (queryKept : QueryKept n) (actions : List Action) :
    (n.run actions).outlook = (n.occasionsBy actions).foldl Outlook.meet n.outlook := by
  induction actions generalizing n with
  | nil => rfl
  | cons a later ih =>
    have rest := ih (orderly.step a) (queryKept.step orderly a)
    rw [outlook_step queryKept a, ← List.foldl_append] at rest
    exact rest

end Node

end ReplicaHosting

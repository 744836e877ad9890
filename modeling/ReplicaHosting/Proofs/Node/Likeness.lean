import ReplicaHosting.Proofs.Node.Follow
import ReplicaHosting.Proofs.Node.Requests

/-! Nothing that a node does depends on what it has noted. Two nodes that differ in no more than
notices, and in how many of their requests have been accepted, go on alike, also where the events
that come in differ in something that only shows there: in their numbers, or in whether a request
that they lead to is refused. -/
namespace ReplicaHosting

/-- A way to look at the record: what is seen of a notice, and whether accepted requests are
counted. -/
structure View where
  shows : Notice → Option Notice
  counts : Bool

def Notice.unnumbered : Notice → Notice
  | presenceWhileStopping e => presenceWhileStopping { e with sequence := 0 }
  | announcement e => announcement { e with sequence := 0 }
  | departure e => departure { e with sequence := 0 }
  | presenceIgnored e => presenceIgnored { e with sequence := 0 }
  | x => x

namespace View

def unnumbered : View where
  shows x := some x.unnumbered
  counts := true

def unrefused : View where
  shows
    | .targetedFailed _ _ => none
    | x => some x
  counts := false

structure Same (v : View) (x y : Beacon) : Prop where
  result : y.event.result = x.event.result
  address : y.event.address = x.event.address
  candidates : y.reply.candidates = x.reply.candidates
  shown : ∀ c ∈ [Notice.presenceWhileStopping, .announcement, .departure, .presenceIgnored],
    v.shows (c y.event) = v.shows (c x.event)
  refusal : y.reply.refusal = x.reply.refusal ∨
    v.counts = false ∧ ∀ address e, v.shows (.targetedFailed address e) = none

end View

def Beacon.numbered (number : Beacon → UInt32) (x : Beacon) : Beacon :=
  { x with event := { x.event with sequence := number x } }

def Beacon.answered (refusal : Beacon → Option Failure) (x : Beacon) : Beacon :=
  { x with reply := { x.reply with refusal := refusal x } }

def UnsubscribeReply.mapBeacons (f : Beacon → Beacon) (reply : UnsubscribeReply) :
    UnsubscribeReply := { reply with beacons := reply.beacons.map f }

def StartReply.mapBeacons (f : Beacon → Beacon) (reply : StartReply) : StartReply :=
  { reply with
    subscribe := { reply.subscribe with beacons := reply.subscribe.beacons.map f }
    replaced := reply.replaced.mapBeacons f
    withdrawn := reply.withdrawn.mapBeacons f }

def Action.mapBeacons (f : Beacon → Beacon) : Action → Action
  | .start reply => .start (reply.mapBeacons f)
  | .stop reply => .stop (reply.mapBeacons f)
  | .presence callback x => .presence callback (f x)
  | a => a

theorem View.same_numbered (number : Beacon → UInt32) (x : Beacon) :
    View.unnumbered.Same x (x.numbered number) := by
  refine ⟨rfl, rfl, rfl, ?_, .inl rfl⟩
  intro c mem
  simp only [List.mem_cons, List.not_mem_nil, or_false] at mem
  rcases mem with rfl | rfl | rfl | rfl <;> rfl

theorem View.same_answered (refusal : Beacon → Option Failure) (x : Beacon) :
    View.unrefused.Same x (x.answered refusal) :=
  ⟨rfl, rfl, rfl, fun _ _ => rfl, .inr ⟨rfl, fun _ _ => rfl⟩⟩

namespace Node

/-- The second node is the first one but for what the view leaves out. -/
inductive Alike (v : View) (n : Node) : Node → Prop where
  | intro (xs : List Notice) (k : Nat)
      (notices : xs.filterMap v.shows = n.notices.filterMap v.shows)
      (requests : v.counts = true → k = n.requests) :
      Alike v n { n with notices := xs, requests := k }

namespace Alike

variable {v : View} {n m : Node}

theorem refl (v : View) (n : Node) : Alike v n n := ⟨n.notices, n.requests, rfl, fun _ => rfl⟩

theorem congr {α : Type} (h : Alike v n m) (f : Node → α)
    (blind : ∀ xs k, f { n with notices := xs, requests := k } = f n) : f m = f n := by
  obtain ⟨xs, k, notices, requests⟩ := h
  exact blind xs k

theorem update (h : Alike v n m) (f : Node → Node)
    (blind : ∀ n xs k, f { n with notices := xs, requests := k } =
      { f n with notices := xs, requests := k }) : Alike v (f n) (f m) := by
  obtain ⟨xs, k, notices, requests⟩ := h
  have kept : f n = { f n with notices := n.notices, requests := n.requests } :=
    blind n n.notices n.requests
  rw [blind n xs k]
  refine ⟨xs, k, ?_, ?_⟩
  · rw [kept]
    exact notices
  · rw [kept]
    exact requests

theorem say_of_shows (h : Alike v n m) {x y : Notice} (same : v.shows y = v.shows x) :
    Alike v (n.say x) (m.say y) := by
  obtain ⟨xs, k, notices, requests⟩ := h
  refine ⟨xs ++ [y], k, ?_, requests⟩
  simp only [Node.say, List.filterMap_append, notices, List.filterMap_cons, same]

theorem say (h : Alike v n m) (x : Notice) : Alike v (n.say x) (m.say x) := h.say_of_shows rfl

theorem call (h : Alike v n m) (c : Call) : Alike v (n.call c) (m.call c) :=
  h.update (Node.call c) fun _ _ _ => rfl

theorem foldl {α : Type} {f : Node → α → Node}
    (each : ∀ {n m : Node} (a : α), Alike v n m → Alike v (f n a) (f m a)) (h : Alike v n m)
    (as : List α) : Alike v (as.foldl f n) (as.foldl f m) := by
  induction as generalizing n m with
  | nil => exact h
  | cons a as ih => exact ih (each a h)

theorem release (h : Alike v n m) (key : DedupKey) (id : ReplicaId) :
    Alike v (n.release key id) (m.release key id) := by
  have registry := h.congr Node.registry fun _ _ => rfl
  simp only [Node.release, registry]
  cases n.registry.remove? key id with
  | none => exact h.say (.alreadyReleased id)
  | some left =>
    have taken := h.update (fun n => { n with registry := left }) fun _ _ _ => rfl
    exact taken.say (.released id key)

theorem apply (h : Alike v n m) (id : ReplicaId) (d : Descriptor) (e : Effect) :
    Alike v (n.apply id d e) (m.apply id d e) := by
  cases e with
  | notice x => exact h.say x
  | watch platform => exact h.call (.watch id platform d)
  | opened => exact h.update (fun n => { n with streams := n.streams ++ [id] }) fun _ _ _ => rfl
  | calledBack ended c =>
    have called := h.update (fun n => { n with calledBack := n.calledBack ++ [ended] })
      fun _ _ _ => rfl
    cases c with
    | report => exact called
    | release key =>
      obtain ⟨xs, k, notices, requests⟩ := h
      simp only [Node.apply]
      split
      · exact called.release key ended
      · exact called

theorem perform (h : Alike v n m) (id : ReplicaId) (act : Replica → Replica × List Effect) :
    Alike v (n.perform id act) (m.perform id act) := by
  have same := h.congr (Node.replica? id) fun _ _ => rfl
  cases found : n.replica? id with
  | none =>
    rw [perform_of_absent found, perform_of_absent (same.trans found)]
    exact h
  | some r =>
    have put := h.update (Node.put (act r).1) fun _ _ _ => rfl
    rw [perform_of_found found, perform_of_found (same.trans found)]
    exact put.foldl (fun e same => same.apply id r.descriptor e) (act r).2

theorem activate (h : Alike v n m) (id : ReplicaId) (platform runtime : Nat) :
    Alike v (n.activate id platform runtime) (m.activate id platform runtime) := by
  have started := h.perform id fun r => (r.activate platform runtime).2
  have fresh := h.congr (Node.replica? id) fun _ _ => rfl
  have shut := started.congr Node.shut fun _ _ => rfl
  simp only [Node.activate, fresh, shut]
  split
  · exact started.perform id Replica.dropTask
  · exact started

theorem teardownAll (h : Alike v n m) (ids : List ReplicaId) :
    Alike v (n.teardownAll ids) (m.teardownAll ids) :=
  h.foldl (fun id same => same.perform id fun r => r.teardown.2) ids

theorem drain (h : Alike v n m) : Alike v n.drain m.drain := by
  have emptied := h.update (fun n => { n with registry := n.registry.clear }) fun _ _ _ => rfl
  obtain ⟨xs, k, notices, requests⟩ := h
  exact emptied.teardownAll n.registry.ids

theorem drain_say (h : Alike v n m) (x : Nat → Notice) :
    Alike v (n.drain.say (x n.registry.size)) (m.drain.say (x m.registry.size)) := by
  have registry := h.congr Node.registry fun _ _ => rfl
  rw [registry]
  exact h.drain.say _

theorem onCandidate (h : Alike v n m) (d : Descriptor) :
    Alike v (n.onCandidate d) (m.onCandidate d) := by
  have same := h
  obtain ⟨xs, k, notices, requests⟩ := h
  obtain ⟨_, binding, registry⟩ := n
  unfold Node.onCandidate
  dsimp only at same ⊢
  split
  · exact same
  split
  · exact same.say (.candidateUntagged d)
  rcases binding with - | b
  · exact same
  dsimp only
  rcases registry.enroll (b.config.dedupKey d) with ⟨id | id | -, registry'⟩
  · refine activate ?_ id b.platform b.runtime
    refine say ?_ (.hosted id d)
    exact ⟨xs, k, notices, requests⟩
  · exact same.say (.candidateKnown id d)
  · exact same.say (.candidateRefused d)

theorem onCandidates (h : Alike v n m) (ds : List Descriptor) :
    Alike v (n.onCandidates ds) (m.onCandidates ds) :=
  h.foldl (fun d same => same.onCandidate d) ds

/-- The count of accepted requests may go apart where it is not looked at. -/
theorem accept (h : Alike v n m) {e e' : Option Failure} (same : e' = e ∨ v.counts = false) :
    Alike v (if e.isSome then n else { n with requests := n.requests + 1 })
      (if e'.isSome then m else { m with requests := m.requests + 1 }) := by
  obtain ⟨xs, k, notices, requests⟩ := h
  rcases same with rfl | uncounted
  · split
    · exact ⟨xs, k, notices, requests⟩
    · exact ⟨xs, k + 1, notices, fun counted => congrArg (· + 1) (requests counted)⟩
  · have free (i j : Nat) : v.counts = true → i = j := by simp [uncounted]
    split
    · split
      · exact ⟨xs, k, notices, requests⟩
      · exact ⟨xs, k + 1, notices, free _ _⟩
    · split
      · exact ⟨xs, k, notices, free _ _⟩
      · exact ⟨xs, k + 1, notices, free _ _⟩

theorem requestDiscovery (h : Alike v n m) (host : Option String) (b : Binding)
    (reply reply' : DiscoveryReply) (candidates : reply'.candidates = reply.candidates)
    (refusal : reply'.refusal = reply.refusal ∨ v.counts = false) :
    Alike v (n.requestDiscovery host b reply) (m.requestDiscovery host b reply') := by
  have asked := (h.say (.discoveryRequested host b.query)).call
    (.discover b.platform host b.query b.config.connectivity)
  have delivered := asked.onCandidates reply.candidates
  unfold Node.requestDiscovery
  rw [candidates]
  exact delivered.accept refusal

/-- A failure may be noted on one side only where such notices are not seen. -/
theorem note (h : Alike v n m) (address : String) {e e' : Option Failure} :
    (e' = e ∨ ∀ address e, v.shows (.targetedFailed address e) = none) →
      Alike v (match e with | none => n | some e => n.say (.targetedFailed address e))
        (match e' with | none => m | some e => m.say (.targetedFailed address e)) := by
  rintro (rfl | unseen)
  · split
    · exact h
    · exact h.say _
  · obtain ⟨xs, k, notices, requests⟩ := h
    have dropped (ys : List Notice) (e : Failure) :
        (ys ++ [Notice.targetedFailed address e]).filterMap v.shows = ys.filterMap v.shows := by
      simp [unseen address e]
    split <;> split
    · exact ⟨xs, k, notices, requests⟩
    · exact ⟨_, k, (dropped xs _).trans notices, requests⟩
    · exact ⟨xs, k, notices.trans (dropped n.notices _).symm, requests⟩
    · exact ⟨_, k, (dropped xs _).trans (notices.trans (dropped n.notices _).symm), requests⟩

theorem onPresence (h : Alike v n m) {x y : Beacon} (same : v.Same x y) :
    Alike v (n.onPresence x) (m.onPresence y) := by
  have shown : ∀ c ∈ [Notice.presenceWhileStopping, .announcement, .departure, .presenceIgnored],
      Alike v (n.say (c x.event)) (m.say (c y.event)) :=
    fun c mem => h.say_of_shows (same.shown c mem)
  have told : Alike v (n.say (.announcement x.event)) (m.say (.announcement y.event)) :=
    shown _ (by simp)
  have uncounted : y.reply.refusal = x.reply.refusal ∨ v.counts = false :=
    same.refusal.imp_right And.left
  have live := h.congr Node.live fun _ _ => rfl
  have registry := h.congr Node.registry fun _ _ => rfl
  have binding := h.congr Node.binding fun _ _ => rfl
  unfold Node.onPresence
  dsimp only
  rw [live, registry, binding, same.result]
  split
  · exact h
  split
  · exact shown _ (by simp)
  cases x.event.result.classify with
  | departure => exact shown _ (by simp)
  | ignored => exact shown _ (by simp)
  | announcing =>
    cases n.binding with
    | none => exact h
    | some b =>
      have asked := told.requestDiscovery (some x.event.address) b x.reply y.reply same.candidates
        uncounted
      dsimp only
      rw [same.address]
      exact asked.note x.event.address (same.refusal.imp_right And.right)

theorem onBeacons (h : Alike v n m) {f : Beacon → Beacon} (same : ∀ x, v.Same x (f x))
    (xs : List Beacon) : Alike v (n.onBeacons xs) (m.onBeacons (xs.map f)) := by
  unfold Node.onBeacons
  rw [List.foldl_map]
  induction xs generalizing n m with
  | nil => exact h
  | cons x xs ih => exact ih (h.onPresence (same x))

theorem letGoOf (h : Alike v n m) {f : Beacon → Beacon} (same : ∀ x, v.Same x (f x)) (x : Handle)
    (reply : UnsubscribeReply) :
    Alike v (n.letGoOf x reply) (m.letGoOf x (reply.mapBeacons f)) := by
  have gone := h.update (fun n => { n with letGo := n.letGo ++ [x] }) fun _ _ _ => rfl
  have told := (gone.call (.unsubscribe x.number)).onBeacons same reply.beacons
  unfold Node.letGoOf
  dsimp only
  split
  · exact gone
  · cases refusal : reply.refusal with
    | none => simpa only [UnsubscribeReply.mapBeacons, refusal] using told
    | some e =>
      simpa only [UnsubscribeReply.mapBeacons, refusal] using told.say (.unsubscribeFailed e)

theorem closeDown (h : Alike v n m) {f : Beacon → Beacon} (same : ∀ x, v.Same x (f x))
    (reply : UnsubscribeReply) :
    Alike v (n.closeDown reply) (m.closeDown (reply.mapBeacons f)) := by
  have closed := h.update (fun n => { n with registry := n.registry.close, held := none })
    fun _ _ _ => rfl
  obtain ⟨xs, k, notices, requests⟩ := h
  unfold Node.closeDown Node.withdraw
  cases n.held with
  | none => exact closed
  | some x => exact closed.letGoOf same x reply

theorem hold (h : Alike v n m) {f : Beacon → Beacon} (same : ∀ x, v.Same x (f x)) (x : Handle)
    (reply : UnsubscribeReply) :
    Alike v (n.hold x reply) (m.hold x (reply.mapBeacons f)) := by
  have taken := h.update (fun n => { n with held := some x }) fun _ _ _ => rfl
  obtain ⟨xs, k, notices, requests⟩ := h
  unfold Node.hold
  cases n.held with
  | none => exact taken
  | some old => exact taken.letGoOf same old reply

theorem subscribing (h : Alike v n m) {f : Beacon → Beacon} (same : ∀ x, v.Same x (f x))
    (b : Binding) (reply : StartReply) :
    Alike v (n.subscribing b reply.subscribe) (m.subscribing b (reply.mapBeacons f).subscribe) :=
  (h.call (asking b)).onBeacons same reply.subscribe.beacons

theorem install (h : Alike v n m) {f : Beacon → Beacon} (same : ∀ x, v.Same x (f x)) (b : Binding)
    (active : Bool) (reply : StartReply) :
    Alike v (n.install b active reply) (m.install b active (reply.mapBeacons f)) := by
  have pending := h.subscribing same b reply
  have handle := pending.congr (nextHandle b active) fun _ _ => rfl
  unfold Node.install
  dsimp only
  rw [handle]
  have opened := pending.update (fun n =>
    { n with subscriptions := n.subscriptions + 1, registry := n.registry.reopen }) fun _ _ _ => rfl
  exact opened.hold same _ reply.replaced

theorem start (h : Alike v n m) {f : Beacon → Beacon} (same : ∀ x, v.Same x (f x))
    (reply : StartReply) :
    (m.start (reply.mapBeacons f)).1 = (n.start reply).1 ∧
      Alike v (n.start reply).2 (m.start (reply.mapBeacons f)).2 := by
  have binding := h.congr Node.binding fun _ _ => rfl
  cases bound : n.binding with
  | none =>
    simp only [Node.start, binding, bound, true_and]
    exact h
  | some b =>
    cases outcome : reply.subscribe.outcome with
    | error e =>
      have pending := h.subscribing same b reply
      have failed : (reply.mapBeacons f).subscribe.outcome = .error e := outcome
      simp only [Node.start, binding, bound, outcome, failed, true_and]
      exact pending.say (.subscriptionFailed e)
    | ok active =>
      have swept := (h.install same b active reply).requestDiscovery none b reply.sweep
        reply.sweep rfl (.inl rfl)
      have subscribed : (reply.mapBeacons f).subscribe.outcome = .ok active := outcome
      rw [start_of_subscribed bound outcome, start_of_subscribed (binding.trans bound) subscribed]
      have sweep : (reply.mapBeacons f).sweep = reply.sweep := rfl
      rw [sweep]
      cases reply.sweep.refusal with
      | none => exact ⟨rfl, swept.say (.started b.config.presenceAddress)⟩
      | some e =>
        have closed := (swept.say (.sweepFailed e)).closeDown same reply.withdrawn
        exact ⟨rfl, closed.drain_say .rolledBack⟩

theorem stop (h : Alike v n m) {f : Beacon → Beacon} (same : ∀ x, v.Same x (f x))
    (reply : UnsubscribeReply) : Alike v (n.stop reply) (m.stop (reply.mapBeacons f)) := by
  have closed := h.closeDown same reply
  have size := closed.congr (fun n => n.registry.size) fun _ _ => rfl
  unfold Node.stop
  dsimp only at size ⊢
  rw [size]
  exact closed.drain.say _

theorem shutRuntime (h : Alike v n m) (runtime : Nat) :
    Alike v (n.shutRuntime runtime) (m.shutRuntime runtime) := by
  have off := h.update (fun n => { n with shut := n.shut ++ [runtime] }) fun _ _ _ => rfl
  obtain ⟨xs, k, notices, requests⟩ := h
  exact off.foldl (fun id same => same.perform id Replica.dropTask) _

theorem attach (h : Alike v n m) (platform runtime : Nat) (config : Config) :
    Alike v (match n.attach platform runtime config with | .ok n => n | .error _ => n)
      (match m.attach platform runtime config with | .ok m => m | .error _ => m) := by
  have bound := h.update (fun n =>
    { n with binding := some ⟨platform, runtime, config, config.discoveryQuery⟩ }) fun _ _ _ => rfl
  have same := h
  obtain ⟨xs, k, notices, requests⟩ := h
  unfold Node.attach
  rcases config.validate with e | -
  · exact same
  by_cases busy : (n.held.isSome || !n.registry.isEmpty) = true
  · simp only [busy, if_true]
    exact same
  · simp only [busy]
    exact bound.say (.attached config)

theorem step (h : Alike v n m) {f : Beacon → Beacon} (same : ∀ x, v.Same x (f x)) (a : Action) :
    Alike v (n.step a) (m.step (a.mapBeacons f)) := by
  have live := h.congr Node.live fun _ _ => rfl
  cases a with
  | attach platform runtime config =>
    simp only [Node.step, Action.mapBeacons, live]
    split
    · exact h.attach platform runtime config
    · exact h
  | start reply =>
    simp only [Node.step, Action.mapBeacons, live]
    split
    · exact (h.start same reply).2
    · exact h
  | stop reply =>
    simp only [Node.step, Action.mapBeacons, live]
    split
    · exact h.stop same reply
    · exact h
  | presence callback x =>
    have given := h.congr Node.presenceCallbacks fun _ _ => rfl
    simp only [Node.step, Action.mapBeacons, given]
    split
    · exact h.onPresence (same x)
    · exact h
  | candidate callback d =>
    have given := h.congr Node.discoveryCallbacks fun _ _ => rfl
    simp only [Node.step, Action.mapBeacons, given]
    split
    · exact h.onCandidate d
    · exact h
  | handleSays active =>
    exact h.update (fun n => n.step (.handleSays active)) fun _ _ _ => rfl
  | turn id pick reply => exact h.perform id (Replica.turn pick reply)
  | answer id x => exact h.perform id fun r => (r.answer x, [])
  | push id e => exact h.perform id fun r => (r.push e, [])
  | endStream id => exact h.perform id fun r => (r.endStream, [])
  | shutRuntime runtime => exact h.shutRuntime runtime
  | activate id platform runtime => exact h.activate id platform runtime
  | teardown id => exact h.perform id fun r => r.teardown.2
  | abandon => exact h.update Node.abandon fun _ _ _ => rfl

theorem run (h : Alike v n m) {f : Beacon → Beacon} (same : ∀ x, v.Same x (f x))
    (actions : List Action) :
    Alike v (n.run actions) (m.run (actions.map (Action.mapBeacons f))) := by
  induction actions generalizing n m with
  | nil => exact h
  | cons a later ih => exact ih (h.step same a)

end Alike

theorem onPresence_of_no_candidates (n : Node) {x : Beacon}
    (empty : x.reply.candidates = []) :
    ∃ calls notices requests, n.onPresence x = { n with calls, notices, requests } := by
  unfold onPresence requestDiscovery
  dsimp only
  rw [empty]
  split
  · exact ⟨_, _, _, rfl⟩
  split
  · exact ⟨_, _, _, rfl⟩
  split
  · split
    · exact ⟨_, _, _, rfl⟩
    · split <;> split <;> exact ⟨_, _, _, rfl⟩
  · exact ⟨_, _, _, rfl⟩
  · exact ⟨_, _, _, rfl⟩

/-- The requests of a run, with the refused ones, are those that its occasions ask for. Neither the
numbers of events nor the failures of requests that they lead to make any other difference than in
the record, and an event that brings no candidates makes no other difference at all. -/
theorem requests_determined (actions : List Action) :
    (run {} actions).outlook = (occasionsBy {} actions).foldl Outlook.meet {} ∧
    (∀ (n : Node) (x : Beacon), x.reply.candidates = [] →
      ∃ calls notices requests, n.onPresence x = { n with calls, notices, requests }) ∧
    (∀ number, Alike .unnumbered (run {} actions)
      (run {} (actions.map (.mapBeacons (.numbered number))))) ∧
    ∀ refusal, Alike .unrefused (run {} actions)
        (run {} (actions.map (.mapBeacons (.answered refusal)))) ∧
      ∀ reply, ((run {} actions).start (reply.mapBeacons (.answered refusal))).1 =
        ((run {} actions).start reply).1 := by
  have queryKept : QueryKept {} := ⟨nofun, .inl rfl⟩
  refine ⟨outlook_run orderly_initial queryKept actions, ?_, ?_, ?_⟩
  · intro n x empty
    exact onPresence_of_no_candidates n empty
  · intro number
    exact (Alike.refl _ _).run (View.same_numbered number) actions
  · intro refusal
    refine ⟨(Alike.refl _ _).run (View.same_answered refusal) actions, ?_⟩
    intro reply
    exact ((Alike.refl .unrefused _).start (View.same_answered refusal) reply).1

/-- A device announces itself before the first subscription is granted, with a request that is
refused; an unknown result with the number of a named one comes too. Then the node is bound to
another platform and another type, and the device announces itself through the old callback. -/
def rebound : List Action :=
  [.attach 0 0 {},
   .start { subscribe := { beacons := [{ event := { result := .ok, address := "n" }
                                         reply := { refusal := some (.platform 1 "x") } },
                                       { event := { result := .unknown 0, address := "n" } }]
                           outcome := .ok true } },
   .stop {},
   .presence 0 { event := { result := .ok, address := "n" } },
   .attach 1 1 { resourceType := "t" },
   .start { subscribe := { outcome := .ok true } },
   .presence 0 { event := { result := .continue, sequence := 7, address := "n" } }]

theorem requests_determined_rebound :
    (run {} rebound).asked =
      [(0, some "n", "/oic/res?rt=Resource.Hosting", .default),
       (0, none, "/oic/res?rt=Resource.Hosting", .default),
       (1, none, "/oic/res?rt=t", .default), (1, some "n", "/oic/res?rt=t", .default)] := by
  have asked := congrArg Outlook.asked (requests_determined rebound).1
  exact asked.trans (by decide +kernel)

end Node

end ReplicaHosting

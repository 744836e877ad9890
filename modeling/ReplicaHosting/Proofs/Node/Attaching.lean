import ReplicaHosting.Node.Outlook
import ReplicaHosting.Proofs.Node.Order
import ReplicaHosting.Proofs.Node.Record

/-! Attaching is all or nothing. A node takes a new binding if the configuration is faultless and
the node is idle, and nothing else of it changes; otherwise it stays as it is. From then on, up to
the next binding, it speaks to its collaborators in the words of this configuration alone. -/
namespace ReplicaHosting

/-- A call is made to this platform and as this configuration has it. Calls that give something up
or that a replica makes to its origin go back to earlier times, and are not judged. -/
def Call.Accords (platform : Nat) (c : Config) : Call → Prop
  | subscribe p address scope =>
    p = platform ∧ address = c.presenceAddress ∧ scope = c.connectivity
  | discover p _ query scope =>
    p = platform ∧ query = c.discoveryUri ++ "?rt=" ++ c.resourceType ∧ scope = c.connectivity
  | unsubscribe _ | watch _ _ _ => True

structure Binding.Fits (platform : Nat) (c : Config) (b : Binding) : Prop where
  platform : b.platform = platform
  config : b.config = c
  query : b.query = c.discoveryUri ++ "?rt=" ++ c.resourceType

namespace Node

variable {platform runtime : Nat} {c : Config} {b : Binding} {n m k : Node}

/-! ## What is said to collaborators -/

/-- No other binding has been made, and all calls that have come in the meantime accord. -/
structure CallsAccord (platform : Nat) (c : Config) (n m : Node) : Prop where
  binding : ∀ b, m.binding = some b → n.binding = some b
  calls : ∃ new, m.calls = n.calls ++ new ∧ ∀ x ∈ new, x.Accords platform c

def IsBoundTo (platform : Nat) (c : Config) (n : Node) : Prop :=
  ∀ b, n.binding = some b → b.Fits platform c

theorem CallsAccord.boundTo (h : CallsAccord platform c n m) (bound : n.IsBoundTo platform c) :
    m.IsBoundTo platform c := fun b own => bound b (h.binding b own)

theorem callsAccord_of_same (binding : m.binding = n.binding) (calls : m.calls = n.calls) :
    CallsAccord platform c n m :=
  ⟨fun _ own => binding ▸ own, [], by rw [calls, List.append_nil], by simp⟩

theorem callsAccord_self (n : Node) : CallsAccord platform c n n := callsAccord_of_same rfl rfl

theorem CallsAccord.trans (first : CallsAccord platform c n m)
    (second : CallsAccord platform c m k) : CallsAccord platform c n k := by
  obtain ⟨xs, before, accord⟩ := first.calls
  obtain ⟨ys, after, accord'⟩ := second.calls
  refine ⟨fun b own => first.binding b (second.binding b own), xs ++ ys, ?_, ?_⟩
  · rw [after, before, List.append_assoc]
  · intro x mem
    rcases List.mem_append.mp mem with old | new
    · exact accord x old
    · exact accord' x new

theorem callsAccord_call {x : Call} (accords : x.Accords platform c) (n : Node) :
    CallsAccord platform c n (n.call x) := by
  refine ⟨fun _ own => own, [x], rfl, ?_⟩
  intro y mem
  rw [List.mem_singleton.mp mem]
  exact accords

theorem callsAccord_foldl {α : Type} {f : Node → α → Node}
    (each : ∀ n a, CallsAccord platform c n (f n a))
    (as : List α) (n : Node) : CallsAccord platform c n (as.foldl f n) := by
  induction as generalizing n with
  | nil => exact callsAccord_self n
  | cons a as ih => exact (each n a).trans (ih (f n a))

theorem callsAccord_perform (n : Node) (id : ReplicaId) (act : Replica → Replica × List Effect) :
    CallsAccord platform c n (n.perform id act) := by
  cases found : n.replica? id with
  | none =>
    rw [perform_of_absent found]
    exact callsAccord_self n
  | some r =>
    have same := (n.onlyShrinks_perform id act).binding
    refine ⟨fun b own => same ▸ own, _, (logs_perform found act).calls, ?_⟩
    intro x mem
    obtain ⟨p, -, rfl⟩ := List.mem_map.mp mem
    trivial

theorem callsAccord_activate (n : Node) (id : ReplicaId) (p runtime : Nat) :
    CallsAccord platform c n (n.activate id p runtime) := by
  have started : CallsAccord platform c n (n.perform id fun r => (r.activate p runtime).2) :=
    callsAccord_perform n id _
  unfold activate
  dsimp only
  split
  · exact started.trans (callsAccord_perform _ id Replica.dropTask)
  · exact started

theorem callsAccord_onCandidate (n : Node) (d : Descriptor) :
    CallsAccord platform c n (n.onCandidate d) := by
  rcases onCandidate_cases d n with same | ⟨x, said⟩ | ⟨b, id, registry, -, -, -, -, taken⟩
  · rw [same]
    exact callsAccord_self n
  · rw [said]
    exact callsAccord_of_same rfl rfl
  · rw [taken]
    have enlisted : CallsAccord platform c n (n.enlist b d id registry) :=
      callsAccord_of_same rfl rfl
    exact enlisted.trans (callsAccord_activate _ id b.platform b.runtime)

theorem callsAccord_requestDiscovery (fits : b.Fits platform c) (host : Option String)
    (reply : DiscoveryReply) (n : Node) :
    CallsAccord platform c n (n.requestDiscovery host b reply) := by
  have said : CallsAccord platform c n (n.say (.discoveryRequested host b.query)) :=
    callsAccord_of_same rfl rfl
  have asked :=
    said.trans (callsAccord_call (x := .discover b.platform host b.query b.config.connectivity)
    ⟨fits.platform, fits.query, by rw [fits.config]⟩ _)
  have answered := asked.trans (callsAccord_foldl callsAccord_onCandidate reply.candidates _)
  unfold requestDiscovery
  dsimp only
  split
  · exact answered
  · exact answered.trans (callsAccord_of_same rfl rfl)

theorem IsBoundTo.callsAccord_onPresence (bound : n.IsBoundTo platform c) (x : Beacon) :
    CallsAccord platform c n (n.onPresence x) := by
  have said (y : Notice) : CallsAccord platform c n (n.say y) := callsAccord_of_same rfl rfl
  unfold onPresence
  dsimp only
  split
  · exact callsAccord_self n
  split
  · exact said _
  split
  · split
    · exact callsAccord_self n
    · rename_i b own
      have asked := (said (.announcement x.event)).trans
        (callsAccord_requestDiscovery (bound b own) (some x.event.address) x.reply _)
      split
      · exact asked
      · exact asked.trans (callsAccord_of_same rfl rfl)
  · exact said _
  · exact said _

theorem IsBoundTo.callsAccord_onBeacons (bound : n.IsBoundTo platform c) (xs : List Beacon) :
    CallsAccord platform c n (n.onBeacons xs) := by
  induction xs generalizing n with
  | nil => exact callsAccord_self n
  | cons x xs ih =>
    have first := bound.callsAccord_onPresence x
    exact first.trans (ih (first.boundTo bound))

theorem IsBoundTo.callsAccord_letGoOf (bound : n.IsBoundTo platform c) (h : Handle)
    (reply : UnsubscribeReply) : CallsAccord platform c n (n.letGoOf h reply) := by
  have gone : CallsAccord platform c n { n with letGo := n.letGo ++ [h] } :=
    callsAccord_of_same rfl rfl
  have told := gone.trans (callsAccord_call (x := .unsubscribe h.number) trivial _)
  have heard := told.trans (IsBoundTo.callsAccord_onBeacons (told.boundTo bound) reply.beacons)
  unfold letGoOf
  dsimp only
  split
  · exact gone
  · split
    · exact heard
    · exact heard.trans (callsAccord_of_same rfl rfl)

theorem IsBoundTo.callsAccord_closeDown (bound : n.IsBoundTo platform c)
    (reply : UnsubscribeReply) : CallsAccord platform c n (n.closeDown reply) := by
  unfold closeDown withdraw
  split
  · exact callsAccord_of_same rfl rfl
  · rename_i h held
    have bound' :
      IsBoundTo platform c { n with registry := n.registry.close, held := none } := bound
    have opened : CallsAccord platform c n { n with registry := n.registry.close, held := none } :=
      callsAccord_of_same rfl rfl
    exact opened.trans (bound'.callsAccord_letGoOf h reply)

theorem callsAccord_drain (n : Node) : CallsAccord platform c n n.drain := by
  have emptied : CallsAccord platform c n { n with registry := n.registry.clear } :=
    callsAccord_of_same rfl rfl
  have each (n : Node) (id : ReplicaId) :
      CallsAccord platform c n (n.perform id fun r => r.teardown.2) := n.callsAccord_perform id _
  exact emptied.trans (callsAccord_foldl each n.registry.ids _)

theorem IsBoundTo.callsAccord_drained (bound : n.IsBoundTo platform c) (reply : UnsubscribeReply)
    (x : Notice) : CallsAccord platform c n ((n.closeDown reply).drain.say x) :=
  ((bound.callsAccord_closeDown reply).trans (callsAccord_drain _)).trans
    (callsAccord_of_same rfl rfl)

theorem IsBoundTo.callsAccord_hold (bound : n.IsBoundTo platform c) (h : Handle)
    (reply : UnsubscribeReply) : CallsAccord platform c n (n.hold h reply) := by
  have taken : CallsAccord platform c n { n with held := some h } := callsAccord_of_same rfl rfl
  unfold hold
  split
  · exact taken
  · exact taken.trans (IsBoundTo.callsAccord_letGoOf (taken.boundTo bound) _ reply)

theorem IsBoundTo.callsAccord_start (bound : n.IsBoundTo platform c) (reply : StartReply) :
    CallsAccord platform c n (n.start reply).2 := by
  unfold start
  split
  · exact callsAccord_self n
  · rename_i b own
    have fits := bound b own
    have asked := callsAccord_call (x := .subscribe b.platform b.config.presenceAddress
      b.config.connectivity) ⟨fits.platform, by rw [fits.config], by rw [fits.config]⟩ n
    have pending := asked.trans
      (IsBoundTo.callsAccord_onBeacons (asked.boundTo bound) reply.subscribe.beacons)
    dsimp only
    split
    · exact pending.trans (callsAccord_of_same rfl rfl)
    · have opened (m : Node) : CallsAccord platform c m
          { m with subscriptions := m.subscriptions + 1, registry := m.registry.reopen } :=
        callsAccord_of_same rfl rfl
      have renewed := pending.trans (opened _)
      have held (h : Handle) := renewed.trans
        (IsBoundTo.callsAccord_hold (renewed.boundTo bound) h reply.replaced)
      have swept (h : Handle) :=
        (held h).trans (callsAccord_requestDiscovery fits none reply.sweep _)
      split
      · exact (swept _).trans (callsAccord_of_same rfl rfl)
      · rename_i e refused
        have failed (m : Node) : CallsAccord platform c m (m.say (.sweepFailed e)) :=
          callsAccord_of_same rfl rfl
        have said (h : Handle) := (swept h).trans (failed _)
        exact (said _).trans
          (IsBoundTo.callsAccord_drained ((said _).boundTo bound) reply.withdrawn _)

theorem IsBoundTo.callsAccord_step (bound : n.IsBoundTo platform c) {a : Action}
    (kept : ∀ p c', .attached p c' ∉ n.occasions a) : CallsAccord platform c n (n.step a) := by
  cases a with
  | attach p runtime c' =>
    simp only [step]
    split
    · rename_i live
      split
      · rename_i m attached
        have bound_anew : Occasion.attached p c' ∈ n.occasions (.attach p runtime c') := by
          simp [occasions, live, attached]
        exact absurd bound_anew (kept p c')
      · exact callsAccord_self n
    · exact callsAccord_self n
  | start reply =>
    simp only [step]
    split
    · exact bound.callsAccord_start reply
    · exact callsAccord_self n
  | stop reply =>
    simp only [step]
    split
    · exact bound.callsAccord_drained reply _
    · exact callsAccord_self n
  | presence callback x =>
    simp only [step]
    split
    · exact bound.callsAccord_onPresence x
    · exact callsAccord_self n
  | candidate callback d =>
    simp only [step]
    split
    · exact n.callsAccord_onCandidate d
    · exact callsAccord_self n
  | handleSays active => exact callsAccord_of_same rfl rfl
  | turn id pick reply => exact n.callsAccord_perform id _
  | answer id x => exact n.callsAccord_perform id fun r => (r.answer x, [])
  | push id e => exact n.callsAccord_perform id fun r => (r.push e, [])
  | endStream id => exact n.callsAccord_perform id fun r => (r.endStream, [])
  | shutRuntime runtime =>
    have off : CallsAccord platform c n { n with shut := n.shut ++ [runtime] } :=
      callsAccord_of_same rfl rfl
    exact off.trans (callsAccord_foldl (fun n id => n.callsAccord_perform id Replica.dropTask) _ _)
  | activate id p runtime => exact n.callsAccord_activate id p runtime
  | teardown id => exact n.callsAccord_perform id _
  | abandon =>
    refine ⟨?_, [], (List.append_nil _).symm, by simp⟩
    intro b own
    cases own

theorem IsBoundTo.callsAccord_run (bound : n.IsBoundTo platform c) {later : List Action}
    (kept : ∀ p c', .attached p c' ∉ n.occasionsBy later) :
    CallsAccord platform c n (n.run later) := by
  induction later generalizing n with
  | nil => exact callsAccord_self n
  | cons a later ih =>
    have first : CallsAccord platform c n (n.step a) := bound.callsAccord_step fun p c' mem =>
      kept p c' (List.mem_append_left _ mem)
    exact first.trans (ih (first.boundTo bound) fun p c' mem =>
      kept p c' (List.mem_append_right _ mem))

/-! ## The gate -/

/-- No handle is held, whatever it says of itself, and nothing is hosted. -/
def IsIdleSession (n : Node) : Prop := n.held = none ∧ n.registry.entries = []

def bindTo (platform runtime : Nat) (c : Config) (n : Node) : Node :=
  { n with binding := some { platform, runtime, config := c, query := c.discoveryQuery }
           notices := n.notices ++ [.attached c] }

theorem attach_cases (n : Node) (platform runtime : Nat) (c : Config) :
    (∃ f, c.fault? = some f ∧
      n.attach platform runtime c = .error (.invalidArgument f.message)) ∨
    (c.fault? = none ∧ ¬n.IsIdleSession ∧ n.attach platform runtime c = .error activeHosting) ∨
    (c.fault? = none ∧ n.IsIdleSession ∧
      n.attach platform runtime c = .ok (n.bindTo platform runtime c)) := by
  unfold attach Config.validate
  cases fault : c.fault? with
  | some f => exact .inl ⟨f, rfl, rfl⟩
  | none =>
    right
    cases busy : n.held.isSome || !n.registry.isEmpty with
    | true =>
      refine .inl ⟨rfl, ?_, if_pos rfl⟩
      rintro ⟨unheld, empty⟩
      simp [unheld, Registry.isEmpty, empty] at busy
    | false =>
      refine .inr ⟨rfl, ?_, rfl⟩
      simpa [IsIdleSession, Registry.isEmpty] using busy

theorem attachable_iff :
    (∃ m, n.attach platform runtime c = .ok m) ↔ c.fault? = none ∧ n.IsIdleSession := by
  rcases n.attach_cases platform runtime c with ⟨f, fault, refused⟩ | ⟨sound, busy, refused⟩ |
    ⟨sound, idle, bound⟩
  · simp [refused, fault]
  · simp [refused, busy]
  · simp [bound, sound, idle]

theorem attach_blames {e : Failure} (refused : n.attach platform runtime c = .error e) :
    (∃ f, c.fault? = some f ∧ e = .invalidArgument f.message) ∨
      c.fault? = none ∧ e = activeHosting := by
  rcases n.attach_cases platform runtime c with ⟨f, fault, was⟩ | ⟨sound, -, was⟩ | ⟨-, -, was⟩
  · exact .inl ⟨f, fault, Except.error.inj (refused.symm.trans was)⟩
  · exact .inr ⟨sound, Except.error.inj (refused.symm.trans was)⟩
  · cases refused.symm.trans was

theorem bindTo_of_attach (bound : n.attach platform runtime c = .ok m) :
    m = n.bindTo platform runtime c := by
  rcases n.attach_cases platform runtime c with ⟨f, -, was⟩ | ⟨-, -, was⟩ | ⟨-, -, was⟩
  · cases bound.symm.trans was
  · cases bound.symm.trans was
  · exact Except.ok.inj (bound.symm.trans was)

theorem isBoundTo_bindTo (n : Node) : IsBoundTo platform c (n.bindTo platform runtime c) := by
  rintro b ⟨⟩
  exact ⟨rfl, rfl, rfl⟩

/-- In every state, an attachment succeeds exactly if the configuration is faultless and the node
holds no handle and hosts nothing; a faulty configuration is reported before a busy node, and both
as an invalid argument. A refused attachment changes nothing. One that succeeds changes the binding
alone, the query among it, and all calls up to the next binding are made by it. -/
theorem attach_gated (actions : List Action) (platform runtime : Nat) (c : Config) :
    let n := run {} actions
    ((∃ m, n.attach platform runtime c = .ok m) ↔
      (∃ x ∈ c.presenceAddress.toList, Text.isBlank x = false) ∧
      (∃ x ∈ c.resourceType.toList, Text.isBlank x = false) ∧
      c.discoveryUri.toList.head? = some '/' ∧ n.held = none ∧ n.registry.entries = []) ∧
    (∀ e, n.attach platform runtime c = .error e →
      e.kind = .invalidArgument ∧
      (∀ f, c.fault? = some f → e = .invalidArgument f.message) ∧
      (c.fault? = none → e = activeHosting) ∧
      n.step (.attach platform runtime c) = n) ∧
    (∀ m, n.attach platform runtime c = .ok m →
      m = { n with binding := some { platform, runtime, config := c, query := c.discoveryQuery }
                   notices := n.notices ++ [.attached c] } ∧
      n.step (.attach platform runtime c) = (if n.live then m else n) ∧
      ∀ later, (∀ p c', .attached p c' ∉ m.occasionsBy later) →
        ∃ new, (m.run later).calls = n.calls ++ new ∧ ∀ x ∈ new, x.Accords platform c) := by
  intro n
  refine ⟨?_, ?_, ?_⟩
  · rw [attachable_iff, Config.fault?_eq_none_iff, IsIdleSession]
    constructor
    · rintro ⟨⟨listens, rooted, seeks⟩, idle⟩
      exact ⟨listens, seeks, rooted, idle⟩
    · rintro ⟨listens, seeks, rooted, idle⟩
      exact ⟨⟨listens, rooted, seeks⟩, idle⟩
  · intro e refused
    have same : n.step (.attach platform runtime c) = n := by simp [step, refused]
    rcases attach_blames refused with ⟨f, fault, rfl⟩ | ⟨sound, rfl⟩
    · exact ⟨rfl, by simp [fault], by simp [fault], same⟩
    · exact ⟨rfl, by simp [sound], fun _ => rfl, same⟩
  · intro m bound
    have anew : m = n.bindTo platform runtime c := bindTo_of_attach bound
    refine ⟨anew, by simp [step, bound], fun later kept => ?_⟩
    have own : m.IsBoundTo platform c := anew ▸ isBoundTo_bindTo n
    have unsaid : m.calls = n.calls := by rw [anew, bindTo]
    exact unsaid ▸ (own.callsAccord_run kept).calls

end Node

end ReplicaHosting

import Mathlib.Logic.Relation
import ReplicaHosting.Node.Run
import ReplicaHosting.Proofs.Node.Perform

/-! The small changes that every step of a node is made of. What each of them keeps, a whole run
keeps, whatever the collaborators do while a step goes on: they can only cause more changes of the
same kinds. An admission and the emptying of the registry are one change each, since a node is not
at rest in the midst of them. -/
namespace ReplicaHosting

/-- Whether an action leaves the node to itself: nobody starts or tears down a replica behind its
back, and somebody goes on holding it. -/
def Action.isRegular : Action → Bool
  | .activate _ _ _ | .teardown _ | .abandon => false
  | _ => true

namespace Node

def enlist (b : Binding) (d : Descriptor) (id : ReplicaId) (registry : Registry) (n : Node) :
    Node :=
  ({ n with registry }.adopt (Replica.make id d (.release (b.config.dedupKey d)))).say
    (.hosted id d)

def takeIn (b : Binding) (d : Descriptor) (id : ReplicaId) (registry : Registry) (n : Node) :
    Node :=
  (n.enlist b d id registry).perform id fun r => (r.activate b.platform b.runtime).2

inductive Shift : Node → Node → Prop where
  | say (n : Node) (x : Notice) : Shift n (n.say x)
  | call (n : Node) (c : Call) (own : ∀ id platform d, c ≠ .watch id platform d) :
      Shift n (n.call c)
  | subscribed (n : Node) : Shift n { n with subscriptions := n.subscriptions + 1 }
  | accepted (n : Node) : Shift n { n with requests := n.requests + 1 }
  | letGo (n : Node) (h : Handle) : Shift n { n with letGo := n.letGo ++ [h] }
  | hold (n : Node) (h : Option Handle) : Shift n { n with held := h }
  | shut (n : Node) (runtime : Nat) : Shift n { n with shut := n.shut ++ [runtime] }
  | close (n : Node) : Shift n { n with registry := n.registry.close }
  | reopen (n : Node) : Shift n { n with registry := n.registry.reopen }
  | bind (n : Node) (b : Binding) (unheld : n.held = none) (empty : n.registry.entries = []) :
      Shift n { n with binding := some b }
  | takeIn (n : Node) (b : Binding) (d : Descriptor) (id : ReplicaId) (registry : Registry)
      (live : n.live = true) (tagged : d.isHostable = true) (bound : n.binding = some b)
      (admitted : n.registry.enroll (b.config.dedupKey d) = (.admitted id, registry)) :
      Shift n (n.takeIn b d id registry)
  | act (n : Node) (id : ReplicaId) {a : Replica → Replica × List Effect} (own : Replica.Act a) :
      Shift n (n.perform id a)
  | drain (n : Node) : Shift n n.drain

abbrev Shifts : Node → Node → Prop := Relation.ReflTransGen Shift

theorem Shift.once {n m : Node} (h : Shift n m) : Shifts n m := Relation.ReflTransGen.single h

theorem shifts_refl (n : Node) : Shifts n n := Relation.ReflTransGen.refl

theorem Shifts.keeps {P : Node → Prop} (kept : ∀ {n m : Node}, Shift n m → P n → P m)
    {n m : Node} (h : Shifts n m) (start : P n) : P m := by
  induction h with
  | refl => exact start
  | tail _ last ih => exact kept last ih

theorem Shift.live {n m : Node} (h : Shift n m) : m.live = n.live := by
  cases h with
  | takeIn b d id registry live tagged bound admitted => exact (onlyShrinks_perform _ id _).live
  | act id own => exact (n.onlyShrinks_perform id _).live
  | drain => exact (onlyShrinks_teardownAll _ _).live
  | _ => rfl

theorem Shifts.live {n m : Node} (h : Shifts n m) : m.live = n.live := by
  induction h with
  | refl => rfl
  | tail _ last ih => exact last.live.trans ih

theorem shifts_foldl {α : Type} {f : Node → α → Node} (each : ∀ n a, Shifts n (f n a))
    (as : List α) (n : Node) : Shifts n (as.foldl f n) := by
  induction as generalizing n with
  | nil => exact shifts_refl n
  | cons a as ih => exact (each n a).trans (ih (f n a))

/-- The changes that candidates and presence events make. A task is given up at once where the
runtime that is bound has been shut down. -/
inductive Reaction : Node → Node → Prop where
  | say (n : Node) (x : Notice) : Reaction n (n.say x)
  | ask (n : Node) (b : Binding) (host : Option String) :
      Reaction n (n.call (.discover b.platform host b.query b.config.connectivity))
  | accepted (n : Node) : Reaction n { n with requests := n.requests + 1 }
  | takeIn (n : Node) (b : Binding) (d : Descriptor) (id : ReplicaId) (registry : Registry)
      (live : n.live = true) (tagged : d.isHostable = true) (bound : n.binding = some b)
      (admitted : n.registry.enroll (b.config.dedupKey d) = (.admitted id, registry)) :
      Reaction n (n.takeIn b d id registry)
  | giveUp (n : Node) (b : Binding) (id : ReplicaId) (bound : n.binding = some b)
      (off : b.runtime ∈ n.shut) : Reaction n (n.perform id Replica.dropTask)

abbrev Reactions : Node → Node → Prop := Relation.ReflTransGen Reaction

theorem Reaction.once {n m : Node} (h : Reaction n m) : Reactions n m :=
  Relation.ReflTransGen.single h

theorem reactions_refl (n : Node) : Reactions n n := Relation.ReflTransGen.refl

theorem Reaction.shift {n m : Node} (h : Reaction n m) : Shift n m := by
  cases h with
  | say x => exact .say n x
  | ask b host => exact .call n _ nofun
  | accepted => exact .accepted n
  | takeIn b d id registry live tagged bound admitted =>
    exact .takeIn n b d id registry live tagged bound admitted
  | giveUp b id bound off => exact .act n id .dropTask

theorem Reactions.shifts {n m : Node} (h : Reactions n m) : Shifts n m := by
  induction h with
  | refl => exact shifts_refl n
  | tail _ last ih => exact ih.tail last.shift

theorem reactions_foldl {α : Type} {f : Node → α → Node} (each : ∀ n a, Reactions n (f n a))
    (as : List α) (n : Node) : Reactions n (as.foldl f n) := by
  induction as generalizing n with
  | nil => exact reactions_refl n
  | cons a as ih => exact (each n a).trans (ih (f n a))

theorem onCandidate_cases (d : Descriptor) (n : Node) :
    n.onCandidate d = n ∨ (∃ x, n.onCandidate d = n.say x) ∨
      ∃ b id registry, n.live = true ∧ d.isHostable = true ∧ n.binding = some b ∧
        n.registry.enroll (b.config.dedupKey d) = (.admitted id, registry) ∧
        n.onCandidate d = (n.enlist b d id registry).activate id b.platform b.runtime := by
  unfold onCandidate
  split
  · exact .inl rfl
  · rename_i live
    split
    · exact .inr (.inl ⟨_, rfl⟩)
    · rename_i tagged
      split
      · exact .inl rfl
      · rename_i b bound
        dsimp only
        split
        · rename_i id registry admitted
          exact .inr (.inr ⟨b, id, registry, by simpa using live, by simpa using tagged, bound,
            admitted, rfl⟩)
        · exact .inr (.inl ⟨_, rfl⟩)
        · exact .inr (.inl ⟨_, rfl⟩)

theorem reactions_onCandidate (d : Descriptor) (n : Node) : Reactions n (n.onCandidate d) := by
  rcases onCandidate_cases d n with same | ⟨x, said⟩ |
    ⟨b, id, registry, live, tagged, bound, admitted, taken⟩
  · rw [same]
  · rw [said]
    exact (Reaction.say n x).once
  · have first := (Reaction.takeIn n b d id registry live tagged bound admitted).once
    have onlyShrinks := onlyShrinks_perform (n.enlist b d id registry) id
      fun r => (r.activate b.platform b.runtime).2
    rw [taken]
    unfold activate
    dsimp only
    split
    · rename_i lost
      exact first.tail (Reaction.giveUp _ b id (onlyShrinks.binding.trans bound) lost.2)
    · exact first

theorem reactions_requestDiscovery (host : Option String) (b : Binding) (reply : DiscoveryReply)
    (n : Node) : Reactions n (n.requestDiscovery host b reply) := by
  have asked : Reactions n ((n.say (.discoveryRequested host b.query)).call
      (.discover b.platform host b.query b.config.connectivity)) :=
    (Reaction.say n _).once.tail (Reaction.ask _ b host)
  have delivered := asked.trans
    (reactions_foldl (fun n d => reactions_onCandidate d n) reply.candidates _)
  unfold requestDiscovery
  dsimp only
  split
  · exact delivered
  · exact delivered.tail (Reaction.accepted _)

theorem reactions_onPresence (x : Beacon) (n : Node) : Reactions n (n.onPresence x) := by
  unfold onPresence
  dsimp only
  split
  · exact reactions_refl n
  · split
    · exact (Reaction.say n _).once
    · split
      · split
        · exact reactions_refl n
        · have asked {b : Binding} := (Reaction.say n (.announcement x.event)).once.trans
            (reactions_requestDiscovery (some x.event.address) b x.reply _)
          split
          · exact asked
          · exact asked.tail (Reaction.say _ _)
      · exact (Reaction.say n _).once
      · exact (Reaction.say n _).once

theorem reactions_onBeacons (xs : List Beacon) (n : Node) : Reactions n (n.onBeacons xs) :=
  reactions_foldl (fun n x => reactions_onPresence x n) xs n

theorem shifts_letGoOf (h : Handle) (reply : UnsubscribeReply) (n : Node) :
    Shifts n (n.letGoOf h reply) := by
  have gone := (Shift.letGo n h).once
  unfold letGoOf
  dsimp only
  split
  · exact gone
  · have told := (gone.tail (Shift.call _ (.unsubscribe h.number) nofun)).trans
      (reactions_onBeacons reply.beacons _).shifts
    split
    · exact told
    · exact told.tail (Shift.say _ _)

theorem shifts_closeDown (reply : UnsubscribeReply) (n : Node) : Shifts n (n.closeDown reply) := by
  have closed := (Shift.close n).once
  unfold closeDown withdraw
  split
  · exact closed
  · exact (closed.tail (Shift.hold _ none)).trans (shifts_letGoOf _ reply _)

theorem shifts_drained (reply : UnsubscribeReply) (x : Notice) (n : Node) :
    Shifts n ((n.closeDown reply).drain.say x) :=
  ((shifts_closeDown reply n).tail (Shift.drain _)).tail (Shift.say _ x)

theorem attach_ok {platform runtime : Nat} {config : Config} {n m : Node}
    (h : n.attach platform runtime config = .ok m) :
    n.held = none ∧ n.registry.entries = [] ∧
      ∃ b x, m = { n with binding := some b }.say x := by
  unfold attach at h
  split at h
  · cases h
  · split at h
    · cases h
    · rename_i free
      cases h
      simp only [Bool.or_eq_true, not_or, Bool.not_eq_true, Option.isSome_eq_false_iff,
        Option.isNone_iff_eq_none, Bool.not_eq_false', Registry.isEmpty, List.isEmpty_iff] at free
      exact ⟨free.1, free.2, _, _, rfl⟩

theorem step_attach (n : Node) (platform runtime : Nat) (config : Config) :
    n.step (.attach platform runtime config) = n ∨
      n.held = none ∧ n.registry.entries = [] ∧
        ∃ b x, n.step (.attach platform runtime config) = { n with binding := some b }.say x := by
  simp only [step]
  split
  · split
    · rename_i m attached
      exact .inr (attach_ok attached)
    · exact .inl rfl
  · exact .inl rfl

theorem shifts_hold (h : Handle) (reply : UnsubscribeReply) (n : Node) :
    Shifts n (n.hold h reply) := by
  have taken := (Shift.hold n (some h)).once
  unfold hold
  split
  · exact taken
  · exact taken.trans (shifts_letGoOf _ reply _)

theorem shifts_start (reply : StartReply) (n : Node) : Shifts n (n.start reply).2 := by
  unfold start
  split
  · exact shifts_refl n
  · rename_i b bound
    have asked := (Shift.call n
      (.subscribe b.platform b.config.presenceAddress b.config.connectivity) nofun).once.trans
      (reactions_onBeacons reply.subscribe.beacons _).shifts
    dsimp only
    split
    · exact asked.tail (Shift.say _ _)
    · have opened := (asked.tail (Shift.subscribed _)).tail (Shift.reopen _)
      have swept {h : Handle} := (opened.trans (shifts_hold h reply.replaced _)).trans
        (reactions_requestDiscovery none b reply.sweep _).shifts
      split
      · exact swept.tail (Shift.say _ _)
      · exact (swept.tail (Shift.say _ _)).trans (shifts_drained reply.withdrawn _ _)

theorem shifts_stop (reply : UnsubscribeReply) (n : Node) : Shifts n (n.stop reply) :=
  shifts_drained reply _ n

theorem shifts_shutRuntime (runtime : Nat) (n : Node) : Shifts n (n.shutRuntime runtime) :=
  (Shift.shut n runtime).once.trans
    (shifts_foldl (fun _ id => (Shift.act _ id .dropTask).once) _ _)

theorem shifts_step (n : Node) {a : Action} (regular : a.isRegular = true) :
    Shifts n (n.step a) := by
  cases a with
  | attach platform runtime config =>
    rcases n.step_attach platform runtime config with same | ⟨unheld, empty, b, x, bound⟩
    · rw [same]
    · rw [bound]
      exact (Shift.bind n b unheld empty).once.tail (Shift.say _ x)
  | start reply =>
    simp only [step]
    split
    · exact shifts_start reply n
    · exact shifts_refl n
  | stop reply =>
    simp only [step]
    split
    · exact shifts_stop reply n
    · exact shifts_refl n
  | presence callback x =>
    simp only [step]
    split
    · exact (reactions_onPresence x n).shifts
    · exact shifts_refl n
  | candidate callback d =>
    simp only [step]
    split
    · exact (reactions_onCandidate d n).shifts
    · exact shifts_refl n
  | handleSays active => exact (Shift.hold n _).once
  | turn id pick reply => exact (Shift.act n id (.turn pick reply)).once
  | answer id x => exact (Shift.act n id (.answer x)).once
  | push id e => exact (Shift.act n id (.push e)).once
  | endStream id => exact (Shift.act n id .endStream).once
  | shutRuntime runtime => exact shifts_shutRuntime runtime n
  | activate id platform runtime => cases regular
  | teardown id => cases regular
  | abandon => cases regular

theorem shifts_run (n : Node) (actions : List Action)
    (regular : ∀ a ∈ actions, a.isRegular = true) : Shifts n (n.run actions) := by
  induction actions generalizing n with
  | nil => exact shifts_refl n
  | cons a actions ih =>
    have first := n.shifts_step (regular a List.mem_cons_self)
    exact first.trans (ih (n.step a) (fun b hb => regular b (List.mem_cons_of_mem a hb)))

theorem step_keeps {P : Node → Prop} (shift : ∀ {n m : Node}, Shift n m → P n → P m)
    (activate : ∀ {n : Node} (id : ReplicaId) (platform runtime : Nat), P n →
      P (n.perform id fun r => (r.activate platform runtime).2))
    (teardown : ∀ {n : Node} (id : ReplicaId), P n → P (n.perform id fun r => r.teardown.2))
    (abandon : ∀ {n : Node}, P n → P n.abandon) {n : Node} (h : P n) (a : Action) :
    P (n.step a) := by
  cases regular : a.isRegular with
  | true => exact (n.shifts_step regular).keeps shift h
  | false =>
    cases a with
    | activate id platform runtime =>
      have started := activate id platform runtime h
      simp only [step, Node.activate]
      split
      · exact shift (Shift.act _ id .dropTask) started
      · exact started
    | teardown id => exact teardown id h
    | abandon => exact abandon h
    | _ => cases regular

theorem run_keeps {P : Node → Prop} (kept : ∀ n a, P n → P (step n a)) {n : Node} (start : P n)
    (actions : List Action) : P (n.run actions) := by
  induction actions generalizing n with
  | nil => exact start
  | cons a actions ih => exact ih (kept n a start)

theorem run_keeps_of_shift {P : Node → Prop} (shift : ∀ {n m : Node}, Shift n m → P n → P m)
    (activate : ∀ {n : Node} (id : ReplicaId) (platform runtime : Nat), P n →
      P (n.perform id fun r => (r.activate platform runtime).2))
    (teardown : ∀ {n : Node} (id : ReplicaId), P n → P (n.perform id fun r => r.teardown.2))
    (abandon : ∀ {n : Node}, P n → P n.abandon) {n : Node} (start : P n) (actions : List Action) :
    P (n.run actions) :=
  run_keeps (P := P)
    (fun _ a h => step_keeps (P := P) shift activate teardown abandon h a) start actions

end Node

end ReplicaHosting

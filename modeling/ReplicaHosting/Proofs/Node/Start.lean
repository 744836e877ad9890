import ReplicaHosting.Proofs.Node.Halt

/-! The ways a start can go. It gives up before anything has changed, or a new handle takes the
place of the old one and the node is open; then it is through, or everything is shut down again.
Between these turns there is only what candidates and presence events stir up. Whoever wants to
know what a start does goes by these cases. -/
namespace ReplicaHosting.Node

def asking (b : Binding) : Call :=
  .subscribe b.platform b.config.presenceAddress b.config.connectivity

def subscribing (b : Binding) (reply : SubscribeReply) (n : Node) : Node :=
  (n.call (asking b)).onBeacons reply.beacons

def nextHandle (b : Binding) (active : Bool) (n : Node) : Handle :=
  { number := n.subscriptions, platform := b.platform, active }

def renewed (b : Binding) (active : Bool) (n : Node) : Node :=
  { n with subscriptions := n.subscriptions + 1
           registry := n.registry.reopen
           held := some (n.nextHandle b active) }.dismiss n.held.toList

inductive StartCase (n : Node) (reply : StartReply) : Option Failure × Node → Prop where
  | unbound (free : n.binding = none) : StartCase n reply (some .notAttached, n)
  | refused (b : Binding) (e : Failure) (bound : n.binding = some b)
      (failed : reply.subscribe.outcome = .error e) :
      StartCase n reply (some e, (n.subscribing b reply.subscribe).say (.subscriptionFailed e))
  | through (b : Binding) (active : Bool) (m : Node) (bound : n.binding = some b)
      (subscribed : reply.subscribe.outcome = .ok active)
      (swept : Reactions ((n.subscribing b reply.subscribe).renewed b active) m)
      (accepted : reply.sweep.refusal = none) : StartCase n reply (none, m)
  | rolledBack (b : Binding) (active : Bool) (m k : Node) (e : Failure) (bound : n.binding = some b)
      (subscribed : reply.subscribe.outcome = .ok active)
      (swept : Reactions ((n.subscribing b reply.subscribe).renewed b active) m)
      (failed : reply.sweep.refusal = some e) (halted : Halted m k) :
      StartCase n reply (some e, k)

theorem shift_asking (b : Binding) (n : Node) : Shift n (n.call (asking b)) :=
  .call n _ nofun

theorem reactions_subscribing (b : Binding) (reply : SubscribeReply) (n : Node) :
    Reactions (n.call (asking b)) (n.subscribing b reply) := reactions_onBeacons reply.beacons _

theorem sameSession_subscribing (b : Binding) (reply : SubscribeReply) (n : Node) :
    SameSession n (n.subscribing b reply) := by
  have asked : SameSession n (n.call (asking b)) := by
    refine ⟨rfl, rfl, rfl, rfl, rfl, rfl, rfl, ?_⟩
    rw [told_call]
    exact List.append_nil _
  exact asked.trans (reactions_subscribing b reply n).sameSession

theorem reactions_hold (h : Handle) (reply : UnsubscribeReply) (n : Node) :
    Reactions ({ n with held := some h }.dismiss n.held.toList) (n.hold h reply) := by
  unfold hold
  cases held : n.held with
  | none =>
    simp only [Option.toList_none, dismiss, List.append_nil, List.filter_nil, List.map_nil]
    exact reactions_refl _
  | some old => exact reactions_letGoOf old reply _

theorem nextHandle_subscribing (b : Binding) (reply : SubscribeReply) (active : Bool) (n : Node) :
    (n.subscribing b reply).nextHandle b active = n.nextHandle b active := by
  simp only [nextHandle, (sameSession_subscribing b reply n).subscriptions]

theorem held_swept {n m : Node} {b : Binding} {reply : SubscribeReply} {active : Bool}
    (swept : Reactions ((n.subscribing b reply).renewed b active) m) :
    m.held = some (n.nextHandle b active) := by
  rw [← nextHandle_subscribing b reply active n]
  exact swept.sameSession.held

theorem binding_swept {n m : Node} {b : Binding} {reply : SubscribeReply} {active : Bool}
    (swept : Reactions ((n.subscribing b reply).renewed b active) m) :
    m.binding = n.binding :=
  swept.sameSession.binding.trans (sameSession_subscribing b reply n).binding

theorem shifts_dismiss (h : Option Handle) (n : Node) : Shifts n (n.dismiss h.toList) := by
  cases h with
  | none =>
    simp only [dismiss, Option.toList_none, List.append_nil, List.filter_nil, List.map_nil]
    exact shifts_refl n
  | some h =>
    have gone := (Shift.letGo n h).once
    have told := gone.tail (Shift.call _ (.unsubscribe h.number) (by simp))
    cases active : h.active with
    | false => simpa [dismiss, active] using gone
    | true => simpa [dismiss, active, call] using told

theorem shifts_renewed (b : Binding) (reply : SubscribeReply) (active : Bool) (n : Node) :
    Shifts n ((n.subscribing b reply).renewed b active) := by
  have pending := (shift_asking b n).once.trans (reactions_subscribing b reply n).shifts
  have opened := (pending.tail (.subscribed _)).tail (.reopen _)
  have taken := opened.tail (.hold _ (some ((n.subscribing b reply).nextHandle b active)))
  exact taken.trans (shifts_dismiss (n.subscribing b reply).held _)

theorem Orderly.renewed {n : Node} (h : Orderly n) (b : Binding) (reply : SubscribeReply)
    (active : Bool) : Orderly ((n.subscribing b reply).renewed b active) :=
  (shifts_renewed b reply active n).keeps Orderly.shift h

theorem start_case {n : Node} (orderly : Orderly n) (reply : StartReply) :
    StartCase n reply (n.start reply) := by
  unfold start
  cases bound : n.binding with
  | none => exact .unbound bound
  | some b =>
    cases outcome : reply.subscribe.outcome with
    | error e => exact .refused b e bound outcome
    | ok active =>
      have swept :=
        (reactions_hold ((n.subscribing b reply.subscribe).nextHandle b active) reply.replaced
        { n.subscribing b reply.subscribe with
            subscriptions := (n.subscribing b reply.subscribe).subscriptions + 1
            registry := (n.subscribing b reply.subscribe).registry.reopen }).trans
        (reactions_requestDiscovery none b reply.sweep _)
      cases refusal : reply.sweep.refusal with
      | none => exact .through b active _ bound outcome (swept.tail (.say _ _)) refusal
      | some e =>
        have failed := swept.tail (.say _ (.sweepFailed e))
        have orderly' := Reactions.shifts failed |>.keeps Orderly.shift
          (orderly.renewed b reply.subscribe active)
        have halted := halted_drain orderly'.unique reply.withdrawn
        exact .rolledBack b active _ _ e bound outcome failed refusal (halted.say _)

end ReplicaHosting.Node

import ReplicaHosting.Node.Run
/-!
What a node asks of discovery services, told without the node. All that counts for this are a few
occasions: a platform is attached, a presence event comes in, a start gets its subscription, the
node is shut down. Each request follows from the occasions so far; replicas, candidates and handles
have no part in it, and neither has the number that an event bears.
-/
namespace ReplicaHosting

/-- A start that has got its subscription opens the node and then turns to all hosts. A stop closes
the node, and so does a start that takes everything back. -/
inductive Occasion where
  | attached (platform : Nat) (config : Config)
  | event (e : PresenceEvent)
  | opened
  | sweep
  | closed
  | abandoned
  deriving DecidableEq, Repr

/-- As much of a node as decides what it asks for, and what it has asked for so far. -/
structure Outlook where
  bound : Option (Nat × Config) := none
  closed : Bool := false
  asked : List (Nat × Option String × String × Connectivity) := []
  deriving DecidableEq, Repr

namespace Outlook

def ask (host : Option String) (v : Outlook) : Outlook :=
  match v.bound with
  | none => v
  | some (platform, c) =>
    { v with asked := v.asked ++
        [(platform, host, c.discoveryUri ++ "?rt=" ++ c.resourceType, c.connectivity)] }

def meet (v : Outlook) : Occasion → Outlook
  | .attached platform config => { v with bound := some (platform, config) }
  | .event e =>
    if e.result ∈ [.ok, .resourceCreated, .continue] ∧ v.closed = false then v.ask (some e.address)
    else v
  | .opened => { v with closed := false }
  | .sweep => v.ask none
  | .closed => { v with closed := true }
  | .abandoned => { v with bound := none, closed := false }

end Outlook

def Beacon.occasion (x : Beacon) : Occasion := .event x.event

/-- The events that come in while a handle is let go. One that is not subscribed is not told to
unsubscribe, and nothing comes of it. -/
def UnsubscribeReply.occasions (told : Bool) (reply : UnsubscribeReply) : List Occasion :=
  if told then reply.beacons.map Beacon.occasion else []

def StartReply.occasions (subscribed : Bool) (reply : StartReply) : List Occasion :=
  reply.subscribe.beacons.map Beacon.occasion ++
    match reply.subscribe.outcome with
    | .error _ => []
    | .ok active =>
      .opened :: reply.replaced.occasions subscribed ++ .sweep ::
        if reply.sweep.refusal.isSome then .closed :: reply.withdrawn.occasions active else []

namespace Node

def outlook (n : Node) : Outlook :=
  { bound := n.binding.map fun b => (b.platform, b.config)
    closed := n.registry.stopping
    asked := n.asked }

def occasions (n : Node) : Action → List Occasion
  | .attach platform runtime config =>
    if n.live then
      match n.attach platform runtime config with
      | .ok _ => [.attached platform config]
      | .error _ => []
    else []
  | .start reply => if n.live ∧ n.binding.isSome then reply.occasions n.isSubscribed else []
  | .stop reply => if n.live then .closed :: reply.occasions n.isSubscribed else []
  | .presence callback x => if callback < n.presenceCallbacks then [x.occasion] else []
  | .abandon => [.abandoned]
  | .candidate _ _ | .handleSays _ | .turn _ _ _ | .answer _ _ | .push _ _ | .endStream _
  | .shutRuntime _ | .activate _ _ _ | .teardown _ => []

def occasionsBy (n : Node) : List Action → List Occasion
  | [] => []
  | a :: later => n.occasions a ++ (n.step a).occasionsBy later

end Node

end ReplicaHosting

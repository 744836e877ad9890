import ReplicaHosting.Node
import ReplicaHosting.Replica.Run
/-!
Runs of a node: everything that may happen to it, in any order. Collaborators answer as they like;
what they do during a step is part of the step. A callback that was once handed out stays alive, so
events and candidates may come through any of them at any time. Callbacks are told apart by their
number, counting from zero in the order in which they were handed out.
-/
namespace ReplicaHosting

/-- An event or a candidate comes through a callback that was handed out before. A replica may be
started or torn down behind the back of the node, and the last one who held the node may let it go.
-/
inductive Action where
  | attach (platform runtime : Nat) (config : Config)
  | start (reply : StartReply)
  | stop (reply : UnsubscribeReply)
  | presence (callback : Nat) (x : Beacon)
  | candidate (callback : Nat) (d : Descriptor)
  | handleSays (active : Bool)
  | turn (id : ReplicaId) (pick : Branch) (reply : Option WatchReply)
  | answer (id : ReplicaId) (a : WatchReply)
  | push (id : ReplicaId) (e : OriginEvent)
  | endStream (id : ReplicaId)
  | shutRuntime (runtime : Nat)
  | activate (id : ReplicaId) (platform runtime : Nat)
  | teardown (id : ReplicaId)
  | abandon
  deriving Repr, Inhabited

def Call.unsubscribed? : Call → Option Nat
  | unsubscribe subscription => some subscription
  | subscribe _ _ _ | discover _ _ _ _ | watch _ _ _ => none

def Call.request? : Call → Option (Nat × Option String × String × Connectivity)
  | discover platform host query scope => some (platform, host, query, scope)
  | subscribe _ _ _ | unsubscribe _ | watch _ _ _ => none

def Call.watched? : Call → Option ReplicaId
  | watch id _ _ => some id
  | subscribe _ _ _ | unsubscribe _ | discover _ _ _ _ => none

namespace Node

def told (n : Node) : List Nat := n.calls.filterMap Call.unsubscribed?

/-- The requests that have been made, in order, those that have been refused as well. -/
def asked (n : Node) : List (Nat × Option String × String × Connectivity) :=
  n.calls.filterMap Call.request?

def watched (n : Node) : List ReplicaId := n.calls.filterMap Call.watched?

def update (id : ReplicaId) (f : Replica → Replica) (n : Node) : Node :=
  n.perform id fun r => (f r, [])

/-- Some moves of one replica in a row. A poll of its task is one case, with turns only, or with
what the origin does between them; the loss of the task is another. -/
def follow (id : ReplicaId) (moves : List Move) (n : Node) : Node :=
  moves.foldl (fun n x => n.perform id fun r => r.move x) n

def presenceCallbacks (n : Node) : Nat := n.calls.countP fun
  | .subscribe _ _ _ => true
  | _ => false

def discoveryCallbacks (n : Node) : Nat := n.calls.countP fun
  | .discover _ _ _ _ => true
  | _ => false

/-- One step of a run. A node that nobody holds cannot be attached, started or stopped. -/
def step (n : Node) : Action → Node
  | .attach platform runtime config =>
    if n.live then
      match n.attach platform runtime config with
      | .ok n => n
      | .error _ => n
    else n
  | .start reply => if n.live then (n.start reply).2 else n
  | .stop reply => if n.live then n.stop reply else n
  | .presence callback x => if callback < n.presenceCallbacks then n.onPresence x else n
  | .candidate callback d => if callback < n.discoveryCallbacks then n.onCandidate d else n
  | .handleSays active => { n with held := n.held.map fun h => { h with active } }
  | .turn id pick reply => n.turn id pick reply
  | .answer id a => n.update id (Replica.answer a)
  | .push id e => n.update id (Replica.push e)
  | .endStream id => n.update id Replica.endStream
  | .shutRuntime runtime => n.shutRuntime runtime
  | .activate id platform runtime => n.activate id platform runtime
  | .teardown id => n.teardown id
  | .abandon => n.abandon

def run (n : Node) (actions : List Action) : Node := actions.foldl step n

end Node

end ReplicaHosting

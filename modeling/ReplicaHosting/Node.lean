import ReplicaHosting.Replica
/-!
A hosting node: the platform it is bound to, its registry, the presence subscription it holds, and
all replicas it has ever made, each with its own life. Replicas go on by themselves; the node only
hears of their end.

The node also keeps a record of what it has done: the calls to its collaborators, its notices, the
callbacks that have been made, the handles it has let go. Nothing it does depends on the record.

Others may act while the node calls a collaborator. The replies tell of the candidates that come
during a request, and of the events that come while a handle is obtained or let go, each with the
candidates that are found because of it. Events during a request are left out, and so are candidates
through older callbacks while a handle is obtained or let go: here these come before or after the
call.
-/
namespace ReplicaHosting

/-- A platform and the configuration it is used with, and what discovery is asked under it. -/
structure Binding where
  platform : Nat
  runtime : Nat
  config : Config
  query : String
  deriving DecidableEq, Repr, Inhabited

/-- A presence subscription, and whether it says of itself that it is subscribed. -/
structure Handle where
  number : Nat
  platform : Nat
  active : Bool
  deriving DecidableEq, Repr, Inhabited

inductive Call where
  | subscribe (platform : Nat) (address : String) (scope : Connectivity)
  | unsubscribe (subscription : Nat)
  | discover (platform : Nat) (host : Option String) (query : String) (scope : Connectivity)
  | watch (id : ReplicaId) (platform : Nat) (d : Descriptor)
  deriving DecidableEq, Repr, Inhabited

/-- A node that nobody holds is not `live`, and its callbacks do nothing. The replicas are all it
has ever made, and of the runtimes those are named that have been shut down. The record counts the
subscriptions obtained and the requests accepted, and lists in order whose streams have been opened,
whose callbacks have been made, and the handles let go, as they were at that moment. -/
structure Node where
  live : Bool := true
  binding : Option Binding := none
  registry : Registry := {}
  held : Option Handle := none
  replicas : List Replica := []
  shut : List Nat := []
  streams : List ReplicaId := []
  subscriptions : Nat := 0
  requests : Nat := 0
  calls : List Call := []
  notices : List Notice := []
  calledBack : List ReplicaId := []
  letGo : List Handle := []
  deriving Repr, Inhabited

namespace Node

def replica? (id : ReplicaId) (n : Node) : Option Replica := n.replicas.find? fun r => r.id == id

def hosted (n : Node) : List Replica := n.registry.ids.filterMap fun id => n.replica? id

def isSubscribed (n : Node) : Bool := n.held.any Handle.active

def display (n : Node) : String :=
  let flag (b : Bool) : String := if b then "true" else "false"
  Text.record "HostingCoordinator"
    [("attached", flag n.binding.isSome), ("hosted", toString n.registry.size),
     ("stopping", flag n.registry.stopping)]

def say (x : Notice) (n : Node) : Node := { n with notices := n.notices ++ [x] }

def call (c : Call) (n : Node) : Node := { n with calls := n.calls ++ [c] }

def put (r : Replica) (n : Node) : Node :=
  { n with replicas := n.replicas.map fun x => if x.id = r.id then r else x }

/-- Gives up the registry entry of a replica that has ended. A second time, or for a later replica
under the same key, nothing happens. -/
def release (key : DedupKey) (id : ReplicaId) (n : Node) : Node :=
  match n.registry.remove? key id with
  | some registry => { n with registry }.say (.released id key)
  | none => n.say (.alreadyReleased id)

def apply (id : ReplicaId) (d : Descriptor) (n : Node) : Effect → Node
  | .notice x => n.say x
  | .watch platform => n.call (.watch id platform d)
  | .opened => { n with streams := n.streams ++ [id] }
  | .calledBack ended c =>
    let n := { n with calledBack := n.calledBack ++ [ended] }
    match c with
    | .report => n
    | .release key => if n.live then n.release key ended else n

def perform (id : ReplicaId) (act : Replica → Replica × List Effect) (n : Node) : Node :=
  match n.replica? id with
  | none => n
  | some r =>
    let (r', es) := act r
    es.foldl (apply id r.descriptor) (n.put r')

/-- Starts the task of a fresh replica; any other is left alone. On a runtime that is shut down the
task is dropped at once. -/
def activate (id : ReplicaId) (platform runtime : Nat) (n : Node) : Node :=
  let started := (n.replica? id).any fun r => (r.activate platform runtime).1
  let n := n.perform id fun r => (r.activate platform runtime).2
  if started ∧ runtime ∈ n.shut then n.perform id Replica.dropTask else n

def teardown (id : ReplicaId) (n : Node) : Node := n.perform id fun r => r.teardown.2

def teardownAll (ids : List ReplicaId) (n : Node) : Node :=
  ids.foldl (fun n id => n.teardown id) n

def turn (id : ReplicaId) (pick : Branch) (reply : Option WatchReply) (n : Node) : Node :=
  n.perform id (Replica.turn pick reply)

def shutRuntime (runtime : Nat) (n : Node) : Node :=
  let ids := (n.replicas.filter fun r => r.task.any fun t => t.runtime == runtime).map Replica.id
  ids.foldl (fun n id => n.perform id Replica.dropTask) { n with shut := n.shut ++ [runtime] }

def adopt (r : Replica) (n : Node) : Node := { n with replicas := n.replicas ++ [r] }

/-- The last one who held the node lets it go. Its registry and its handle are gone without further
ado, and from now on nobody hears of what its replicas do. Their tasks keep them, and with them the
senders that would stop the tasks, so nobody is told to stop. -/
def abandon (n : Node) : Node :=
  { n with live := false, binding := none, registry := {}, held := none }

/-- Takes in a candidate that discovery has found: it is hosted if it is tagged, a platform is
bound, the registry is open and its key is free. -/
def onCandidate (d : Descriptor) (n : Node) : Node :=
  if !n.live then n
  else if !d.isHostable then n.say (.candidateUntagged d)
  else
    match n.binding with
    | none => n
    | some b =>
      let key := b.config.dedupKey d
      match n.registry.enroll key with
      | (.admitted id, registry) =>
        let r : Replica := { id, descriptor := d, callback := some (.release key) }
        ({ n with registry }.adopt r).say (.hosted id d) |>.activate id b.platform b.runtime
      | (.alreadyHosted id, _) => n.say (.candidateKnown id d)
      | (.stopping, _) => n.say (.candidateRefused d)

def onCandidates (ds : List Descriptor) (n : Node) : Node := ds.foldl (fun n d => n.onCandidate d) n

end Node

/-- What a discovery service does on a request: it may deliver candidates at once, and it accepts
the request or refuses it. -/
structure DiscoveryReply where
  candidates : List Descriptor := []
  refusal : Option Failure := none
  deriving DecidableEq, Repr, Inhabited

structure Beacon where
  event : PresenceEvent
  reply : DiscoveryReply := {}
  deriving DecidableEq, Repr, Inhabited

/-- What a presence channel does on a subscription: it may deliver events before it answers, and it
gives a handle, which may be subscribed or not, or fails. -/
structure SubscribeReply where
  beacons : List Beacon := []
  outcome : Except Failure Bool
  deriving Repr, Inhabited

/-- What a handle does when it is told to unsubscribe: it may deliver events, and it may refuse. -/
structure UnsubscribeReply where
  beacons : List Beacon := []
  refusal : Option Failure := none
  deriving DecidableEq, Repr, Inhabited

/-- All that the collaborators do while hosting is started: on the subscription, when the handle of
before is replaced, on the request to all hosts, and when the new handle is withdrawn because that
request has failed. -/
structure StartReply where
  subscribe : SubscribeReply
  replaced : UnsubscribeReply := {}
  sweep : DiscoveryReply := {}
  withdrawn : UnsubscribeReply := {}
  deriving Repr, Inhabited

namespace Node

def requestDiscovery (host : Option String) (b : Binding) (reply : DiscoveryReply) (n : Node) :
    Node :=
  let n := n.say (.discoveryRequested host b.query)
  let n := n.call (.discover b.platform host b.query b.config.connectivity)
  let n := n.onCandidates reply.candidates
  if reply.refusal.isSome then n else { n with requests := n.requests + 1 }

/-- Takes in a presence event. Only an announcement leads to anything, a request to the device that
announces itself; if the request fails, that is noted and no more. -/
def onPresence (x : Beacon) (n : Node) : Node :=
  let e := x.event
  if !n.live then n
  else if n.registry.stopping then n.say (.presenceWhileStopping e)
  else
    match e.result.classify with
    | .announcing =>
      match n.binding with
      | none => n
      | some b =>
        let n := (n.say (.announcement e)).requestDiscovery (some e.address) b x.reply
        match x.reply.refusal with
        | none => n
        | some f => n.say (.targetedFailed e.address f)
    | .departure => n.say (.departure e)
    | .ignored => n.say (.presenceIgnored e)

def onBeacons (xs : List Beacon) (n : Node) : Node := xs.foldl (fun n x => n.onPresence x) n

/-- Lets a handle go. One that says it is subscribed is told to unsubscribe; a refusal is noted and
no more. -/
def letGoOf (h : Handle) (reply : UnsubscribeReply) (n : Node) : Node :=
  let n := { n with letGo := n.letGo ++ [h] }
  if !h.active then n
  else
    let n := (n.call (.unsubscribe h.number)).onBeacons reply.beacons
    match reply.refusal with
    | none => n
    | some f => n.say (.unsubscribeFailed f)

def withdraw (reply : UnsubscribeReply) (n : Node) : Node :=
  match n.held with
  | none => n
  | some h => { n with held := none }.letGoOf h reply

def closeDown (reply : UnsubscribeReply) (n : Node) : Node :=
  { n with registry := n.registry.close }.withdraw reply

/-- Empties the registry and tears down all replicas that were in it. -/
def drain (n : Node) : Node := { n with registry := n.registry.clear }.teardownAll n.registry.ids

def activeHosting : Failure :=
  .invalidArgument "cannot attach while hosting is active, stop hosting first"

/-- Binds the node to a platform. The configuration has to be valid, no handle may be held, and
the registry has to be empty; otherwise nothing changes. -/
def attach (platform runtime : Nat) (config : Config) (n : Node) : Except Failure Node :=
  match config.validate with
  | .error e => .error e
  | .ok () =>
    if n.held.isSome || !n.registry.isEmpty then .error activeHosting
    else
      let binding : Binding := { platform, runtime, config, query := config.discoveryQuery }
      .ok ({ n with binding := some binding }.say (.attached config))

def hold (h : Handle) (reply : UnsubscribeReply) (n : Node) : Node :=
  match n.held with
  | none => { n with held := some h }
  | some old => { n with held := some h }.letGoOf old reply

/-- Starts hosting: subscribes to presence, opens the registry, and asks all hosts. If the
subscription fails nothing has changed but what its events have done; if the request fails
everything is shut down again. The outcome is none, or why it failed. -/
def start (reply : StartReply) (n : Node) : Option Failure × Node :=
  match n.binding with
  | none => (some .notAttached, n)
  | some b =>
    let n := n.call (.subscribe b.platform b.config.presenceAddress b.config.connectivity)
    let n := n.onBeacons reply.subscribe.beacons
    match reply.subscribe.outcome with
    | .error e => (some e, n.say (.subscriptionFailed e))
    | .ok active =>
      let h : Handle := { number := n.subscriptions, platform := b.platform, active }
      let n := { n with subscriptions := n.subscriptions + 1, registry := n.registry.reopen }
      let n := (n.hold h reply.replaced).requestDiscovery none b reply.sweep
      match reply.sweep.refusal with
      | none => (none, n.say (.started b.config.presenceAddress))
      | some e =>
        let n := n.say (.sweepFailed e)
        let n := n.closeDown reply.withdrawn
        (some e, n.drain.say (.rolledBack n.registry.size))

def stop (reply : UnsubscribeReply) (n : Node) : Node :=
  let n := n.closeDown reply
  n.drain.say (.stopped n.registry.size)

end Node

end ReplicaHosting

import ReplicaHosting.Stage.Lineup
import ReplicaHosting.Stage.Script
/-!
A stage on which a node is put through its paces: three platforms that act by their scripts, one
runtime at a time, and the commands of whoever directs the play. After each command the tasks run
until none of them has anything to do, unless several commands are taken together.

The tasks are served one at a time. A task gives way to the others before it asks its origin and
before each event it takes, so that of a few tasks that have not run yet the newest asks first. A
task that has been told to stop takes that before anything its origin may have sent.
-/
namespace ReplicaHosting

namespace Stage

/-- What the director may ask for. A stream, a subscription or a request that is not named is the
newest one. -/
inductive Command where
  | script (platform : Nat) (change : ScriptChange)
  | event (stream : Option Nat) (e : OriginEvent)
  | close (stream : Option Nat)
  | shutRuntime
  | newRuntime
  | wait
  | batch (steps : List Command)
  | attach (platform : Nat) (config : Except Failure Config)
  | start
  | stop
  | announce (subscription : Option Nat) (e : PresenceEvent)
  | respond (request : Option Nat) (d : Descriptor)
  | activate (platform : Nat) (id : ReplicaId)
  | teardown (id : ReplicaId)
  | share
  | drop
  | display
  | displayReplica (id : ReplicaId)
  deriving Inhabited

inductive Answer where
  | done
  | failed (e : Failure)
  | flag (b : Bool)
  | nothing
  | noStream
  | noSubscription
  | noRequest
  | noNode
  | shown (text : String)
  | overview (node platform : String) (replicas : List String)
  | several (answers : List Answer)
  deriving Inhabited

end Stage

/-- A node and its platforms, the newest runtime by its number, and how many hold the node; the
replicas that have been seen, in the order of their ids, and those whose tasks have been woken since
all were idle, in the order of waking. -/
structure Stage where
  node : Node := {}
  scripts : List Stage.Script := [{}, {}, {}]
  runtime : Nat := 0
  running : Bool := true
  holders : Nat := 1
  known : List ReplicaId := []
  waiting : List ReplicaId := []
  deriving Inhabited

namespace Stage

def solo (id : ReplicaId) (d : Descriptor) : Stage :=
  { node := { replicas := [{ id, descriptor := d, callback := some .report }] }, known := [id] }

def scriptOf (s : Stage) (platform : Nat) : Script := s.scripts.getD platform {}

def boundScript (s : Stage) : Script := s.scriptOf ((s.node.binding.map Binding.platform).getD 0)

def discovery (s : Stage) : DiscoveryReply := s.boundScript.discovery

def unsubscription (s : Stage) : UnsubscribeReply :=
  (s.scriptOf ((s.node.held.map Handle.platform).getD 0)).unsubscription s.discovery

def startReply (s : Stage) : StartReply :=
  { subscribe := s.boundScript.subscription s.discovery
    replaced := s.unsubscription
    sweep := s.discovery
    withdrawn := s.boundScript.unsubscription s.discovery }

/-- The replicas whose tasks have something to do and had nothing before. Replicas are never taken
away, so the former ones are the first of the present ones. -/
def woken : (before now : List Replica) → List ReplicaId
  | _, [] => []
  | [], r :: rs => if r.isReady then r.id :: woken [] rs else woken [] rs
  | b :: bs, r :: rs => if r.isReady && !b.isReady then r.id :: woken bs rs else woken bs rs

/-- Lines up those whose tasks have been woken since a moment ago, each of them once. Tasks woken
by one command stand in the order in which their replicas were made. -/
def wake (s before : Stage) : Stage :=
  let new := (woken before.node.replicas s.node.replicas).filter fun id => !s.waiting.contains id
  { s with waiting := s.waiting ++ new }

def advance (s : Stage) (id : ReplicaId) : Stage :=
  let reply := match (s.node.replica? id).bind Replica.task with
    | none => none
    | some t => (s.scriptOf t.platform).watch
  { s with node := s.node.turn id .stop reply }

/-- Whether a task that has something to do gives way first: before it asks its origin and before
each event, unless it has been told to stop. -/
def givesWay (r : Replica) : Bool :=
  r.task.any fun t =>
    !t.told &&
      match t.phase with
      | .queued | .streaming (_ :: _) _ => true
      | _ => false

/-- The task of a replica goes on until it gives way or has nothing to do; `fuel` bounds its steps.
The outcome is whether it has given way. -/
def proceed (id : ReplicaId) : Nat → Stage → Bool × Stage
  | 0, s => (false, s)
  | fuel + 1, s =>
    match s.node.replica? id with
    | none => (false, s)
    | some r =>
      if !r.isReady then (false, s)
      else if givesWay r then (true, s)
      else proceed id fuel (s.advance id)

def workOf (s : Stage) (id : ReplicaId) : Nat := ((s.node.replica? id).map Replica.work).getD 0

/-- The turn of a task. Who has come back does first what it has given way for. -/
def takeTurn (s : Stage) : Served → Bool × Stage
  | .newcomer id => proceed id (s.workOf id) s
  | .returning id =>
    let s := s.advance id
    proceed id (s.workOf id) s

/-- Lets the tasks in a line take their turns until nobody waits; `fuel` bounds the turns. -/
def serveAll : Nat → Lineup → Stage → Stage
  | 0, _, s => s
  | fuel + 1, l, s =>
    match l.next? with
    | none => s
    | some (x, l) =>
      let (back, s) := s.takeTurn x
      serveAll fuel (if back then l.giveWay x.id else l) s

def settle (s : Stage) : Stage :=
  let isReady (id : ReplicaId) : Bool := (s.node.replica? id).any Replica.isReady
  let turns := s.waiting.foldl (fun sum id => sum + s.workOf id + 1) 0
  serveAll turns { newcomers := s.waiting.filter isReady } { s with waiting := [] }

def look (s : Stage) : Stage :=
  if s.holders == 0 then s
  else
    let new := s.node.registry.ids.filter fun id => !s.known.contains id
    { s with known := ReplicaId.sorted (s.known ++ new) }

def knownReplicas (s : Stage) : List Replica := s.known.filterMap fun id => s.node.replica? id

def streamOwner? (s : Stage) : Option Nat → Option ReplicaId
  | some number => s.node.streams[number]?
  | none => s.node.streams.getLast?

def openStreams (s : Stage) : List Nat :=
  (List.range s.node.streams.length).filter fun number =>
    ((s.node.streams[number]?).bind fun id => s.node.replica? id).any Replica.isListening

def isGiven (count : Nat) : Option Nat → Bool
  | some number => number < count
  | none => 0 < count

def shutRuntime (s : Stage) : Stage :=
  if s.running then { s with node := s.node.shutRuntime s.runtime, running := false } else s

/-- A platform written out; it shows nothing of its collaborators. -/
def platformDisplay : String := "HostingPlatform \x7b .. \x7d"

def failedOr : Option Failure → Answer
  | none => .done
  | some e => .failed e

mutual

def perform (s : Stage) : Command → Answer × Stage
  | .script platform change =>
    (.done, { s with scripts := s.scripts.modify platform fun x => x.change change })
  | .event stream e =>
    match s.streamOwner? stream with
    | none => (.noStream, s)
    | some id =>
      (.flag ((s.node.replica? id).any Replica.isListening),
       { s with node := s.node.perform id fun r => (r.push e, []) })
  | .close stream =>
    match s.streamOwner? stream with
    | none => (.noStream, s)
    | some id => (.done, { s with node := s.node.perform id fun r => (r.endStream, []) })
  | .shutRuntime => (.flag s.running, s.shutRuntime)
  | .newRuntime =>
    let s := s.shutRuntime
    (.done, { s with runtime := s.runtime + 1, running := true })
  | .wait => (.done, s)
  | .batch steps =>
    let (answers, s) := performAll s steps
    (.several answers, s)
  | .attach platform config =>
    if s.holders == 0 then (.noNode, s)
    else
      match config with
      | .error e => (.failed e, s)
      | .ok config =>
        match s.node.attach platform s.runtime config with
        | .error e => (.failed e, s)
        | .ok node => (.done, { s with node })
  | .start =>
    if s.holders == 0 then (.noNode, s)
    else
      let (failure, node) := s.node.start s.startReply
      (failedOr failure, { s with node })
  | .stop =>
    if s.holders == 0 then (.noNode, s)
    else (.done, { s with node := s.node.stop s.unsubscription })
  | .announce subscription event =>
    if isGiven s.node.subscriptions subscription then
      (.done, { s with node := s.node.onPresence { event, reply := s.discovery } })
    else (.noSubscription, s)
  | .respond request d =>
    if isGiven s.node.requests request then
      (.done, { s with node := s.node.onCandidate d })
    else (.noRequest, s)
  | .activate platform id =>
    if s.known.contains id then
      (.flag ((s.node.replica? id).any fun r => (r.activate platform s.runtime).1),
       { s with node := s.node.activate id platform s.runtime })
    else (.nothing, s)
  | .teardown id =>
    if s.known.contains id then
      (.flag ((s.node.replica? id).any fun r => r.teardown.1),
       { s with node := s.node.teardown id })
    else (.nothing, s)
  | .share => if s.holders == 0 then (.noNode, s) else (.done, { s with holders := s.holders + 1 })
  | .drop =>
    if s.holders == 0 then (.noNode, s)
    else if s.holders == 1 then (.done, { s with holders := 0, node := s.node.abandon })
    else (.done, { s with holders := s.holders - 1 })
  | .display =>
    if s.holders == 0 then (.noNode, s)
    else
      (.overview s.node.display platformDisplay (s.knownReplicas.map Replica.display), s)
  | .displayReplica id =>
    (match s.node.replica? id with
      | none => .nothing
      | some r => .shown r.display, s)

/-- Carries out several commands; after each of them the registry is looked at, and tasks that it
has woken get in line. -/
def performAll (s : Stage) : List Command → List Answer × Stage
  | [] => ([], s)
  | c :: cs =>
    let (a, s') := perform s c
    let (as, s') := performAll (s'.look.wake s) cs
    (a :: as, s')

end

/-- What whoever holds the node sees of it; resources are told by address, URI and instance. -/
structure Overview where
  hosted : List ReplicaId
  count : Nat
  resources : List (String × String × Option String)
  subscribed : Bool
  stopping : Bool
  deriving DecidableEq, Repr

/-- Resources in the order of address, URI and instance; to have no instance comes first. -/
def resourceBefore (x y : String × String × Option String) : Bool :=
  if x.1 != y.1 then decide (x.1 < y.1)
  else if x.2.1 != y.2.1 then decide (x.2.1 < y.2.1)
  else
    match x.2.2, y.2.2 with
    | none, _ => true
    | some _, none => false
    | some i, some j => decide (i ≤ j)

def overview (s : Stage) : Option Overview :=
  if s.holders == 0 then none
  else
    let resource (r : Replica) : String × String × Option String :=
      (r.descriptor.address, r.descriptor.uri, r.descriptor.instanceId)
    some
      { hosted := ReplicaId.sorted s.node.registry.ids
        count := s.node.registry.size
        resources := (s.node.hosted.map resource).mergeSort resourceBefore
        subscribed := s.node.isSubscribed
        stopping := s.node.registry.stopping }

def step (s : Stage) (c : Command) : Answer × Stage :=
  let (a, s') := s.perform c
  (a, (s'.look.wake s).settle.look)

end Stage

end ReplicaHosting

import ReplicaHosting.Notice
/-!
A replica stands in for one remote resource. It is created, activated once, and ends once: by
itself, when its origin is lost or its task is dropped, or torn down by its owner. Only an end of
its own calls back; being torn down is silent.

While it is active a task of its own listens to the origin. The task goes on in turns. In each
turn it waits for two things at once, the signal to stop and the origin, and if both are ready
either of them may be taken; the choice is an argument here. The sender of that signal is handed to
the replica by its activation. A teardown sends the signal, and an end of its own drops the sender
unsent; the task is told by either. A sender that the replica keeps tells nobody anything.

What a call or a turn does to the outside is a list of effects, in the order in which they happen.
Calls and turns are atomic here, and all states are those between them. Inside of an end of its own
the stage of life changes first, then the end is noted and the callback made, and only then is the
snapshot gone: a callback that looks at its replica would still find the last one. What a callback
does is applied here after the whole end.
-/
namespace ReplicaHosting

inductive Lifecycle where
  | created | active | terminated
  deriving DecidableEq, Repr, Inhabited

namespace Lifecycle

def all : List Lifecycle := [created, active, terminated]

def isTerminal : Lifecycle → Bool
  | created | active => false
  | terminated => true

def name : Lifecycle → String
  | created => "Created"
  | active => "Active"
  | terminated => "Terminated"

end Lifecycle

/-- What a replica shows to clients. The revision counts how many times attributes have come, the
first snapshot having revision one. It is unbounded here, where a counter of 64 bits would overflow
at the attributes numbered 2^64. -/
structure Snapshot where
  uri : String
  resourceTypes : List String
  interfaces : List String
  attributes : Attributes
  revision : Nat
  deriving Repr, Inhabited

/-- What is to be done when a replica ends by itself: no more than to note the end, or to give up
the registry entry under a key as well. -/
inductive Callback where
  | report
  | release (key : DedupKey)
  deriving DecidableEq, Repr, Inhabited

/-- How an origin answers the request to be watched: it opens a stream of events, or fails, or
breaks down and takes the task with it. -/
inductive WatchReply where
  | opens
  | fails (e : Failure)
  | panics
  deriving DecidableEq, Repr, Inhabited

/-- How far the task of a replica has come. It has not run yet; or it has asked its origin, whose
answer may have come; or it listens, with the events that wait in order and, behind the last one,
perhaps the end of the stream. -/
inductive Phase where
  | queued
  | opening (answer : Option WatchReply)
  | streaming (events : List OriginEvent) (ended : Bool)
  deriving Repr, Inhabited

/-- The task of a replica: whom it watches, where it runs, how far it has come, and whether it has
been told to stop. -/
structure SyncTask where
  platform : Nat
  runtime : Nat
  phase : Phase := .queued
  told : Bool := false
  deriving Repr, Inhabited

/-- A replica, with the callback that is still to be made at an end of its own. It has a sender if
it has the means to tell its task to stop. -/
structure Replica where
  id : ReplicaId
  descriptor : Descriptor
  lifecycle : Lifecycle := .created
  callback : Option Callback
  hasSender : Bool := false
  snapshot : Option Snapshot := none
  task : Option SyncTask := none
  deriving Repr, Inhabited

/-- What a replica does to the outside: something is noted, the origin is asked to be watched, a
stream of events has been opened, the callback is made with the id of the replica that has ended. -/
inductive Effect where
  | notice (x : Notice)
  | watch (platform : Nat)
  | opened
  | calledBack (id : ReplicaId) (c : Callback)
  deriving DecidableEq, Repr, Inhabited

inductive Branch where
  | stop | origin
  deriving DecidableEq, Repr, Inhabited

namespace Replica

def display (r : Replica) : String :=
  Text.record "MirrorObject"
    [("id", r.id.display), ("address", Text.quoted r.descriptor.address),
     ("uri", Text.quoted r.descriptor.uri), ("state", r.lifecycle.name)]

def isFresh (r : Replica) : Bool := r.lifecycle == .created

def hasEnded (r : Replica) : Bool := r.lifecycle.isTerminal

/-- Uses the sender up or drops it. Either way the task learns that it is to stop; without a sender
it learns nothing. -/
def giveUpSender (r : Replica) : Replica :=
  { r with
    hasSender := false
    task := r.task.map fun t => { t with told := t.told || r.hasSender } }

/-- Starts the task of a replica if it is fresh, and says first whether it was. -/
def activate (platform runtime : Nat) (r : Replica) : Bool × Replica × List Effect :=
  if r.isFresh then
    (true, { r with lifecycle := .active, hasSender := true, task := some { platform, runtime } },
     [.notice (.activated r.id r.descriptor)])
  else (false, r, [])

/-- Ends a replica from outside, unless it has ended already; whether this call has ended it comes
first. Its callback is dropped unused, and its task is told to stop. -/
def teardown (r : Replica) : Bool × Replica × List Effect :=
  if r.hasEnded then (false, r, [])
  else
    (true, { r.giveUpSender with lifecycle := .terminated, callback := none, snapshot := none },
     [.notice (.tornDown r.id r.descriptor)])

/-- Ends a replica from inside, unless it has ended already, and calls back. -/
def terminate (cause : EndCause) (r : Replica) : Replica × List Effect :=
  if r.hasEnded then (r, [])
  else
    ({ r.giveUpSender with lifecycle := .terminated, callback := none },
     .notice (.ended r.id r.descriptor cause) :: r.callback.toList.map (.calledBack r.id))

/-- Drops the task: a replica that has not ended by then is abandoned, and nothing is shown any
more. The stream of the task goes with it. -/
def dropTask (r : Replica) : Replica × List Effect :=
  let (r, es) := r.terminate .abandoned
  ({ r with snapshot := none, task := none }, es)

def finish (cause : EndCause) (r : Replica) : Replica × List Effect :=
  let (r, es) := r.terminate cause
  let (r, es') := r.dropTask
  (r, es ++ es')

/-- Shows new attributes, unless the replica has ended. The first snapshot fixes all the rest. -/
def publish (attributes : Attributes) (r : Replica) : Replica × List Effect :=
  if r.hasEnded then (r, [])
  else
    match r.snapshot with
    | some s => ({ r with snapshot := some { s with attributes, revision := s.revision + 1 } }, [])
    | none =>
      let first : Snapshot :=
        { uri := (replicaUri? r.descriptor.uri).getD r.descriptor.uri
          resourceTypes := r.descriptor.resourceTypes
          interfaces := r.descriptor.interfaces
          attributes
          revision := 1 }
      ({ r with snapshot := some first }, [.notice (.published r.id first.uri)])

def setPhase (t : SyncTask) (p : Phase) (r : Replica) : Replica :=
  { r with task := some { t with phase := p } }

def hear (e : OriginEvent) (r : Replica) : Replica × List Effect :=
  match e with
  | .attributes a => r.publish a
  | .state s =>
    if s.isLost then r.finish (.originLost s) else (r, [.notice (.originState r.id s)])
  | .fault reason => r.finish (.fault reason)

def takeAnswer (t : SyncTask) (a : WatchReply) (r : Replica) : Replica × List Effect :=
  match a with
  | .opens => (r.setPhase t (.streaming [] false), [.opened])
  | .fails e =>
    let (r, es) := r.finish (.watchFailed e)
    (r, .notice (.watchFailed r.id e) :: es)
  | .panics => r.dropTask

def originReady : Phase → Bool
  | .queued => true
  | .opening answer => answer.isSome
  | .streaming events ended => !events.isEmpty || ended

def isReady (r : Replica) : Bool :=
  match r.task with
  | none => false
  | some t => t.told || originReady t.phase

/-- One turn of the task. The reply is what the origin answers should it be asked in this turn;
it may also answer later. -/
def turn (pick : Branch) (reply : Option WatchReply) (r : Replica) : Replica × List Effect :=
  match r.task with
  | none => (r, [])
  | some t =>
    if t.told && (pick == .stop || !originReady t.phase) then r.dropTask
    else
      match t.phase with
      | .queued => (r.setPhase t (.opening reply), [.watch t.platform])
      | .opening none => (r, [])
      | .opening (some a) => r.takeAnswer t a
      | .streaming (e :: es) ended => (r.setPhase t (.streaming es ended)).hear e
      | .streaming [] true => r.finish .streamEnded
      | .streaming [] false => (r, [])

def answer (a : WatchReply) (r : Replica) : Replica :=
  match r.task with
  | some t =>
    match t.phase with
    | .opening none => r.setPhase t (.opening (some a))
    | _ => r
  | none => r

def isListening (r : Replica) : Bool :=
  match r.task with
  | some t =>
    match t.phase with
    | .streaming _ false => true
    | _ => false
  | none => false

/-- The origin sends an event; a stream that has ended, and a task that is gone, take none. -/
def push (e : OriginEvent) (r : Replica) : Replica :=
  match r.task with
  | some t =>
    match t.phase with
    | .streaming es false => r.setPhase t (.streaming (es ++ [e]) false)
    | _ => r
  | none => r

def endStream (r : Replica) : Replica :=
  match r.task with
  | some t =>
    match t.phase with
    | .streaming es _ => r.setPhase t (.streaming es true)
    | _ => r
  | none => r

/-- How many turns the task can take without hearing more: an upper bound. -/
def work (r : Replica) : Nat :=
  match r.task with
  | none => 0
  | some t =>
    match t.phase with
    | .queued => 4
    | .opening _ => 3
    | .streaming es _ => es.length + 2

end Replica

end ReplicaHosting

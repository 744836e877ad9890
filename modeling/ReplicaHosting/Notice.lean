import ReplicaHosting.Origin
import ReplicaHosting.Presence
import ReplicaHosting.Registry
/-!
What a node reports about itself. A notice says what happened; level, wording and fields of the
reported line are all given here.
-/
namespace ReplicaHosting

inductive Level where
  | error | warn | info | debug | trace
  deriving DecidableEq, Repr, Inhabited

namespace Level

def all : List Level := [error, warn, info, debug, trace]

def name : Level → String
  | error => "ERROR"
  | warn => "WARN"
  | info => "INFO"
  | debug => "DEBUG"
  | trace => "TRACE"

/-- The rank of a level; a report passes a filter if its rank is not above the filter's. -/
def rank : Level → Nat
  | error => 1
  | warn => 2
  | info => 3
  | debug => 4
  | trace => 5

end Level

inductive FieldValue where
  | text (s : String)
  | number (n : Nat)
  | flag (b : Bool)
  deriving DecidableEq, Repr, Inhabited

inductive Notice where
  | attached (c : Config)
  | subscriptionFailed (e : Failure)
  | sweepFailed (e : Failure)
  | rolledBack (released : Nat)
  | started (address : String)
  | stopped (released : Nat)
  | unsubscribeFailed (e : Failure)
  | discoveryRequested (host : Option String) (query : String)
  | presenceWhileStopping (e : PresenceEvent)
  | announcement (e : PresenceEvent)
  | departure (e : PresenceEvent)
  | presenceIgnored (e : PresenceEvent)
  | targetedFailed (address : String) (e : Failure)
  | candidateUntagged (d : Descriptor)
  | candidateKnown (id : ReplicaId) (d : Descriptor)
  | candidateRefused (d : Descriptor)
  | hosted (id : ReplicaId) (d : Descriptor)
  | released (id : ReplicaId) (key : DedupKey)
  | alreadyReleased (id : ReplicaId)
  | activated (id : ReplicaId) (d : Descriptor)
  | tornDown (id : ReplicaId) (d : Descriptor)
  | ended (id : ReplicaId) (d : Descriptor) (cause : EndCause)
  | published (id : ReplicaId) (uri : String)
  | watchFailed (id : ReplicaId) (e : Failure)
  | originState (id : ReplicaId) (s : OriginState)
  deriving DecidableEq, Repr, Inhabited

namespace Notice

def level : Notice → Level
  | attached _ | started _ | stopped _ | hosted _ _ | released _ _ | ended _ _ _ => .info
  | subscriptionFailed _ | sweepFailed _ | unsubscribeFailed _ | targetedFailed _ _
  | watchFailed _ _ => .warn
  | rolledBack _ | discoveryRequested _ _ | announcement _ | departure _ | candidateRefused _
  | activated _ _ | tornDown _ _ | published _ _ | originState _ _ => .debug
  | presenceWhileStopping _ | presenceIgnored _ | candidateUntagged _ | candidateKnown _ _
  | alreadyReleased _ => .trace

def message : Notice → String
  | attached _ => "hosting platform attached"
  | subscriptionFailed _ => "presence subscription failed"
  | sweepFailed _ => "multicast discovery failed"
  | rolledBack _ => "hosting rolled back after discovery failure"
  | started _ => "resource hosting started"
  | stopped _ => "resource hosting stopped"
  | unsubscribeFailed _ => "presence unsubscribe failed"
  | discoveryRequested _ _ => "discovery requested"
  | presenceWhileStopping _ => "presence ignored while stopping"
  | announcement _ => "presence announcement"
  | departure _ => "presence departure"
  | presenceIgnored _ => "presence ignored"
  | targetedFailed _ _ => "targeted discovery failed"
  | candidateUntagged _ => "candidate dropped: not tagged for hosting"
  | candidateKnown _ _ => "candidate dropped: already hosted"
  | candidateRefused _ => "candidate dropped: hosting is stopping"
  | hosted _ _ => "resource hosted"
  | released _ _ => "mirror released"
  | alreadyReleased _ => "mirror already released"
  | activated _ _ => "mirror activated"
  | tornDown _ _ => "mirror torn down"
  | ended _ _ _ => "mirror terminated"
  | published _ _ => "mirror published"
  | watchFailed _ _ => "origin watch failed"
  | originState _ _ => "origin state"

def subject? : Notice → Option ReplicaId
  | hosted id _ | released id _ | alreadyReleased id | activated id _ | tornDown id _
  | ended id _ _ | published id _ | watchFailed id _ | originState id _
  | candidateKnown id _ => some id
  | _ => none

def text (name value : String) : String × FieldValue := (name, .text value)

def failureFields (e : Failure) : List (String × FieldValue) :=
  [text "code" e.code, text "error" e.message]

def presenceFields (e : PresenceEvent) : List (String × FieldValue) :=
  [text "result" e.result.name, ("sequence", .number e.sequence.toNat), text "address" e.address]

def resourceFields (d : Descriptor) : List (String × FieldValue) :=
  [text "address" d.address, text "uri" d.uri]

def ownFields : Notice → List (String × FieldValue)
  | attached c =>
    [text "presence_address" c.presenceAddress, text "query" c.discoveryQuery,
     text "dedup_policy" c.dedupPolicy.name]
  | subscriptionFailed e | sweepFailed e | unsubscribeFailed e | watchFailed _ e =>
    failureFields e
  | rolledBack n | stopped n => [("released", .number n)]
  | started address => [text "presence_address" address]
  | discoveryRequested host query => [text "host" (host.getD "multicast"), text "query" query]
  | presenceWhileStopping e | announcement e | departure e | presenceIgnored e =>
    presenceFields e
  | targetedFailed address e => text "address" address :: failureFields e
  | candidateUntagged d | candidateRefused d | candidateKnown _ d => resourceFields d
  | hosted _ d => resourceFields d ++ [("observable", .flag d.observable)]
  | released _ key => [text "address" key.address, text "uri" key.uri]
  | alreadyReleased _ => []
  | activated _ d | tornDown _ d => [text "uri" d.uri]
  | ended _ d cause => resourceFields d ++ [text "cause" cause.message]
  | published _ uri => [text "mirror_uri" uri]
  | originState _ s => [text "state" s.name]

def fields (x : Notice) : List (String × FieldValue) :=
  (match x.subject? with
    | none => []
    | some id => [text "mirror_id" id.text]) ++ x.ownFields

/-- Notices about no replica first, then those of each replica in the order of the ids; the order
of their coming decides the rest. -/
def bySubject (xs : List Notice) : List Notice :=
  let rank (x : Notice) : Nat := match x.subject? with
    | none => 0
    | some id => id.number
  xs.mergeSort fun x y => decide (rank x ≤ rank y)

end Notice

end ReplicaHosting

import ReplicaHosting.Node
/-!
Platforms that act by a script. A script says once and for all how the collaborators of a platform
behave, until it is changed.
-/
namespace ReplicaHosting.Stage

inductive WatchMode where
  | stream | pending | panic
  deriving DecidableEq, Repr, Inhabited

/-- How collaborators fail, whether new handles say that they are not subscribed, which events come
before a subscription is answered and when one is told to unsubscribe, and what is found on every
request. -/
structure Script where
  presenceError : Option Failure := none
  unsubscribeError : Option Failure := none
  discoveryError : Option Failure := none
  originError : Option Failure := none
  inactive : Bool := false
  onSubscribe : List PresenceEvent := []
  onUnsubscribe : List PresenceEvent := []
  onDiscover : List Descriptor := []
  watchMode : WatchMode := .stream
  deriving DecidableEq, Repr, Inhabited

/-- A change of a script; what is left out stays. -/
structure ScriptChange where
  presenceError : Option (Option Failure) := none
  unsubscribeError : Option (Option Failure) := none
  discoveryError : Option (Option Failure) := none
  originError : Option (Option Failure) := none
  inactive : Option Bool := none
  onSubscribe : Option (List PresenceEvent) := none
  onUnsubscribe : Option (List PresenceEvent) := none
  onDiscover : Option (List Descriptor) := none
  watchMode : Option WatchMode := none
  deriving DecidableEq, Repr, Inhabited

namespace Script

def change (s : Script) (c : ScriptChange) : Script :=
  { presenceError := c.presenceError.getD s.presenceError
    unsubscribeError := c.unsubscribeError.getD s.unsubscribeError
    discoveryError := c.discoveryError.getD s.discoveryError
    originError := c.originError.getD s.originError
    inactive := c.inactive.getD s.inactive
    onSubscribe := c.onSubscribe.getD s.onSubscribe
    onUnsubscribe := c.onUnsubscribe.getD s.onUnsubscribe
    onDiscover := c.onDiscover.getD s.onDiscover
    watchMode := c.watchMode.getD s.watchMode }

def discovery (s : Script) : DiscoveryReply :=
  { candidates := s.onDiscover, refusal := s.discoveryError }

def watch (s : Script) : Option WatchReply :=
  match s.originError with
  | some e => some (.fails e)
  | none =>
    match s.watchMode with
    | .stream => some .opens
    | .pending => none
    | .panic => some .panics

def beacons (discovery : DiscoveryReply) (es : List PresenceEvent) : List Beacon :=
  es.map fun event => { event, reply := discovery }

def subscription (s : Script) (discovery : DiscoveryReply) : SubscribeReply :=
  { beacons := beacons discovery s.onSubscribe
    outcome := match s.presenceError with
      | some e => .error e
      | none => .ok (!s.inactive) }

def unsubscription (s : Script) (discovery : DiscoveryReply) : UnsubscribeReply :=
  { beacons := beacons discovery s.onUnsubscribe, refusal := s.unsubscribeError }

end Script

end ReplicaHosting.Stage

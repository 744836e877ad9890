import ReplicaHosting.Failure
import ReplicaHosting.Json.Value
/-!
What a replica hears from its origin, and for what reasons it ends by itself.
-/
namespace ReplicaHosting

/-- Whether the origin can be reached: a probe may be on its way, no sign may have come in the time
agreed, or the resource may have been removed. -/
inductive OriginState where
  | alive
  | requested
  | lostSignal
  | destroyed
  deriving DecidableEq, Repr, Inhabited

namespace OriginState

def isLost : OriginState → Bool
  | alive | requested => false
  | lostSignal | destroyed => true

def name : OriginState → String
  | alive => "Alive"
  | requested => "Requested"
  | lostSignal => "LostSignal"
  | destroyed => "Destroyed"

end OriginState

abbrev Attributes := List (String × Json.Value)

inductive OriginEvent where
  | state (s : OriginState)
  | attributes (a : Attributes)
  | fault (reason : String)
  deriving Repr, Inhabited

inductive EndCause where
  | originLost (s : OriginState)
  | fault (reason : String)
  | watchFailed (e : Failure)
  | streamEnded
  | abandoned
  deriving DecidableEq, Repr, Inhabited

def EndCause.message : EndCause → String
  | originLost s => "origin lost (" ++ s.name ++ ")"
  | fault reason => "synchronization fault: " ++ reason
  | watchFailed e => "watch failed: " ++ e.message
  | streamEnded => "origin stream ended"
  | abandoned => "synchronization task dropped"

end ReplicaHosting

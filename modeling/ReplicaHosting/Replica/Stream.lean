import ReplicaHosting.Replica.Run
/-!
What an origin sends, and what a replica is to make of it, told without the task that listens. A
stream gives events one after the other and, should it come to an end, that end behind them. All
that counts is the items up to the first one that ends the replica, and neither when they were sent
nor when they were taken.
-/
namespace ReplicaHosting

/-- What a stream gives to whoever listens; behind its end nothing more comes. -/
inductive StreamItem where
  | event (e : OriginEvent)
  | finished
  deriving Repr, Inhabited

namespace StreamItem

def cause? : StreamItem → Option EndCause
  | event (.attributes _) => none
  | event (.state s) => if s.isLost then some (.originLost s) else none
  | event (.fault reason) => some (.fault reason)
  | finished => some .streamEnded

def attributes? : StreamItem → Option Attributes
  | event (.attributes a) => some a
  | event (.state _) | event (.fault _) | finished => none

/-- All items in front of the first one that ends the replica. -/
def upToEnd (items : List StreamItem) : List StreamItem :=
  items.takeWhile fun x => x.cause?.isNone

end StreamItem

/-- What a move sends into the stream, if it is a move of the origin that does. -/
def Move.sent? : Move → Option StreamItem
  | push e => some (.event e)
  | endStream => some .finished
  | activate _ _ | teardown | turn _ _ | answer _ | drop => none

/-- Whether a move ends a replica by force: it is torn down, or its runtime drops the task. -/
def Move.isForced : Move → Bool
  | teardown | drop => true
  | activate _ _ | turn _ _ | answer _ | push _ | endStream => false

namespace Descriptor

def servedUri (d : Descriptor) : String := (replicaUri? d.uri).getD d.uri

/-- What is shown of the resource after these items: the last attributes, and how many have come. -/
def shownAfter (d : Descriptor) (items : List StreamItem) : Option Snapshot :=
  let maps := items.filterMap StreamItem.attributes?
  maps.getLast?.map fun attributes =>
    { uri := d.servedUri
      resourceTypes := d.resourceTypes
      interfaces := d.interfaces
      attributes
      revision := maps.length }

end Descriptor

/-- What a replica does to the outside because of the items. It reports the first attributes and
every state of the origin that it survives, and at the item that ends it, it calls back. -/
def effectsOf (i : ReplicaId) (d : Descriptor) (c : Callback) :
    (seen : Bool) → List StreamItem → List Effect
  | _, [] => []
  | seen, .event (.attributes _) :: later =>
    (if seen then [] else [.notice (.published i d.servedUri)]) ++ effectsOf i d c true later
  | seen, .event (.state s) :: later =>
    if s.isLost then [.notice (.ended i d (.originLost s)), .calledBack i c]
    else .notice (.originState i s) :: effectsOf i d c seen later
  | _, .event (.fault reason) :: _ => [.notice (.ended i d (.fault reason)), .calledBack i c]
  | _, .finished :: _ => [.notice (.ended i d .streamEnded), .calledBack i c]

end ReplicaHosting

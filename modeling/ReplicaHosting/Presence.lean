/-!
Result codes of the presence channel and what each of them asks of a hosting node.

`PresenceResult.table` lists the named codes in ascending order. A number outside the table is
kept as `unknown`. A value `unknown n` may also be built for a number `n` of the table; it is not
the named result, and it is ignored like any other unknown number.
-/
namespace ReplicaHosting

inductive PresenceResult where
  | ok | resourceCreated | resourceDeleted | continue
  | invalidUri | invalidQuery | invalidIp | invalidPort | invalidCallback | invalidMethod
  | invalidParam | invalidObserveParam | noMemory | commError | timeout | adapterNotEnabled
  | notImplemented | noResource | resourceError | slowResource | duplicateRequest | noObservers
  | observerNotFound | virtualDoNotHandle | invalidOption | malformedResponse
  | persistentBufferRequired | invalidRequestHandle | invalidDeviceInfo | invalidJson
  | presenceStopped | presenceTimeout | presenceDoNotHandle | error
  | unknown (code : Int32)
  deriving DecidableEq, Repr, Inhabited

/-- What a result means to a hosting node: the device has news and is to be asked for its resources,
it leaves or its channel fails, or there is nothing to do. -/
inductive PresenceClass where
  | announcing
  | departure
  | ignored
  deriving DecidableEq, Repr, Inhabited

namespace PresenceResult

/-- The named results with their codes, in ascending order of the codes. -/
def table : List (Int32 × PresenceResult) :=
  [(0, ok), (1, resourceCreated), (2, resourceDeleted), (3, «continue»),
   (20, invalidUri), (21, invalidQuery), (22, invalidIp), (23, invalidPort),
   (24, invalidCallback), (25, invalidMethod), (26, invalidParam), (27, invalidObserveParam),
   (28, noMemory), (29, commError), (30, timeout), (31, adapterNotEnabled),
   (32, notImplemented), (33, noResource), (34, resourceError), (35, slowResource),
   (36, duplicateRequest), (37, noObservers), (38, observerNotFound), (39, virtualDoNotHandle),
   (40, invalidOption), (41, malformedResponse), (42, persistentBufferRequired),
   (43, invalidRequestHandle), (44, invalidDeviceInfo), (45, invalidJson),
   (128, presenceStopped), (129, presenceTimeout), (130, presenceDoNotHandle), (255, error)]

def named : List PresenceResult := table.map (·.2)

def ofCode (code : Int32) : PresenceResult :=
  match table.find? (fun row => row.1 == code) with
  | some (_, r) => r
  | none => unknown code

/-- The code of a result; a named result missing from the table would have code -1. -/
def code : PresenceResult → Int32
  | unknown n => n
  | r =>
    match table.find? (fun row => row.2 == r) with
    | some (n, _) => n
    | none => -1

/-- What the result means to a hosting node. Only the three results that say "here I am" announce
anything; a number outside the table never does. -/
def classify : PresenceResult → PresenceClass
  | ok | resourceCreated | «continue» => .announcing
  | resourceDeleted | commError | timeout | presenceStopped | presenceTimeout
  | presenceDoNotHandle | error => .departure
  | _ => .ignored

def name : PresenceResult → String
  | ok => "Ok" | resourceCreated => "ResourceCreated" | resourceDeleted => "ResourceDeleted"
  | «continue» => "Continue" | invalidUri => "InvalidUri" | invalidQuery => "InvalidQuery"
  | invalidIp => "InvalidIp" | invalidPort => "InvalidPort"
  | invalidCallback => "InvalidCallback" | invalidMethod => "InvalidMethod"
  | invalidParam => "InvalidParam" | invalidObserveParam => "InvalidObserveParam"
  | noMemory => "NoMemory" | commError => "CommError" | timeout => "Timeout"
  | adapterNotEnabled => "AdapterNotEnabled" | notImplemented => "NotImplemented"
  | noResource => "NoResource" | resourceError => "ResourceError"
  | slowResource => "SlowResource" | duplicateRequest => "DuplicateRequest"
  | noObservers => "NoObservers" | observerNotFound => "ObserverNotFound"
  | virtualDoNotHandle => "VirtualDoNotHandle" | invalidOption => "InvalidOption"
  | malformedResponse => "MalformedResponse"
  | persistentBufferRequired => "PersistentBufferRequired"
  | invalidRequestHandle => "InvalidRequestHandle" | invalidDeviceInfo => "InvalidDeviceInfo"
  | invalidJson => "InvalidJson" | presenceStopped => "PresenceStopped"
  | presenceTimeout => "PresenceTimeout" | presenceDoNotHandle => "PresenceDoNotHandle"
  | error => "Error"
  | unknown n => "Unknown(" ++ toString n ++ ")"

end PresenceResult

def PresenceClass.name : PresenceClass → String
  | announcing => "Announcing"
  | departure => "Departure"
  | ignored => "Ignored"

/-- One event of the presence channel. The sequence number is only reported, never acted upon. -/
structure PresenceEvent where
  result : PresenceResult
  sequence : UInt32 := 0
  address : String
  deriving DecidableEq, Repr, Inhabited

end ReplicaHosting

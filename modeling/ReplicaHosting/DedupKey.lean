import ReplicaHosting.Config
/-!
The key under which a node keeps a replica. Two descriptors have one key exactly if the policy
counts them as one resource.
-/
namespace ReplicaHosting

structure DedupKey where
  address : String
  uri : String
  instanceId : Option String
  deriving DecidableEq, Repr, Inhabited

namespace DedupKey

def ofDescriptor (policy : DedupPolicy) (d : Descriptor) : DedupKey :=
  { address := d.address
    uri := d.uri
    instanceId := if policy.includesInstance then d.instanceId else none }

def display (k : DedupKey) : String :=
  Text.record "DedupKey"
    [("address", Text.quoted k.address), ("uri", Text.quoted k.uri),
     ("instance_id", Text.optional (k.instanceId.map Text.quoted))]

end DedupKey

def Config.dedupKey (c : Config) (d : Descriptor) : DedupKey :=
  .ofDescriptor c.dedupPolicy d

end ReplicaHosting

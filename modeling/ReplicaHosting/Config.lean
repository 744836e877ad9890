import ReplicaHosting.Descriptor
import ReplicaHosting.Failure
import ReplicaHosting.Text.Blank
/-!
The configuration of a hosting node: where it listens, what it asks for, and when two descriptors
count as one resource.
-/
namespace ReplicaHosting

/-- What makes two descriptors the same resource to the node: address and URI, or the instance as
well, where to have no instance is a value like any other. -/
inductive DedupPolicy where
  | addressAndUri
  | addressUriAndInstance
  deriving DecidableEq, Repr, Inhabited

namespace DedupPolicy

def all : List DedupPolicy := [addressAndUri, addressUriAndInstance]

def word : DedupPolicy → String
  | addressAndUri => "address_and_uri"
  | addressUriAndInstance => "address_uri_and_instance"

def name : DedupPolicy → String
  | addressAndUri => "AddressAndUri"
  | addressUriAndInstance => "AddressUriAndInstance"

def ofWord? (w : String) : Option DedupPolicy := all.find? fun p => p.word == w

def includesInstance : DedupPolicy → Bool
  | addressAndUri => false
  | addressUriAndInstance => true

end DedupPolicy

/-- What a node has to know before it can host: where presence is subscribed to, and which path and
which type discovery is asked for. -/
structure Config where
  presenceAddress : String := "coap://224.0.1.187:5683"
  discoveryUri : String := "/oic/res"
  resourceType : String := "Resource.Hosting"
  connectivity : Connectivity := .default
  dedupPolicy : DedupPolicy := .addressAndUri
  deriving DecidableEq, Repr, Inhabited

namespace Config

inductive Fault where
  | noPresenceAddress
  | relativeDiscoveryUri (uri : String)
  | noResourceType
  deriving DecidableEq, Repr

def Fault.message : Fault → String
  | noPresenceAddress => "presence_address must not be empty"
  | relativeDiscoveryUri uri => "discovery_uri `" ++ uri ++ "` must start with `/`"
  | noResourceType => "resource_type must not be empty"

def fault? (c : Config) : Option Fault :=
  if Text.isVoid c.presenceAddress then some .noPresenceAddress
  else if c.discoveryUri.toList.head? != some '/' then some (.relativeDiscoveryUri c.discoveryUri)
  else if Text.isVoid c.resourceType then some .noResourceType
  else none

def validate (c : Config) : Except Failure Unit :=
  match c.fault? with
  | none => .ok ()
  | some f => .error (.invalidArgument f.message)

theorem fault?_eq_none_iff {c : Config} :
    c.fault? = none ↔ (∃ x ∈ c.presenceAddress.toList, Text.isBlank x = false) ∧
      c.discoveryUri.toList.head? = some '/' ∧
      ∃ x ∈ c.resourceType.toList, Text.isBlank x = false := by
  rw [← Text.isVoid_eq_false_iff, ← Text.isVoid_eq_false_iff, fault?]
  cases Text.isVoid c.presenceAddress <;> cases Text.isVoid c.resourceType <;>
    by_cases rooted : c.discoveryUri.toList.head? = some '/' <;> simp [rooted]

def discoveryQuery (c : Config) : String := c.discoveryUri ++ "?rt=" ++ c.resourceType

end Config

end ReplicaHosting

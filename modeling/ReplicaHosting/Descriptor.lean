/-!
Remote resources as discovery describes them. A resource offers itself for hosting by a tag at the
end of its URI; the replica serves the URI without that tag.
-/
namespace ReplicaHosting

inductive Connectivity where
  | default | ip | ble | rfcomm
  deriving DecidableEq, Repr, Inhabited

namespace Connectivity

def all : List Connectivity := [default, ip, ble, rfcomm]

def word : Connectivity → String
  | default => "default"
  | ip => "ip"
  | ble => "ble"
  | rfcomm => "rfcomm"

def name : Connectivity → String
  | default => "Default"
  | ip => "Ip"
  | ble => "Ble"
  | rfcomm => "Rfcomm"

def ofWord? (w : String) : Option Connectivity := all.find? fun c => c.word == w

end Connectivity

def hostingTag : String := "/hosting"

def isHostable (uri : String) : Bool := hostingTag.toList.isSuffixOf uri.toList

def cutEnd (tail s : List Char) : Option (List Char) :=
  let n := s.length - tail.length
  if s.drop n = tail then some (s.take n) else none

/-- The URI that a replica serves: the URI without one hosting tag. The bare tag leaves the empty
URI. -/
def replicaUri? (uri : String) : Option String :=
  (cutEnd hostingTag.toList uri.toList).map String.ofList

structure Descriptor where
  address : String
  uri : String
  resourceTypes : List String := []
  interfaces : List String := []
  observable : Bool := false
  instanceId : Option String := none
  deriving DecidableEq, Repr, Inhabited

namespace Descriptor

def isHostable (d : Descriptor) : Bool := ReplicaHosting.isHostable d.uri

/-- Two descriptors name one resource if address and URI agree, whatever their instances. -/
def sameResource (d e : Descriptor) : Bool := d.address == e.address && d.uri == e.uri

end Descriptor

end ReplicaHosting

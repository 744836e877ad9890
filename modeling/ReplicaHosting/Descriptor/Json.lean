import ReplicaHosting.Descriptor
import ReplicaHosting.Json.Skip
import ReplicaHosting.Json.Value
/-!
Descriptors and connectivity scopes as JSON. A descriptor is written as an object with its six
fields in the order of the type. It is read from an object with the fields in any order, or from a
list with the values in the order of the type; only address and URI have to be there.
-/
namespace ReplicaHosting

open Json (DecodeError Reading)

namespace Descriptor

inductive Field where
  | address | uri | resourceTypes | interfaces | observable | instanceId
  deriving DecidableEq, Repr

namespace Field

def all : List Field := [address, uri, resourceTypes, interfaces, observable, instanceId]

def key : Field → String
  | address => "address"
  | uri => "uri"
  | resourceTypes => "resource_types"
  | interfaces => "interfaces"
  | observable => "observable"
  | instanceId => "instance_id"

def ofKey? (k : String) : Option Field := all.find? fun f => f.key == k

end Field

def render (d : Descriptor) : String :=
  let list (xs : List String) := Json.bracketed (xs.map Json.renderText)
  String.ofList <| Json.braced
    [Json.renderMember "address" (Json.renderText d.address),
     Json.renderMember "uri" (Json.renderText d.uri),
     Json.renderMember "resource_types" (list d.resourceTypes),
     Json.renderMember "interfaces" (list d.interfaces),
     Json.renderMember "observable" (Json.renderBool d.observable),
     Json.renderMember "instance_id" (match d.instanceId with
       | none => "null".toList
       | some i => Json.renderText i)]

structure Draft where
  address : Option String := none
  uri : Option String := none
  resourceTypes : Option (List String) := none
  interfaces : Option (List String) := none
  observable : Option Bool := none
  instanceId : Option (Option String) := none
  deriving Repr, Inhabited

namespace Draft

def has (x : Draft) : Field → Bool
  | .address => x.address.isSome
  | .uri => x.uri.isSome
  | .resourceTypes => x.resourceTypes.isSome
  | .interfaces => x.interfaces.isSome
  | .observable => x.observable.isSome
  | .instanceId => x.instanceId.isSome

def take (x : Draft) (f : Field) (s : List Char) : Reading Draft :=
  let put {α : Type} (set : α → Draft) : Reading α → Reading Draft
    | .error e => .error e
    | .ok (v, r) => .ok (set v, r)
  match f with
  | .address => put (fun v => { x with address := some v }) (Json.readString .text s)
  | .uri => put (fun v => { x with uri := some v }) (Json.readString .text s)
  | .resourceTypes => put (fun v => { x with resourceTypes := some v }) (Json.readList s)
  | .interfaces => put (fun v => { x with interfaces := some v }) (Json.readList s)
  | .observable => put (fun v => { x with observable := some v }) (Json.readBoolean s)
  | .instanceId => put (fun v => { x with instanceId := some v }) (Json.readOptional s)

/-- The descriptor made of the fields met; address and URI are missed in this order. -/
def finish (x : Draft) : Except DecodeError Descriptor :=
  match x.address, x.uri with
  | none, _ => .error (.missing Field.address.key)
  | some _, none => .error (.missing Field.uri.key)
  | some address, some uri =>
    .ok { address, uri
          resourceTypes := x.resourceTypes.getD []
          interfaces := x.interfaces.getD []
          observable := x.observable.getD false
          instanceId := x.instanceId.getD none }

end Draft

/-- Reads one member whose opening quote has been read. A field met before is refused on sight of
its name; a member that is no field is skipped. -/
def readMember (x : Draft) (s : List Char) : Except DecodeError (Draft × List Char) := do
  let (name, s) ← Json.readText s
  match Field.ofKey? (String.ofList name) with
  | some f =>
    if x.has f then throw (.repeated f.key)
    let s ← Json.afterColon s
    x.take f s
  | none =>
    let s ← Json.afterColon s
    match Json.skipValue [] s with
    | none => throw .malformed
    | some s => return (x, s)

/-- Reads the members of an object up to its closing brace. Every member takes at least one
character, so `fuel` need not exceed the length of the text. -/
def readMembers : Nat → Bool → Draft → List Char → Reading Draft
  | 0, _, _, _ => .error .malformed
  | fuel + 1, first, x, s =>
    match Json.nextMember first s with
    | .error e => .error e
    | .ok (false, r) => .ok (x, r)
    | .ok (true, r) =>
      match readMember x r with
      | .error e => .error e
      | .ok (x, r) => readMembers fuel false x r

/-- Reads a descriptor from its list form, the opening bracket being read: fields in the order of
the type, the last four of which may be left out. -/
def readEntries : List Field → Nat → Draft → List Char → Reading Draft
  | [], _, x, s => .ok (x, s)
  | f :: fields, n, x, s =>
    match Json.nextEntry (n == 0) s with
    | .error e => .error e
    | .ok (false, r) =>
      if n < 2 then .error (.tooShort n .descriptor Field.all.length) else .ok (x, r)
    | .ok (true, r) =>
      match x.take f r with
      | .error e => .error e
      | .ok (x, r) => readEntries fields (n + 1) x r

def read (s : List Char) : Except DecodeError (Descriptor × List Char) :=
  match Json.skipSpace s with
  | '[' :: r => do
    let (x, r) ← readEntries Field.all 0 {} r
    let d ← x.finish
    let r ← Json.endList r
    return (d, r)
  | '\x7b' :: r => do
    let (x, r) ← readMembers (r.length + 1) true {} r
    let d ← x.finish
    return (d, r)
  | s => .error (Json.mismatch .descriptor s)

end Descriptor

namespace Connectivity

def ofWord (w : String) : Except DecodeError Connectivity :=
  match ofWord? w with
  | none => .error (.unknownVariant w (all.map word))
  | some c => .ok c

def readWord (s : List Char) : Except DecodeError (Connectivity × List Char) := do
  let (w, r) ← Json.readText s
  let c ← ofWord (String.ofList w)
  return (c, r)

/-- Reads a scope: its word, or an object with the word as its one name and null as the value. -/
def read (s : List Char) : Except DecodeError (Connectivity × List Char) :=
  match Json.skipSpace s with
  | '\x22' :: r => readWord r
  | '\x7b' :: r => do
    let (c, r) ← match Json.skipSpace r with
      | '\x22' :: r => readWord r
      | _ => .error .malformed
    let r ← Json.afterColon r
    match Json.skipSpace r with
    | 'n' :: r => do
      let (_, r) ← Json.readWord "ull" () r
      match Json.skipSpace r with
      | '\x7d' :: r => return (c, r)
      | _ => throw .malformed
    | r => throw (Json.mismatch .unit r)
  | _ => .error .malformed

end Connectivity

def Descriptor.parse (text : String) : Except DecodeError Descriptor :=
  Json.whole Descriptor.read text

def Connectivity.parse (text : String) : Except DecodeError Connectivity :=
  Json.whole Connectivity.read text

end ReplicaHosting

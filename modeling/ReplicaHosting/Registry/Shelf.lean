import ReplicaHosting.Replica
/-!
A registry with the replicas that are built for it, and nothing around them: no node, no tasks.
-/
namespace ReplicaHosting

/-- A way to build replicas: what it builds bears the id that it is given. -/
structure Maker where
  make : ReplicaId → Replica
  id_make : ∀ id, (make id).id = id

/-- Builds for a descriptor what stands by itself: its end is noted and no more. -/
def Maker.plain (d : Descriptor) : Maker where
  make id := { id, descriptor := d, callback := some .report }
  id_make _ := rfl

structure Shelf where
  registry : Registry := {}
  replicas : List Replica := []
  deriving Repr, Inhabited

namespace Shelf

def replica? (id : ReplicaId) (s : Shelf) : Option Replica := s.replicas.find? fun r => r.id == id

def replicasOf (ids : List ReplicaId) (s : Shelf) : List Replica :=
  (ReplicaId.sorted ids).filterMap fun id => s.replica? id

def hosted (s : Shelf) : List Replica := s.replicasOf s.registry.ids

def build (maker : Maker) (id : ReplicaId) : StateM (List ReplicaId) Replica := do
  modify (· ++ [id])
  return maker.make id

/-- Asks for a place for what a maker builds; the ids for which replicas were built, what came of
it, and the shelf afterwards. -/
def enrollMade (key : DedupKey) (maker : Maker) (s : Shelf) :
    List ReplicaId × Admission Replica × Shelf :=
  let ((admission, registry), built) := (s.registry.enrollWith key (build maker)).run []
  let added := match admission with
    | .admitted r => [r]
    | _ => []
  (built, admission, { registry, replicas := s.replicas ++ added })

def enroll (key : DedupKey) (d : Descriptor) (s : Shelf) :
    List ReplicaId × Admission Replica × Shelf := s.enrollMade key (.plain d)

def remove (key : DedupKey) (id : ReplicaId) (s : Shelf) : Option Replica × Shelf :=
  match s.registry.remove? key id with
  | none => (none, s)
  | some registry => (s.replica? id, { s with registry })

def drain (s : Shelf) : List Replica × Shelf :=
  (s.hosted, { s with registry := s.registry.clear })

/-- Tears down a replica of the registry; whether that ended it, or none if it is not there. -/
def teardown (id : ReplicaId) (s : Shelf) : Option Bool × Shelf :=
  if s.registry.ids.contains id then
    match s.replica? id with
    | none => (none, s)
    | some r =>
      let (ended, after, _) := r.teardown
      (some ended, { s with replicas := s.replicas.map fun x => if x.id = id then after else x })
  else (none, s)

end Shelf

def Admission.display : Admission Replica → String
  | admitted r => "Admitted(" ++ r.display ++ ")"
  | alreadyHosted id => "AlreadyHosted(" ++ id.display ++ ")"
  | stopping => "Stopping"

end ReplicaHosting

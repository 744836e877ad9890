import ReplicaHosting.DedupKey
/-!
The registry of a node: which replica is kept under which key. It hands out the ids of replicas,
counting from one and never going back, and it can be closed to newcomers. The count is unbounded
here, where a counter of 64 bits would overflow after 2^64 ids.

An entry is removed by key and id together, so whoever still holds the id of an earlier replica
cannot remove a later one.
-/
namespace ReplicaHosting

structure ReplicaId where
  number : Nat
  deriving DecidableEq, Repr, Inhabited

namespace ReplicaId

def text (i : ReplicaId) : String := "mirror-" ++ toString i.number

def display (i : ReplicaId) : String := "MirrorId(" ++ toString i.number ++ ")"

def sorted (ids : List ReplicaId) : List ReplicaId :=
  (ids.mergeSort fun i j => decide (i.number ≤ j.number)).eraseReps

end ReplicaId

/-- What comes of asking for a place in the registry: a new entry for what has been built, the id of
the replica that has the key already, or nothing, since the registry is closed. -/
inductive Admission (α : Type) where
  | admitted (built : α)
  | alreadyHosted (id : ReplicaId)
  | stopping
  deriving DecidableEq, Repr, Inhabited

/-- The entries, whether the registry is closed, and how many ids it has handed out. -/
structure Registry where
  entries : List (DedupKey × ReplicaId) := []
  stopping : Bool := false
  issued : Nat := 0
  deriving DecidableEq, Repr, Inhabited

namespace Registry

def find? (r : Registry) (key : DedupKey) : Option ReplicaId :=
  (r.entries.find? fun e => e.1 == key).map (·.2)

def contains (r : Registry) (key : DedupKey) : Bool := (r.find? key).isSome

def ids (r : Registry) : List ReplicaId := r.entries.map (·.2)

def size (r : Registry) : Nat := r.entries.length

def isEmpty (r : Registry) : Bool := r.entries.isEmpty

/-- Asks for a place under a key: an open registry with the key free gives the next id. -/
def enroll (r : Registry) (key : DedupKey) : Admission ReplicaId × Registry :=
  if r.stopping then (.stopping, r)
  else
    match r.find? key with
    | some id => (.alreadyHosted id, r)
    | none =>
      let id : ReplicaId := ⟨r.issued + 1⟩
      (.admitted id, { r with entries := r.entries ++ [(key, id)], issued := r.issued + 1 })

/-- Asks for a place and builds what is to be kept there, with the id it is given. Nothing is
built for a key that is refused. -/
def enrollWith {m : Type → Type} [Monad m] {α : Type} (r : Registry) (key : DedupKey)
    (build : ReplicaId → m α) : m (Admission α × Registry) :=
  match r.enroll key with
  | (.admitted id, r) => do
    let x ← build id
    return (.admitted x, r)
  | (.alreadyHosted id, r) => return (.alreadyHosted id, r)
  | (.stopping, r) => return (.stopping, r)

def remove? (r : Registry) (key : DedupKey) (id : ReplicaId) : Option Registry :=
  if r.find? key = some id then
    some { r with entries := r.entries.filter fun e => !(e.1 == key) }
  else none

def close (r : Registry) : Registry := { r with stopping := true }

def reopen (r : Registry) : Registry := { r with stopping := false }

def clear (r : Registry) : Registry := { r with entries := [] }

end Registry

end ReplicaHosting

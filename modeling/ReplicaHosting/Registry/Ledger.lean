import ReplicaHosting.Registry.Shelf
/-!
The books of a shelf by itself: whom its registry has admitted, whom it has given back, by removals
or by drains, and for which ids something has been built. The books are kept from the answers that
the registry gives; nothing is looked up in it.
-/
namespace ReplicaHosting

inductive Errand where
  | enroll (key : DedupKey) (maker : Maker)
  | remove (key : DedupKey) (id : ReplicaId)
  | close
  | reopen
  | drain

/-- A shelf with whom it has admitted under which key, what removals and each of the drains have
given back, and for which ids something has been built, all in order. -/
structure Ledger where
  shelf : Shelf := {}
  admitted : List (DedupKey × Replica) := []
  removed : List Replica := []
  drained : List (List Replica) := []
  built : List ReplicaId := []
  deriving Repr, Inhabited

namespace Ledger

def serve (l : Ledger) : Errand → Ledger
  | .enroll key maker =>
    let (built, admission, shelf) := l.shelf.enrollMade key maker
    let newcomers := match admission with
      | .admitted r => [(key, r)]
      | .alreadyHosted _ | .stopping => []
    { l with shelf, admitted := l.admitted ++ newcomers, built := l.built ++ built }
  | .remove key id =>
    let (r, shelf) := l.shelf.remove key id
    { l with shelf, removed := l.removed ++ r.toList }
  | .close => { l with shelf := { l.shelf with registry := l.shelf.registry.close } }
  | .reopen => { l with shelf := { l.shelf with registry := l.shelf.registry.reopen } }
  | .drain =>
    let (rs, shelf) := l.shelf.drain
    { l with shelf, drained := l.drained ++ [rs] }

def run (l : Ledger) (errands : List Errand) : Ledger := errands.foldl serve l

/-- Everybody who has been given back, as often as that has happened. -/
def gone (l : Ledger) : List Replica := l.removed ++ l.drained.flatten

def present (l : Ledger) : List (DedupKey × Replica) :=
  l.admitted.filter fun a => !(l.gone.map Replica.id).contains a.2.id

end Ledger

end ReplicaHosting

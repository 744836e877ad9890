import ReplicaHosting.Registry
/-!
Runs of a registry by itself: places are asked for and given up, and it is closed, opened and
emptied, in any order. What is built for a place bears the id that comes with the place, so the id
stands for it here.
-/
namespace ReplicaHosting

inductive Request where
  | enroll (key : DedupKey)
  | remove (key : DedupKey) (id : ReplicaId)
  | close
  | reopen
  | drain
  deriving DecidableEq, Repr, Inhabited

namespace Registry

def serve (r : Registry) : Request → Registry
  | .enroll key => (r.enroll key).2
  | .remove key id => (r.remove? key id).getD r
  | .close => r.close
  | .reopen => r.reopen
  | .drain => r.clear

def admits? (r : Registry) : Request → Option ReplicaId
  | .enroll key =>
    match (r.enroll key).1 with
    | .admitted id => some id
    | .alreadyHosted _ | .stopping => none
  | .remove _ _ | .close | .reopen | .drain => none

def run (r : Registry) (requests : List Request) : Registry := requests.foldl serve r

def admissions (r : Registry) : List Request → List ReplicaId
  | [] => []
  | q :: qs => (r.admits? q).toList ++ (r.serve q).admissions qs

end Registry

end ReplicaHosting

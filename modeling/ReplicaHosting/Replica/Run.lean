import ReplicaHosting.Replica
/-!
Runs of a single replica: calls from outside, turns of its task, what its origin does meanwhile and
the loss of its task, in any order. A poll of the task is some turns in a row, so it needs no move
of its own. A course keeps what has come of the moves beside the replica.
-/
namespace ReplicaHosting

inductive Move where
  | activate (platform runtime : Nat)
  | teardown
  | turn (pick : Branch) (reply : Option WatchReply)
  | answer (a : WatchReply)
  | push (e : OriginEvent)
  | endStream
  | drop
  deriving Repr, Inhabited

def Lifecycle.successors : Lifecycle → List Lifecycle
  | created => [created, active, terminated]
  | active => [active, terminated]
  | terminated => [terminated]

def Effect.callback? : Effect → Option (ReplicaId × Callback)
  | calledBack id c => some (id, c)
  | _ => none

def Effect.watch? : Effect → Option Nat
  | watch platform => some platform
  | _ => none

namespace Replica

def make (id : ReplicaId) (d : Descriptor) (c : Callback) : Replica :=
  { id, descriptor := d, callback := some c }

/-- The task is dropped by its runtime; without a task there is nothing to drop. -/
def loseTask (r : Replica) : Replica × List Effect :=
  if r.task.isSome then r.dropTask else (r, [])

def move (r : Replica) : Move → Replica × List Effect
  | .activate platform runtime => (r.activate platform runtime).2
  | .teardown => r.teardown.2
  | .turn pick reply => r.turn pick reply
  | .answer a => (r.answer a, [])
  | .push e => (r.push e, [])
  | .endStream => (r.endStream, [])
  | .drop => r.loseTask

end Replica

/-- A replica and what has come of its moves so far, with the number of activations and teardowns
that have reported success. -/
structure Course where
  replica : Replica
  activations : Nat := 0
  teardowns : Nat := 0
  effects : List Effect := []
  deriving Repr, Inhabited

namespace Course

def callbacks (c : Course) : List (ReplicaId × Callback) := c.effects.filterMap Effect.callback?

def watches (c : Course) : List Nat := c.effects.filterMap Effect.watch?

/-- One move. Of an activation or a teardown it is counted what the call returns. -/
def step (c : Course) (m : Move) : Course :=
  let (r, es) := c.replica.move m
  { replica := r
    activations := c.activations + (match m with
      | .activate platform runtime => (c.replica.activate platform runtime).1.toNat
      | _ => 0)
    teardowns := c.teardowns + (match m with
      | .teardown => c.replica.teardown.1.toNat
      | _ => 0)
    effects := c.effects ++ es }

def run (c : Course) (moves : List Move) : Course := moves.foldl step c

end Course

end ReplicaHosting

import ReplicaHosting.Registry
/-!
Tasks that wait for their turns, in the order in which one worker serves them.

A task that has been woken from outside is a newcomer. One that gives way in its turn comes back,
but not before the round is over: those that gave way in a round are then lined up with the last of
them in front. Who has come back goes before the newcomers, except in every so many turns, so that
a newcomer does not wait for ever. A round is over after so many turns, or when nobody waits.
-/
namespace ReplicaHosting.Stage

def turnsPerRound : Nat := 61

/-- A newcomer goes first in each turn whose number is a multiple of this. -/
def turnsPerNewcomer : Nat := 31

/-- Of the newcomers who has waited longest stands first, of those back from an earlier round who is
next, of those who gave way in this round the latest. Turns are counted from the beginning, and down
to the end of the round. -/
structure Lineup where
  newcomers : List ReplicaId
  returning : List ReplicaId := []
  givenWay : List ReplicaId := []
  turns : Nat := 0
  left : Nat := turnsPerRound
  deriving DecidableEq, Repr, Inhabited

inductive Served where
  | newcomer (id : ReplicaId)
  | returning (id : ReplicaId)
  deriving DecidableEq, Repr

def Served.id : Served → ReplicaId
  | .newcomer id | .returning id => id

namespace Lineup

def isIdle (l : Lineup) : Bool := l.newcomers.isEmpty && l.returning.isEmpty

def isRoundOver (l : Lineup) : Bool := l.left == 0 || l.isIdle

def nextRound (l : Lineup) : Lineup :=
  { l with returning := l.returning ++ l.givenWay, givenWay := [], left := turnsPerRound }

def count (l : Lineup) : Lineup := { l with turns := l.turns + 1, left := l.left - 1 }

def serve? (l : Lineup) : Option (Served × Lineup) :=
  match l.newcomers, l.returning with
  | [], [] => none
  | n :: ns, [] => some (.newcomer n, { l.count with newcomers := ns })
  | [], r :: rs => some (.returning r, { l.count with returning := rs })
  | n :: ns, r :: rs =>
    if (l.turns + 1) % turnsPerNewcomer == 0 then
      some (.newcomer n, { l.count with newcomers := ns })
    else some (.returning r, { l.count with returning := rs })

def next? (l : Lineup) : Option (Served × Lineup) :=
  if l.isRoundOver then l.nextRound.serve? else l.serve?

def giveWay (id : ReplicaId) (l : Lineup) : Lineup := { l with givenWay := id :: l.givenWay }

end Lineup

end ReplicaHosting.Stage

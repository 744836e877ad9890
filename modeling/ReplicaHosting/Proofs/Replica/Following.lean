import ReplicaHosting.Replica.Stream
import ReplicaHosting.Proofs.Replica.Stopping
import ReplicaHosting.Proofs.Replica.Watching

/-! A replica follows its stream item by item. At every moment what has been sent falls into what
has been taken and what still waits in the stream, and the replica is what the taken part makes of
it; so when nothing waits any more, no trace is left of how sending and taking were interleaved. -/
namespace ReplicaHosting

namespace StreamItem

/-- The events of waiting items; behind an end of the stream none is let in. -/
def waitingEvents : List StreamItem → List OriginEvent
  | [] => []
  | event e :: later => e :: waitingEvents later
  | finished :: _ => []

def isFinished : StreamItem → Bool
  | event _ => false
  | finished => true

theorem waitingEvents_append (items : List StreamItem) (x : StreamItem) :
    waitingEvents (items ++ [x]) =
      if items.any isFinished then waitingEvents items
      else waitingEvents items ++ waitingEvents [x] := by
  induction items with
  | nil => rfl
  | cons y items ih =>
    cases y with
    | finished => rfl
    | event e =>
      simp only [List.cons_append, waitingEvents, ih, List.any_cons, isFinished, Bool.false_or]
      split
      · rfl
      · rfl

theorem cause?_eq_none_iff (x : StreamItem) : x.cause? = none ↔
    (∃ a, x = .event (.attributes a)) ∨ ∃ s, s.isLost = false ∧ x = .event (.state s) := by
  cases x with
  | finished => simp [cause?]
  | event e =>
    cases e with
    | attributes a => simp [cause?]
    | fault reason => simp [cause?]
    | state s => cases lost : s.isLost <;> simp [cause?, lost]

theorem upToEnd_of_going {items : List StreamItem} (going : ∀ x ∈ items, x.cause? = none) :
    upToEnd items = items := by
  induction items with
  | nil => rfl
  | cons x items ih =>
    have rest := ih fun y mem => going y (List.mem_cons_of_mem x mem)
    simp only [upToEnd] at rest ⊢
    rw [List.takeWhile_cons, going x List.mem_cons_self, rest]
    rfl

theorem upToEnd_of_ends {taken : List StreamItem} (going : ∀ x ∈ taken, x.cause? = none)
    {last : StreamItem} {cause : EndCause} (ends : last.cause? = some cause)
    (later : List StreamItem) : upToEnd (taken ++ last :: later) = taken := by
  induction taken with
  | nil => simp [upToEnd, ends]
  | cons x taken ih =>
    have first := going x List.mem_cons_self
    have rest := ih fun y mem => going y (List.mem_cons_of_mem x mem)
    simp only [upToEnd] at rest ⊢
    rw [List.cons_append, List.takeWhile_cons, first, rest]
    rfl

end StreamItem

open StreamItem

theorem Descriptor.shownAfter_of_unseen (d : Descriptor) (items : List StreamItem) {x : StreamItem}
    (other : x.attributes? = none) : d.shownAfter (items ++ [x]) = d.shownAfter items := by
  simp [shownAfter, other]

theorem Descriptor.shownAfter_attributes (d : Descriptor) (items : List StreamItem)
    (a : Attributes) : d.shownAfter (items ++ [.event (.attributes a)]) =
      some { uri := d.servedUri, resourceTypes := d.resourceTypes, interfaces := d.interfaces
             attributes := a, revision := (items.filterMap attributes?).length + 1 } := by
  simp [shownAfter, attributes?]

/-! ## What is reported -/

variable {i : ReplicaId} {d : Descriptor} {c : Callback}

def hasSeen (items : List StreamItem) : Bool := items.any fun x => x.attributes?.isSome

theorem effectsOf_append {taken : List StreamItem} (going : ∀ x ∈ taken, x.cause? = none)
    (seen : Bool) (later : List StreamItem) :
    effectsOf i d c seen (taken ++ later) =
      effectsOf i d c seen taken ++ effectsOf i d c (seen || hasSeen taken) later := by
  induction taken generalizing seen with
  | nil => simp [effectsOf, hasSeen]
  | cons x taken ih =>
    have rest (seen : Bool) := ih (fun y mem => going y (List.mem_cons_of_mem x mem)) seen
    rcases (cause?_eq_none_iff x).mp (going x List.mem_cons_self) with ⟨a, rfl⟩ | ⟨s, alive, rfl⟩
    · simp [effectsOf, rest, hasSeen, attributes?]
    · simp [effectsOf, alive, rest, hasSeen, attributes?]

theorem effectsOf_of_ends {last : StreamItem} {cause : EndCause} (ends : last.cause? = some cause)
    (seen : Bool) (later : List StreamItem) :
    effectsOf i d c seen (last :: later) = [.notice (.ended i d cause), .calledBack i c] := by
  cases last with
  | finished =>
    cases ends
    rfl
  | event e =>
    cases e with
    | attributes a => cases ends
    | fault reason =>
      cases ends
      rfl
    | state s =>
      cases lost : s.isLost with
      | false => simp [cause?, lost] at ends
      | true =>
        simp only [cause?, lost, if_true, Option.some.injEq] at ends
        simp only [effectsOf, lost, if_true, ends]

theorem calls_effectsOf {taken : List StreamItem} (going : ∀ x ∈ taken, x.cause? = none)
    (seen : Bool) : (effectsOf i d c seen taken).filterMap Effect.callback? = [] := by
  have silent (n : Notice) : (Effect.notice n).callback? = none := rfl
  induction taken generalizing seen with
  | nil => rfl
  | cons x taken ih =>
    have rest (seen : Bool) := ih (fun y mem => going y (List.mem_cons_of_mem x mem)) seen
    rcases (cause?_eq_none_iff x).mp (going x List.mem_cons_self) with ⟨a, rfl⟩ | ⟨s, alive, rfl⟩
    · rw [effectsOf, List.filterMap_append, rest]
      cases seen with
      | false => rfl
      | true => rfl
    · rw [effectsOf, alive]
      exact (List.filterMap_cons_none (silent _)).trans (rest seen)

/-! ## One move -/

namespace Replica

/-- The replica while it is listening: so much has been taken, and so much waits. -/
def listening (i : ReplicaId) (d : Descriptor) (c : Callback) (platform runtime : Nat)
    (taken waiting : List StreamItem) : Replica :=
  { id := i
    descriptor := d
    lifecycle := .active
    callback := some c
    hasSender := true
    snapshot := d.shownAfter taken
    task := some { platform, runtime
                   phase := .streaming (waitingEvents waiting) (waiting.any isFinished) } }

def parted (i : ReplicaId) (d : Descriptor) : Replica :=
  { id := i, descriptor := d, lifecycle := .terminated, callback := none }

theorem finish_listening (platform runtime : Nat) (taken waiting : List StreamItem)
    (cause : EndCause) :
    (listening i d c platform runtime taken waiting).finish cause =
      (parted i d, [.notice (.ended i d cause), .calledBack i c]) := rfl

theorem publish_listening (platform runtime : Nat) (taken waiting : List StreamItem)
    (a : Attributes) :
    (listening i d c platform runtime taken waiting).publish a =
      (listening i d c platform runtime (taken ++ [.event (.attributes a)]) waiting,
       effectsOf i d c (hasSeen taken) [.event (.attributes a)]) := by
  have next := d.shownAfter_attributes taken a
  cases maps : (taken.filterMap attributes?).getLast? with
  | none =>
    have before : d.shownAfter taken = none := by simp [Descriptor.shownAfter, maps]
    have none : taken.filterMap attributes? = [] := List.getLast?_eq_none_iff.mp maps
    have unseen : hasSeen taken = false := by
      simpa [hasSeen, List.filterMap_eq_nil_iff] using none
    rw [none] at next
    simp only [publish, listening, hasEnded, Lifecycle.isTerminal, before, next, effectsOf, unseen,
      Bool.false_eq_true, if_false, List.append_nil]
    rfl
  | some b =>
    have seen : hasSeen taken = true := by
      obtain ⟨x, mem, found⟩ := List.mem_filterMap.mp (List.mem_of_getLast? maps)
      exact List.any_eq_true.mpr ⟨x, mem, by rw [found]; rfl⟩
    have before : d.shownAfter taken =
        some { uri := d.servedUri, resourceTypes := d.resourceTypes, interfaces := d.interfaces
               attributes := b, revision := (taken.filterMap attributes?).length } := by
      simp [Descriptor.shownAfter, maps]
    simp only [publish, listening, hasEnded, Lifecycle.isTerminal, before, next, effectsOf, seen,
      Bool.false_eq_true, if_false, if_true, List.append_nil]

theorem turn_listening_nil (platform runtime : Nat) (taken : List StreamItem) (pick : Branch)
    (reply : Option WatchReply) :
    (listening i d c platform runtime taken []).turn pick reply =
      (listening i d c platform runtime taken [], []) := rfl

theorem turn_listening_of_ends {x : StreamItem} {cause : EndCause} (ends : x.cause? = some cause)
    (platform runtime : Nat) (taken later : List StreamItem) (pick : Branch)
    (reply : Option WatchReply) :
    (listening i d c platform runtime taken (x :: later)).turn pick reply =
      (parted i d, [.notice (.ended i d cause), .calledBack i c]) := by
  cases x with
  | finished =>
    cases ends
    exact finish_listening platform runtime taken (.finished :: later) .streamEnded
  | event e =>
    cases e with
    | attributes a => cases ends
    | fault reason =>
      cases ends
      exact finish_listening platform runtime taken later (.fault reason)
    | state s =>
      cases lost : s.isLost with
      | false => simp [cause?, lost] at ends
      | true =>
        simp only [cause?, lost, if_true, Option.some.injEq] at ends
        have heard : (listening i d c platform runtime taken
            (.event (.state s) :: later)).turn pick reply =
              (listening i d c platform runtime taken later).hear (.state s) := rfl
        rw [heard, hear, if_pos lost, ← ends, finish_listening]

theorem turn_listening_of_going {x : StreamItem} (going : x.cause? = none) (platform runtime : Nat)
    (taken later : List StreamItem) (pick : Branch) (reply : Option WatchReply) :
    (listening i d c platform runtime taken (x :: later)).turn pick reply =
      (listening i d c platform runtime (taken ++ [x]) later,
       effectsOf i d c (hasSeen taken) [x]) := by
  rcases (cause?_eq_none_iff x).mp going with ⟨a, rfl⟩ | ⟨s, alive, rfl⟩
  · exact publish_listening platform runtime taken later a
  · have heard : ((listening i d c platform runtime taken
        (.event (.state s) :: later)).turn pick reply) =
          ((listening i d c platform runtime taken later).hear (.state s)) := rfl
    have shown : d.shownAfter (taken ++ [.event (.state s)]) = d.shownAfter taken :=
      d.shownAfter_of_unseen taken rfl
    rw [heard]
    simp [hear, alive, effectsOf, listening, shown]

theorem push_listening (platform runtime : Nat) (taken waiting : List StreamItem)
    (e : OriginEvent) :
    (listening i d c platform runtime taken waiting).push e =
      listening i d c platform runtime taken (waiting ++ [.event e]) := by
  cases ended : waiting.any isFinished with
  | false =>
    simp [push, listening, setPhase, waitingEvents_append, ended, waitingEvents, isFinished]
  | true =>
    simp [push, listening, waitingEvents_append, ended]

theorem endStream_listening (platform runtime : Nat) (taken waiting : List StreamItem) :
    (listening i d c platform runtime taken waiting).endStream =
      listening i d c platform runtime taken (waiting ++ [.finished]) := by
  cases ended : waiting.any isFinished with
  | false =>
    simp [endStream, listening, setPhase, waitingEvents_append, ended, waitingEvents, isFinished]
  | true =>
    simp [endStream, listening, setPhase, waitingEvents_append, ended]

theorem move_parted (m : Move) : (parted i d).move m = (parted i d, []) := by
  cases m <;> rfl

end Replica

namespace Course

open Replica (listening parted)

/-- What has been sent is what has been taken and what waits; behind the item that ends the replica
nothing counts. -/
inductive Follows (i : ReplicaId) (d : Descriptor) (c : Callback) (before : List Effect)
    (sent : List StreamItem) (x : Course) : Prop where
  | listens (platform runtime : Nat) (taken waiting : List StreamItem)
      (split : sent = taken ++ waiting) (going : ∀ y ∈ taken, y.cause? = none)
      (replica : x.replica = listening i d c platform runtime taken waiting)
      (effects : x.effects = before ++ effectsOf i d c false taken)
  | parts (taken : List StreamItem) (last : StreamItem) (later : List StreamItem)
      (cause : EndCause) (split : sent = taken ++ last :: later)
      (going : ∀ y ∈ taken, y.cause? = none) (ends : last.cause? = some cause)
      (replica : x.replica = parted i d)
      (effects : x.effects = before ++ effectsOf i d c false (taken ++ [last]))

variable {before : List Effect} {sent : List StreamItem} {x : Course}

theorem step_of_still {m : Move} (still : x.replica.move m = (x.replica, [])) :
    (x.step m).replica = x.replica ∧ (x.step m).effects = x.effects := by
  simp [step, still]

theorem Follows.turn (h : Follows i d c before sent x) (pick : Branch)
    (reply : Option WatchReply) : Follows i d c before sent (x.step (.turn pick reply)) := by
  cases h with
  | parts taken last later cause split going ends replica effects =>
    have still := step_of_still (x := x) (m := .turn pick reply) (by rw [replica]; rfl)
    exact .parts taken last later cause split going ends (still.1.trans replica)
      (still.2.trans effects)
  | listens platform runtime taken waiting split going replica effects =>
    have turned : (x.step (.turn pick reply)).replica =
          ((listening i d c platform runtime taken waiting).turn pick reply).1 ∧
        (x.step (.turn pick reply)).effects = x.effects ++
          ((listening i d c platform runtime taken waiting).turn pick reply).2 := by
      rw [← replica]
      exact ⟨rfl, rfl⟩
    cases waiting with
    | nil =>
      rw [Replica.turn_listening_nil, List.append_nil] at turned
      exact .listens platform runtime taken [] split going turned.1 (turned.2.trans effects)
    | cons y waiting =>
      cases ends : y.cause? with
      | some cause =>
        rw [Replica.turn_listening_of_ends ends] at turned
        refine .parts taken y waiting cause split going ends turned.1 ?_
        rw [turned.2, effects, effectsOf_append going, effectsOf_of_ends ends, List.append_assoc]
      | none =>
        rw [Replica.turn_listening_of_going ends] at turned
        refine .listens platform runtime (taken ++ [y]) waiting ?_ ?_ turned.1 ?_
        · rw [split, List.append_assoc, List.singleton_append]
        · intro z mem
          rcases List.mem_append.mp mem with old | new
          · exact going z old
          · rw [List.mem_singleton.mp new, ends]
        · rw [turned.2, effects, effectsOf_append going, Bool.false_or, List.append_assoc]

theorem Follows.step (h : Follows i d c before sent x) {m : Move} (free : m.isForced = false) :
    Follows i d c before (sent ++ m.sent?.toList) (x.step m) := by
  cases h with
  | parts taken last later cause split going ends replica effects =>
    have still := step_of_still (x := x) (m := m) (by rw [replica]; exact Replica.move_parted m)
    refine .parts taken last (later ++ m.sent?.toList) cause ?_ going ends
      (still.1.trans replica) (still.2.trans effects)
    rw [split, List.append_assoc, List.cons_append]
  | listens platform runtime taken waiting split going replica effects =>
    have unsent {m : Move} (silent : m.sent? = none) (still : x.replica.move m = (x.replica, [])) :
        Follows i d c before (sent ++ m.sent?.toList) (x.step m) := by
      have still := step_of_still still
      rw [silent, Option.toList_none, List.append_nil]
      exact .listens platform runtime taken waiting split going (still.1.trans replica)
        (still.2.trans effects)
    have waits {m : Move} {y : StreamItem} (item : m.sent? = some y)
        (moved : (listening i d c platform runtime taken waiting).move m =
          (listening i d c platform runtime taken (waiting ++ [y]), [])) :
        Follows i d c before (sent ++ m.sent?.toList) (x.step m) := by
      rw [← replica] at moved
      refine .listens platform runtime taken (waiting ++ [y]) ?_ going (congrArg Prod.fst moved) ?_
      · rw [split, item, List.append_assoc, Option.toList_some]
      · simpa [Course.step, moved] using effects
    cases m with
    | teardown => cases free
    | drop => cases free
    | activate platform runtime => exact unsent rfl (by rw [replica]; rfl)
    | answer a => exact unsent rfl (by rw [replica]; rfl)
    | turn pick reply =>
      have turned := (Follows.listens platform runtime taken waiting split going replica
        effects).turn pick reply
      rw [Move.sent?, Option.toList_none, List.append_nil]
      exact turned
    | push e => exact waits rfl (by rw [Replica.move, Replica.push_listening])
    | endStream => exact waits rfl (by rw [Replica.move, Replica.endStream_listening])

theorem Follows.run (h : Follows i d c before sent x) {moves : List Move}
    (free : ∀ m ∈ moves, m.isForced = false) :
    Follows i d c before (sent ++ moves.filterMap Move.sent?) (x.run moves) := by
  induction moves generalizing sent x with
  | nil =>
    rw [List.filterMap_nil, List.append_nil]
    exact h
  | cons m moves ih =>
    have rest := ih (h.step (free m List.mem_cons_self)) fun y mem =>
      free y (List.mem_cons_of_mem m mem)
    have first : (m :: moves).filterMap Move.sent? =
        m.sent?.toList ++ moves.filterMap Move.sent? := by
      cases item : m.sent? <;> simp [item]
    rw [first, ← List.append_assoc]
    exact rest

theorem run_turns_of_idle (idle : x.replica.isReady = false)
    (ts : List (Branch × Option WatchReply)) : (x.run (turns ts)).replica = x.replica := by
  induction ts generalizing x with
  | nil => rfl
  | cons t ts ih =>
    have same : (x.step (.turn t.1 t.2)).replica = x.replica :=
      Replica.turn_of_idle idle t.1 t.2
    exact (ih (same ▸ idle)).trans same

theorem Follows.work_turn_lt (h : Follows i d c before sent x) (ready : x.replica.isReady = true)
    (pick : Branch) (reply : Option WatchReply) :
    (x.step (.turn pick reply)).replica.work < x.replica.work := by
  cases h with
  | parts taken last later cause split going ends replica effects =>
    rw [replica] at ready
    cases ready
  | listens platform runtime taken waiting split going replica effects =>
    change (x.replica.turn pick reply).1.work < x.replica.work
    rw [replica] at ready ⊢
    cases waiting with
    | nil => cases ready
    | cons y waiting =>
      cases ends : y.cause? with
      | some cause =>
        rw [Replica.turn_listening_of_ends ends]
        exact Nat.succ_pos _
      | none =>
        rw [Replica.turn_listening_of_going ends]
        rcases (cause?_eq_none_iff y).mp ends with ⟨a, rfl⟩ | ⟨s, -, rfl⟩
        · exact Nat.lt_succ_self _
        · exact Nat.lt_succ_self _

theorem Follows.idle_of_turns (h : Follows i d c before sent x)
    {ts : List (Branch × Option WatchReply)} (enough : x.replica.work ≤ ts.length) :
    (x.run (turns ts)).replica.isReady = false := by
  cases idle : x.replica.isReady with
  | false => rw [run_turns_of_idle idle, idle]
  | true =>
    induction ts generalizing x with
    | nil =>
      have less := h.work_turn_lt idle .stop none
      rw [List.length_nil] at enough
      omega
    | cons t ts ih =>
      have less := h.work_turn_lt idle t.1 t.2
      rw [List.length_cons] at enough
      have next := h.turn t.1 t.2
      have enough' : (x.step (.turn t.1 t.2)).replica.work ≤ ts.length := by omega
      change ((x.step (.turn t.1 t.2)).run (turns ts)).replica.isReady = false
      cases idle' : (x.step (.turn t.1 t.2)).replica.isReady with
      | false => rw [run_turns_of_idle idle', idle']
      | true => exact ih next enough' idle'

/-- The replica as all items make it, with nobody called before. -/
structure Settled (i : ReplicaId) (d : Descriptor) (c : Callback) (before : List Effect)
    (sent : List StreamItem) (x : Course) : Prop where
  effects : x.effects = before ++ effectsOf i d c false sent
  goes : upToEnd sent = sent → x.replica.lifecycle = .active ∧ x.callbacks = [] ∧
    x.replica.callback = some c ∧ x.replica.snapshot = d.shownAfter sent
  ends : ∀ last later, sent = upToEnd sent ++ last :: later →
    x.replica = parted i d ∧ x.callbacks = [(i, c)] ∧
      x.effects = before ++ effectsOf i d c false (upToEnd sent ++ [last])

theorem Follows.settled (h : Follows i d c before sent x)
    (uncalled : before.filterMap Effect.callback? = []) (idle : x.replica.isReady = false) :
    Settled i d c before sent x := by
  cases h with
  | listens platform runtime taken waiting split going replica effects =>
    have none : waiting = [] := by
      rw [replica] at idle
      cases waiting with
      | nil => rfl
      | cons y waiting => cases y <;> cases idle
    subst none
    rw [List.append_nil] at split
    subst split
    refine ⟨effects, ?_, ?_⟩
    · intro _
      refine ⟨by rw [replica]; rfl, ?_, by rw [replica]; rfl, by rw [replica]; rfl⟩
      rw [callbacks, effects, List.filterMap_append, uncalled, calls_effectsOf going,
        List.append_nil]
    · intro last later longer
      have length := congrArg List.length longer
      rw [upToEnd_of_going going] at length
      simp at length
  | parts taken last later cause split going ends replica effects =>
    subst split
    refine ⟨?_, ?_, ?_⟩
    · rw [effects, effectsOf_append going, effectsOf_append going, effectsOf_of_ends ends,
        effectsOf_of_ends ends]
    · rw [upToEnd_of_ends going ends]
      intro whole
      have length := congrArg List.length whole
      simp at length
    · rw [upToEnd_of_ends going ends]
      intro last' later' same
      obtain ⟨rfl, rfl⟩ := List.cons.inj (List.append_cancel_left same)
      refine ⟨replica, ?_, effects⟩
      rw [callbacks, effects, effectsOf_append going, effectsOf_of_ends ends,
        List.filterMap_append, List.filterMap_append, uncalled, calls_effectsOf going]
      rfl

/-! ## Up to the stream -/

/-- A replica before its stream gives anything: it may have been started and its origin asked, and
if that has failed it is over. -/
inductive Opens (i : ReplicaId) (d : Descriptor) (c : Callback) (r : Replica) : Prop where
  | fresh (same : r = Replica.make i d c)
  | underway (platform runtime : Nat) (phase : Phase)
      (blank : ∀ events ended, phase = .streaming events ended → events = [] ∧ ended = false)
      (same : r = { Replica.make i d c with
                      lifecycle := .active, hasSender := true
                      task := some { platform, runtime, phase } })
  | stopped (ended : r.lifecycle = .terminated) (gone : r.task = none)

theorem move_of_unforced {m : Move} (free : m.isForced = false) (unsent : m.sent? = none) :
    (∃ platform runtime, m = .activate platform runtime) ∨
      (∃ pick reply, m = .turn pick reply) ∨ ∃ a, m = .answer a := by
  cases m with
  | activate platform runtime => exact .inl ⟨platform, runtime, rfl⟩
  | turn pick reply => exact .inr (.inl ⟨pick, reply, rfl⟩)
  | answer a => exact .inr (.inr ⟨a, rfl⟩)
  | teardown => cases free
  | drop => cases free
  | push e => cases unsent
  | endStream => cases unsent

theorem opens_activate {r : Replica} (h : Opens i d c r) (platform runtime : Nat) :
    Opens i d c (r.activate platform runtime).2.1 := by
  cases h with
  | fresh same =>
    subst same
    refine .underway platform runtime .queued ?_ rfl
    rintro events ended ⟨⟩
  | underway p q phase blank same =>
    subst same
    exact .underway p q phase blank rfl
  | stopped ended gone =>
    rw [Replica.activate_of_not_isFresh (Replica.not_isFresh_of_ended ended)]
    exact .stopped ended gone

theorem opens_turn {r : Replica} (h : Opens i d c r) (pick : Branch) (reply : Option WatchReply) :
    Opens i d c (r.turn pick reply).1 := by
  cases h with
  | fresh same =>
    subst same
    exact .fresh rfl
  | stopped ended gone =>
    rw [Replica.turn_without_task gone]
    exact .stopped ended gone
  | underway platform runtime phase blank same =>
    subst same
    cases phase with
    | queued =>
      refine .underway platform runtime (.opening reply) ?_ rfl
      rintro events ended ⟨⟩
    | streaming events ended =>
      obtain ⟨rfl, rfl⟩ := blank events ended rfl
      exact .underway platform runtime (.streaming [] false) blank rfl
    | opening answer =>
      cases answer with
      | none => exact .underway platform runtime (.opening none) blank rfl
      | some a =>
        cases a with
        | opens =>
          refine .underway platform runtime (.streaming [] false) ?_ rfl
          rintro events ended ⟨⟩
          exact ⟨rfl, rfl⟩
        | fails e => exact .stopped rfl rfl
        | panics => exact .stopped rfl rfl

theorem opens_answer {r : Replica} (h : Opens i d c r) (a : WatchReply) :
    Opens i d c (r.answer a) := by
  cases h with
  | fresh same =>
    subst same
    exact .fresh rfl
  | stopped ended gone =>
    simp only [Replica.answer, gone]
    exact .stopped ended gone
  | underway platform runtime phase blank same =>
    subst same
    cases phase with
    | queued => exact .underway platform runtime .queued blank rfl
    | streaming events ended => exact .underway platform runtime (.streaming events ended) blank rfl
    | opening answer =>
      cases answer with
      | some b => exact .underway platform runtime (.opening (some b)) blank rfl
      | none =>
        refine .underway platform runtime (.opening (some a)) ?_ rfl
        rintro events ended ⟨⟩

theorem Opens.move {r : Replica} (h : Opens i d c r) {m : Move} (free : m.isForced = false)
    (unsent : m.sent? = none) : Opens i d c (r.move m).1 := by
  rcases move_of_unforced free unsent with
    ⟨platform, runtime, rfl⟩ | ⟨pick, reply, rfl⟩ | ⟨a, rfl⟩
  · exact opens_activate h platform runtime
  · exact opens_turn h pick reply
  · exact opens_answer h a

theorem Opens.run {x : Course} (h : Opens i d c x.replica) {moves : List Move}
    (free : ∀ m ∈ moves, m.isForced = false) (unsent : ∀ m ∈ moves, m.sent? = none) :
    Opens i d c (x.run moves).replica := by
  induction moves generalizing x with
  | nil => exact h
  | cons m moves ih =>
    have first : Opens i d c (x.step m).replica :=
      h.move (free m List.mem_cons_self) (unsent m List.mem_cons_self)
    exact ih first (fun y mem => free y (List.mem_cons_of_mem m mem))
      fun y mem => unsent y (List.mem_cons_of_mem m mem)

theorem Opens.follows {x : Course} (h : Opens i d c x.replica)
    (opened : x.replica.holdsStream = true) : Follows i d c x.effects [] x := by
  cases h with
  | fresh same =>
    rw [same] at opened
    cases opened
  | stopped ended gone => simp [Replica.holdsStream, gone] at opened
  | underway platform runtime phase blank same =>
    rw [same] at opened
    cases phase with
    | queued => cases opened
    | opening answer => cases opened
    | streaming events ended =>
      obtain ⟨rfl, rfl⟩ := blank events ended rfl
      exact .listens platform runtime [] [] rfl (by simp) same (List.append_nil _).symm

theorem Follows.ongoing (h : Follows i d c before [] x) : x.replica.hasEnded = false := by
  cases h with
  | listens platform runtime taken waiting split going replica effects =>
    rw [replica]
    rfl
  | parts taken last later cause split going ends replica effects => simp at split

/-- However the sending of a stream and the turns of the task interleave, a replica that has come to
rest is the fold of the items: as long as none of them ends it, it is active and shows the last
attributes, counted; the first one that does ends it with one call and without a stream, and
nothing behind that item has any effect. The task comes to rest in as many turns as it has work. -/
theorem stream_followed (i : ReplicaId) (d : Descriptor) (c : Callback)
    (opening delivery : List Move)
    (free : ∀ m ∈ opening ++ delivery, m.isForced = false)
    (unsent : ∀ m ∈ opening, m.sent? = none)
    (opened : (run { replica := Replica.make i d c } opening).replica.holdsStream = true) :
    let x := run { replica := Replica.make i d c } opening
    let z := x.run delivery
    let items := delivery.filterMap Move.sent?
    (∀ ts, z.replica.work ≤ ts.length → (z.run (turns ts)).replica.isReady = false) ∧
    (z.replica.isReady = false →
      z.effects = x.effects ++ effectsOf i d c false items ∧
      (upToEnd items = items →
        z.replica.lifecycle = .active ∧ z.callbacks = [] ∧ z.replica.callback = some c ∧
        z.replica.snapshot = d.shownAfter items) ∧
      (∀ last later, items = upToEnd items ++ last :: later →
        z.replica.lifecycle = .terminated ∧ z.callbacks = [(i, c)] ∧
        z.replica.snapshot = none ∧ z.replica.holdsStream = false ∧
        z.replica = { Replica.make i d c with lifecycle := .terminated, callback := none } ∧
        z.effects = x.effects ++ effectsOf i d c false (upToEnd items ++ [last]))) := by
  intro x z items
  have opens : Opens i d c x.replica := Opens.run (x := { replica := Replica.make i d c })
    (.fresh rfl) (fun m mem => free m (List.mem_append_left _ mem)) unsent
  have begun : Follows i d c x.effects [] x := opens.follows opened
  have follows : Follows i d c x.effects items z :=
    begun.run fun m mem => free m (List.mem_append_right _ mem)
  have uncalled : x.callbacks = [] := by
    have endings := ((balanced_make i d c).run opening).endings
    have ongoing : x.replica.hasEnded = false := begun.ongoing
    rw [show (run { replica := Replica.make i d c } opening) = x from rfl, ongoing,
      Bool.toNat_false] at endings
    exact List.eq_nil_of_length_eq_zero (Nat.eq_zero_of_add_eq_zero_left endings)
  refine ⟨fun ts enough => follows.idle_of_turns enough, ?_⟩
  intro idle
  have settled := follows.settled uncalled idle
  refine ⟨settled.effects, settled.goes, ?_⟩
  intro last later split
  obtain ⟨parts, calls, effects⟩ := settled.ends last later split
  exact ⟨by rw [parts]; rfl, calls, by rw [parts]; rfl, by rw [parts]; rfl, parts, effects⟩

def openingMoves : List Move :=
  [.activate 0 0, .turn .origin none, .answer .opens, .turn .origin none]

def attributeMoves : List Move :=
  [.push (.attributes []), .turn .origin none, .push (.state .alive),
   .push (.attributes [("lux", .number 3 0)]), .turn .stop none, .turn .origin none]

def lossMoves : List Move :=
  [.push (.state .destroyed), .push (.attributes []), .turn .origin none, .endStream,
   .turn .origin none]

/-- Two revisions are shown, and then the origin is lost with attributes still in the stream. -/
theorem stream_followed_lost_origin :
    let x := run { replica := Replica.make ⟨1⟩ { address := "n", uri := "/a/hosting" } .report }
      openingMoves
    (∀ m ∈ openingMoves ++ (attributeMoves ++ lossMoves), m.isForced = false) ∧
    (∀ m ∈ openingMoves, m.sent? = none) ∧ x.replica.holdsStream = true ∧
    (x.run attributeMoves).replica.isReady = false ∧
    (x.run attributeMoves).replica.snapshot.map (fun s => (s.attributes, s.revision)) =
      some ([("lux", .number 3 0)], 2) ∧
    (x.run (attributeMoves ++ lossMoves)).replica.isReady = false ∧
    (x.run (attributeMoves ++ lossMoves)).callbacks = [(⟨1⟩, .report)] ∧
    (x.run (attributeMoves ++ lossMoves)).replica.holdsStream = false := by
  intro x
  have free : ∀ m ∈ openingMoves ++ (attributeMoves ++ lossMoves), m.isForced = false := by
    simp [openingMoves, attributeMoves, lossMoves, Move.isForced]
  have early : ∀ m ∈ openingMoves ++ attributeMoves, m.isForced = false := by
    simp [openingMoves, attributeMoves, Move.isForced]
  have unsent : ∀ m ∈ openingMoves, m.sent? = none := by simp [openingMoves, Move.sent?]
  have shown := (stream_followed ⟨1⟩ { address := "n", uri := "/a/hosting" } .report openingMoves
    attributeMoves early unsent rfl).2
  have lost := (stream_followed ⟨1⟩ { address := "n", uri := "/a/hosting" } .report openingMoves
    (attributeMoves ++ lossMoves) free unsent rfl).2
  have ended := (lost rfl).2.2
  refine ⟨free, unsent, rfl, rfl, ?_, rfl, ?_, ?_⟩
  · rw [((shown rfl).2.1 rfl).2.2.2]
    rfl
  · exact (ended _ _ rfl).2.1
  · exact (ended _ _ rfl).2.2.2.1

end Course

end ReplicaHosting

import ReplicaHosting.Replica.Run

/-! What an act does to the life of a replica. An act of its own, or of its origin, or of its
runtime, either leaves stage and callback as they are and calls nobody, or it ends the replica, uses
the callback up and makes exactly this one call. An ended replica changes nothing but its task. -/
namespace ReplicaHosting

namespace Lifecycle

theorem self_mem_successors (s : Lifecycle) : s ∈ s.successors := by
  cases s <;> decide

theorem terminated_mem_successors (s : Lifecycle) : terminated ∈ s.successors := by
  cases s <;> decide

end Lifecycle

namespace Replica

theorem hasEnded_eq_true_iff (r : Replica) : r.hasEnded = true ↔ r.lifecycle = .terminated := by
  unfold hasEnded
  cases r.lifecycle <;> simp [Lifecycle.isTerminal]

theorem hasEnded_eq_false_iff (r : Replica) : r.hasEnded = false ↔ r.lifecycle ≠ .terminated := by
  rw [ne_eq, ← hasEnded_eq_true_iff, Bool.not_eq_true]

theorem isFresh_eq_true_iff (r : Replica) : r.isFresh = true ↔ r.lifecycle = .created := by
  simp [isFresh]

/-- Nothing of the life of a replica has changed, and nobody has been called. -/
structure Keeps (r : Replica) (x : Replica × List Effect) : Prop where
  id : x.1.id = r.id
  descriptor : x.1.descriptor = r.descriptor
  lifecycle : x.1.lifecycle = r.lifecycle
  callback : x.1.callback = r.callback
  calls : x.2.filterMap Effect.callback? = []

/-- A replica has ended by itself, and its callback has been made. -/
structure Ends (r : Replica) (x : Replica × List Effect) : Prop where
  ongoing : r.hasEnded = false
  id : x.1.id = r.id
  descriptor : x.1.descriptor = r.descriptor
  lifecycle : x.1.lifecycle = .terminated
  callback : x.1.callback = none
  calls : x.2.filterMap Effect.callback? = r.callback.toList.map fun c => (r.id, c)

/-- All that an act may do to a life unless it is an activation or a teardown. -/
def Passes (r : Replica) (x : Replica × List Effect) : Prop := Keeps r x ∨ Ends r x

theorem Keeps.hasEnded {r : Replica} {x : Replica × List Effect} (h : Keeps r x) :
    x.1.hasEnded = r.hasEnded := by
  simp only [Replica.hasEnded, h.lifecycle]

theorem Ends.hasEnded {r : Replica} {x : Replica × List Effect} (h : Ends r x) :
    x.1.hasEnded = true := (hasEnded_eq_true_iff _).mpr h.lifecycle

theorem Passes.id {r : Replica} {x : Replica × List Effect} (h : Passes r x) : x.1.id = r.id := by
  rcases h with h | h
  · exact h.id
  · exact h.id

theorem Passes.descriptor {r : Replica} {x : Replica × List Effect} (h : Passes r x) :
    x.1.descriptor = r.descriptor := by
  rcases h with h | h
  · exact h.descriptor
  · exact h.descriptor

theorem Passes.calls {r : Replica} {x : Replica × List Effect} (h : Passes r x)
    {c : ReplicaId × Callback} (mem : c ∈ x.2.filterMap Effect.callback?) : c.1 = r.id := by
  rcases h with keeps | ends
  · rw [keeps.calls] at mem
    cases mem
  · rw [ends.calls] at mem
    obtain ⟨c, -, rfl⟩ := List.mem_map.mp mem
    rfl

theorem Passes.trans {r : Replica} {x y : Replica × List Effect} (first : Passes r x)
    (second : Passes x.1 y) : Passes r (y.1, x.2 ++ y.2) := by
  rcases first with a | a
  · rcases second with b | b
    · refine .inl ⟨b.id.trans a.id, b.descriptor.trans a.descriptor,
        b.lifecycle.trans a.lifecycle, b.callback.trans a.callback, ?_⟩
      rw [List.filterMap_append, a.calls, b.calls, List.append_nil]
    · refine .inr ⟨a.hasEnded ▸ b.ongoing, b.id.trans a.id, b.descriptor.trans a.descriptor,
        b.lifecycle, b.callback, ?_⟩
      rw [List.filterMap_append, a.calls, b.calls, a.callback, a.id, List.nil_append]
  · rcases second with b | b
    · refine .inr ⟨a.ongoing, b.id.trans a.id, b.descriptor.trans a.descriptor,
        b.lifecycle.trans a.lifecycle, b.callback.trans a.callback, ?_⟩
      rw [List.filterMap_append, a.calls, b.calls, List.append_nil]
    · have ended := a.hasEnded
      rw [b.ongoing] at ended
      cases ended

theorem Passes.ends {r : Replica} {x : Replica × List Effect} (h : Passes r x)
    (ongoing : r.hasEnded = false) (ended : x.1.lifecycle = .terminated) : Ends r x := by
  rcases h with keeps | ends
  · exact absurd (keeps.lifecycle.symm.trans ended) ((hasEnded_eq_false_iff r).mp ongoing)
  · exact ends

theorem keeps_setPhase (t : SyncTask) (p : Phase) (r : Replica) : Keeps r (r.setPhase t p, []) :=
  ⟨rfl, rfl, rfl, rfl, rfl⟩

theorem passes_terminate (cause : EndCause) (r : Replica) : Passes r (r.terminate cause) := by
  unfold terminate
  cases ended : r.hasEnded with
  | true => exact .inl ⟨rfl, rfl, rfl, rfl, rfl⟩
  | false =>
    refine .inr ⟨ended, rfl, rfl, rfl, rfl, ?_⟩
    cases r.callback <;> rfl

theorem passes_dropTask (r : Replica) : Passes r r.dropTask := by
  have hidden (s : Replica) : Passes s ({ s with snapshot := none, task := none }, []) :=
    .inl ⟨rfl, rfl, rfl, rfl, rfl⟩
  have h := (passes_terminate .abandoned r).trans (hidden _)
  rw [List.append_nil] at h
  exact h

theorem lifecycle_terminate (cause : EndCause) (r : Replica) :
    (r.terminate cause).1.lifecycle = .terminated := by
  unfold terminate
  split
  · exact (hasEnded_eq_true_iff r).mp ‹_›
  · rfl

theorem lifecycle_dropTask (r : Replica) : r.dropTask.1.lifecycle = .terminated :=
  lifecycle_terminate .abandoned r

theorem lifecycle_finish (cause : EndCause) (r : Replica) :
    (r.finish cause).1.lifecycle = .terminated := lifecycle_dropTask (r.terminate cause).1

theorem ends_dropTask {r : Replica} (ongoing : r.hasEnded = false) : Ends r r.dropTask :=
  (passes_dropTask r).ends ongoing r.lifecycle_dropTask

theorem passes_finish (cause : EndCause) (r : Replica) : Passes r (r.finish cause) :=
  (passes_terminate cause r).trans (passes_dropTask _)

theorem passes_publish (a : Attributes) (r : Replica) : Passes r (r.publish a) := by
  unfold publish
  split
  · exact .inl ⟨rfl, rfl, rfl, rfl, rfl⟩
  · split
    · exact .inl ⟨rfl, rfl, rfl, rfl, rfl⟩
    · exact .inl ⟨rfl, rfl, rfl, rfl, rfl⟩

theorem passes_hear (e : OriginEvent) (r : Replica) : Passes r (r.hear e) := by
  cases e with
  | attributes a => exact passes_publish a r
  | state s =>
    simp only [hear]
    split
    · exact passes_finish _ r
    · exact .inl ⟨rfl, rfl, rfl, rfl, rfl⟩
  | fault reason => exact passes_finish _ r

theorem passes_takeAnswer (t : SyncTask) (a : WatchReply) (r : Replica) :
    Passes r (r.takeAnswer t a) := by
  cases a with
  | opens => exact .inl ⟨rfl, rfl, rfl, rfl, rfl⟩
  | fails e =>
    have warned : Passes r (r, [.notice (.watchFailed (r.finish (.watchFailed e)).1.id e)]) :=
      .inl ⟨rfl, rfl, rfl, rfl, rfl⟩
    exact warned.trans (passes_finish (.watchFailed e) r)
  | panics => exact passes_dropTask r

theorem passes_turn (pick : Branch) (reply : Option WatchReply) (r : Replica) :
    Passes r (r.turn pick reply) := by
  have still : Passes r (r, []) := .inl ⟨rfl, rfl, rfl, rfl, rfl⟩
  unfold turn
  cases r.task with
  | none => exact still
  | some t =>
    dsimp only
    split
    · exact passes_dropTask r
    · split
      · exact .inl ⟨rfl, rfl, rfl, rfl, rfl⟩
      · exact still
      · exact passes_takeAnswer _ _ r
      · exact Passes.trans (.inl (keeps_setPhase _ _ r)) (passes_hear _ _)
      · exact passes_finish _ r
      · exact still

theorem passes_loseTask (r : Replica) : Passes r r.loseTask := by
  unfold loseTask
  split
  · exact passes_dropTask r
  · exact .inl ⟨rfl, rfl, rfl, rfl, rfl⟩

/-- A replica has at most a task that has been moved on, to where it no longer has to ask. -/
def Advances (r s : Replica) : Prop :=
  s = r ∨ ∃ t p, p ≠ .queued ∧ s = r.setPhase t p

theorem Advances.keeps {r s : Replica} (h : Advances r s) : Keeps r (s, []) := by
  rcases h with rfl | ⟨t, p, -, rfl⟩
  · exact ⟨rfl, rfl, rfl, rfl, rfl⟩
  · exact keeps_setPhase t p r

theorem advances_setPhase {p : Phase} (runs : p ≠ .queued) (t : SyncTask) (r : Replica) :
    Advances r (r.setPhase t p) := .inr ⟨t, p, runs, rfl⟩

theorem advances_answer (a : WatchReply) (r : Replica) : Advances r (r.answer a) := by
  unfold answer
  split
  · split
    · apply advances_setPhase
      exact nofun
    · exact .inl rfl
  · exact .inl rfl

theorem advances_push (e : OriginEvent) (r : Replica) : Advances r (r.push e) := by
  unfold push
  split
  · split
    · apply advances_setPhase
      exact nofun
    · exact .inl rfl
  · exact .inl rfl

theorem advances_endStream (r : Replica) : Advances r r.endStream := by
  unfold endStream
  split
  · split
    · apply advances_setPhase
      exact nofun
    · exact .inl rfl
  · exact .inl rfl

/-- The acts that nobody has to call for: the turns of the task, what its origin does to it, and
its loss. -/
inductive Act : (Replica → Replica × List Effect) → Prop where
  | turn (pick : Branch) (reply : Option WatchReply) : Act (Replica.turn pick reply)
  | answer (a : WatchReply) : Act fun r => (r.answer a, [])
  | push (e : OriginEvent) : Act fun r => (r.push e, [])
  | endStream : Act fun r => (r.endStream, [])
  | dropTask : Act Replica.dropTask

theorem Act.passes {a : Replica → Replica × List Effect} (own : Act a) (r : Replica) :
    Passes r (a r) := by
  cases own with
  | turn pick reply => exact passes_turn pick reply r
  | answer x => exact .inl (advances_answer x r).keeps
  | push e => exact .inl (advances_push e r).keeps
  | endStream => exact .inl (advances_endStream r).keeps
  | dropTask => exact passes_dropTask r

theorem activate_same (platform runtime : Nat) (r : Replica) :
    (r.activate platform runtime).2.1.id = r.id ∧
      (r.activate platform runtime).2.1.descriptor = r.descriptor := by
  unfold activate
  split
  · exact ⟨rfl, rfl⟩
  · exact ⟨rfl, rfl⟩

theorem teardown_same (r : Replica) :
    r.teardown.2.1.id = r.id ∧ r.teardown.2.1.descriptor = r.descriptor := by
  unfold teardown
  split
  · exact ⟨rfl, rfl⟩
  · exact ⟨rfl, rfl⟩

theorem calls_activate (platform runtime : Nat) (r : Replica) :
    (r.activate platform runtime).2.2.filterMap Effect.callback? = [] := by
  unfold activate
  split
  · rfl
  · rfl

theorem calls_teardown (r : Replica) : r.teardown.2.2.filterMap Effect.callback? = [] := by
  unfold teardown
  split
  · rfl
  · rfl

theorem lifecycle_teardown (r : Replica) : r.teardown.2.1.lifecycle = .terminated := by
  unfold teardown
  split
  · rename_i ended
    exact (hasEnded_eq_true_iff r).mp ended
  · rfl

theorem activate_of_isFresh {r : Replica} (fresh : r.isFresh = true) (platform runtime : Nat) :
    r.activate platform runtime =
      (true, { r with lifecycle := .active, hasSender := true, task := some { platform, runtime } },
       [.notice (.activated r.id r.descriptor)]) := by
  simp only [activate, fresh, if_true]

theorem activate_of_not_isFresh {r : Replica} (used : r.isFresh = false) (platform runtime : Nat) :
    r.activate platform runtime = (false, r, []) := by
  simp [activate, used]

theorem teardown_of_ongoing {r : Replica} (ongoing : r.hasEnded = false) :
    r.teardown =
      (true, { r.giveUpSender with lifecycle := .terminated, callback := none, snapshot := none },
       [.notice (.tornDown r.id r.descriptor)]) := by
  simp [teardown, ongoing]

theorem teardown_of_ended {r : Replica} (ended : r.hasEnded = true) :
    r.teardown = (false, r, []) := by
  simp only [teardown, ended, if_true]

@[simp]
theorem activate_fst (platform runtime : Nat) (r : Replica) :
    (r.activate platform runtime).1 = r.isFresh := by
  cases fresh : r.isFresh with
  | true => rw [activate_of_isFresh fresh]
  | false => rw [activate_of_not_isFresh fresh]

@[simp]
theorem teardown_fst (r : Replica) : r.teardown.1 = !r.hasEnded := by
  cases ended : r.hasEnded with
  | true => rw [teardown_of_ended ended, Bool.not_true]
  | false => rw [teardown_of_ongoing ended, Bool.not_false]

theorem teardown_teardown (r : Replica) : r.teardown.2.1.teardown = (false, r.teardown.2.1, []) :=
  teardown_of_ended ((hasEnded_eq_true_iff _).mpr (lifecycle_teardown r))

end Replica

end ReplicaHosting

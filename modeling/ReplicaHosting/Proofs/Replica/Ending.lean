import ReplicaHosting.Proofs.Replica.Watching

/-! A replica ends exactly once, and exactly one party ends it. The account of a course balances
after every move: teardowns that took and callbacks made are none before the end and one after it.
An activation and a teardown are seen by their reports, every other move by its passage.

An active replica also does end wherever it has to: when its task takes what is the end of it, and
when its task is dropped. -/
namespace ReplicaHosting

/-- What the task may find at its origin that is the end of the replica: the origin cannot be
watched or breaks down, it is lost or faulty, or its stream has come to an end. -/
def Phase.isFatal : Phase → Bool
  | .queued | .opening none | .opening (some .opens) => false
  | .opening (some (.fails _)) | .opening (some .panics) => true
  | .streaming (.attributes _ :: _) _ => false
  | .streaming (.state s :: _) _ => s.isLost
  | .streaming (.fault _ :: _) _ => true
  | .streaming [] ended => ended

namespace Replica

variable {r : Replica} {t : SyncTask}

/-- An active replica has not been told to stop, so its task goes to the origin in every turn. -/
theorem Staffed.ends_turn (staffed : r.Staffed) (ongoing : r.hasEnded = false)
    (task : r.task = some t) (fatal : t.phase.isFatal = true) (pick : Branch)
    (reply : Option WatchReply) : Ends r (r.turn pick reply) := by
  have untold : t.told = false := (staffed.told t task).trans ongoing
  apply (passes_turn pick reply r).ends ongoing
  simp only [turn, task, untold, Bool.false_and, Bool.false_eq_true, if_false]
  cases phase : t.phase with
  | queued => simp [phase, Phase.isFatal] at fatal
  | opening answer =>
    cases answer with
    | none => simp [phase, Phase.isFatal] at fatal
    | some a =>
      cases a with
      | opens => simp [phase, Phase.isFatal] at fatal
      | fails e => exact r.lifecycle_finish (.watchFailed e)
      | panics => exact r.lifecycle_dropTask
  | streaming events ended =>
    cases events with
    | nil =>
      cases ended with
      | true => exact r.lifecycle_finish .streamEnded
      | false => simp [phase, Phase.isFatal] at fatal
    | cons e events =>
      cases e with
      | attributes a => simp [phase, Phase.isFatal] at fatal
      | state s =>
        have lost : s.isLost = true := by simpa [phase, Phase.isFatal] using fatal
        simp only [hear, lost, if_true]
        exact lifecycle_finish (.originLost s) _
      | fault reason => exact lifecycle_finish (.fault reason) _

theorem ends_loseTask (ongoing : r.hasEnded = false) (task : r.task = some t) :
    Ends r r.loseTask := by
  simp only [loseTask, task, Option.isSome_some, if_true]
  exact ends_dropTask ongoing

end Replica

namespace Course

/-- The account of a course whose replica was made with this id and this callback. -/
structure Balanced (i : ReplicaId) (c : Callback) (x : Course) : Prop where
  identity : x.replica.id = i
  armed : x.replica.callback = if x.replica.hasEnded then none else some c
  activations : x.activations + x.replica.isFresh.toNat ≤ 1
  endings : x.teardowns + x.callbacks.length = x.replica.hasEnded.toNat
  calls : ∀ b ∈ x.callbacks, b = (i, c)

theorem balanced_make (i : ReplicaId) (d : Descriptor) (c : Callback) :
    Balanced i c { replica := Replica.make i d c } := by
  constructor
  · rfl
  · rfl
  · exact Nat.le_refl 1
  · rfl
  · intro b hb
    cases hb

theorem step_cases (x : Course) (m : Move) :
    (∃ platform runtime, m = .activate platform runtime) ∨ m = .teardown ∨
      ∃ y, x.replica.Passes y ∧
        x.step m = { x with replica := y.1, effects := x.effects ++ y.2 } := by
  cases m with
  | activate platform runtime => exact .inl ⟨platform, runtime, rfl⟩
  | teardown => exact .inr (.inl rfl)
  | turn pick reply => exact .inr (.inr ⟨_, Replica.passes_turn pick reply _, rfl⟩)
  | answer a => exact .inr (.inr ⟨_, .inl (Replica.advances_answer a _).keeps, rfl⟩)
  | push e => exact .inr (.inr ⟨_, .inl (Replica.advances_push e _).keeps, rfl⟩)
  | endStream => exact .inr (.inr ⟨_, .inl (Replica.advances_endStream _).keeps, rfl⟩)
  | drop => exact .inr (.inr ⟨_, Replica.passes_loseTask _, rfl⟩)

theorem Balanced.callbacks_of_ends {i : ReplicaId} {c : Callback} {x : Course} (h : Balanced i c x)
    {y : Replica × List Effect} (ends : x.replica.Ends y) :
    callbacks { x with replica := y.1, effects := x.effects ++ y.2 } = [(i, c)] := by
  have armed : x.replica.callback = some c := by simpa [ends.ongoing] using h.armed
  have none : x.teardowns + x.callbacks.length = 0 := by simpa [ends.ongoing] using h.endings
  have uncalled : x.callbacks = [] := List.eq_nil_of_length_eq_zero (by omega)
  calc callbacks { x with replica := y.1, effects := x.effects ++ y.2 }
      = x.callbacks ++ y.2.filterMap Effect.callback? := List.filterMap_append
    _ = [(i, c)] := by simp [uncalled, ends.calls, armed, h.identity]

theorem Balanced.pass {i : ReplicaId} {c : Callback} {x : Course} (h : Balanced i c x)
    {y : Replica × List Effect} (passes : x.replica.Passes y) :
    Balanced i c { x with replica := y.1, effects := x.effects ++ y.2 } := by
  rcases passes with keeps | ends
  · have fresh : y.1.isFresh = x.replica.isFresh := by
      simp only [Replica.isFresh, keeps.lifecycle]
    have appended : callbacks { x with replica := y.1, effects := x.effects ++ y.2 } =
        x.callbacks ++ y.2.filterMap Effect.callback? := List.filterMap_append
    rw [keeps.calls, List.append_nil] at appended
    constructor
    · exact keeps.id.trans h.identity
    · rw [keeps.callback, keeps.hasEnded]
      exact h.armed
    · rw [fresh]
      exact h.activations
    · rw [appended, keeps.hasEnded]
      exact h.endings
    · rw [appended]
      exact h.calls
  · have none : x.teardowns + x.callbacks.length = 0 := by simpa [ends.ongoing] using h.endings
    have stale : y.1.isFresh = false := by simp [Replica.isFresh, ends.lifecycle]
    have called := h.callbacks_of_ends ends
    constructor
    · exact ends.id.trans h.identity
    · rw [ends.callback, ends.hasEnded, if_pos rfl]
    · have within := h.activations
      simp only [stale, Bool.toNat_false]
      omega
    · rw [called, ends.hasEnded]
      change x.teardowns + 1 = 1
      omega
    · intro b hb
      rw [called] at hb
      exact List.mem_singleton.mp hb

theorem step_activate_of_isFresh {x : Course} (fresh : x.replica.isFresh = true)
    (platform runtime : Nat) :
    x.step (.activate platform runtime) =
      { replica := { x.replica with
          lifecycle := .active, hasSender := true, task := some { platform, runtime } }
        activations := x.activations + 1
        teardowns := x.teardowns
        effects := x.effects ++ [.notice (.activated x.replica.id x.replica.descriptor)] } := by
  simp [step, Replica.move, Replica.activate_of_isFresh fresh]

theorem step_activate_of_not_isFresh {x : Course} (used : x.replica.isFresh = false)
    (platform runtime : Nat) : x.step (.activate platform runtime) = x := by
  simp [step, Replica.move, Replica.activate_of_not_isFresh used]

theorem step_teardown_of_ongoing {x : Course} (ongoing : x.replica.hasEnded = false) :
    x.step .teardown =
      { replica := { x.replica.giveUpSender with
          lifecycle := .terminated, callback := none, snapshot := none }
        activations := x.activations
        teardowns := x.teardowns + 1
        effects := x.effects ++ [.notice (.tornDown x.replica.id x.replica.descriptor)] } := by
  simp [step, Replica.move, Replica.teardown_of_ongoing ongoing]

theorem step_teardown_of_ended {x : Course} (ended : x.replica.hasEnded = true) :
    x.step .teardown = x := by
  simp [step, Replica.move, Replica.teardown_of_ended ended]

theorem callbacks_of_notice {x : Course} {es : List Effect} {n : Notice}
    (h : x.effects = es ++ [.notice n]) : x.callbacks = es.filterMap Effect.callback? := by
  simp [callbacks, h, Effect.callback?]

theorem Balanced.activate {i : ReplicaId} {c : Callback} {x : Course} (h : Balanced i c x)
    (platform runtime : Nat) : Balanced i c (x.step (.activate platform runtime)) := by
  cases fresh : x.replica.isFresh with
  | false =>
    rw [step_activate_of_not_isFresh fresh]
    exact h
  | true =>
    have created := (Replica.isFresh_eq_true_iff _).mp fresh
    have ongoing : x.replica.hasEnded = false :=
      (Replica.hasEnded_eq_false_iff _).mpr (by simp [created])
    have armed := h.armed
    have within := h.activations
    have none := h.endings
    rw [ongoing] at armed none
    rw [fresh, Bool.toNat_true] at within
    rw [step_activate_of_isFresh fresh]
    constructor
    · exact h.identity
    · exact armed
    · change x.activations + 1 + 0 ≤ 1
      omega
    · rw [callbacks_of_notice rfl]
      exact none
    · rw [callbacks_of_notice rfl]
      exact h.calls

theorem Balanced.teardown {i : ReplicaId} {c : Callback} {x : Course} (h : Balanced i c x) :
    Balanced i c (x.step .teardown) := by
  cases ended : x.replica.hasEnded with
  | true =>
    rw [step_teardown_of_ended ended]
    exact h
  | false =>
    have within := h.activations
    have none : x.teardowns + (x.effects.filterMap Effect.callback?).length = 0 := by
      simpa [ended, callbacks] using h.endings
    rw [step_teardown_of_ongoing ended]
    constructor
    · exact h.identity
    · rfl
    · change x.activations + 0 ≤ 1
      omega
    · rw [callbacks_of_notice rfl]
      change x.teardowns + 1 + _ = 1
      omega
    · rw [callbacks_of_notice rfl]
      exact h.calls

theorem Balanced.step {i : ReplicaId} {c : Callback} {x : Course} (h : Balanced i c x)
    (m : Move) : Balanced i c (x.step m) := by
  rcases x.step_cases m with ⟨platform, runtime, rfl⟩ | rfl | ⟨y, passes, same⟩
  · exact h.activate platform runtime
  · exact h.teardown
  · rw [same]
    exact h.pass passes

theorem Balanced.run {i : ReplicaId} {c : Callback} {x : Course} (h : Balanced i c x)
    (moves : List Move) : Balanced i c (x.run moves) := by
  induction moves generalizing x with
  | nil => exact h
  | cons m moves ih => exact ih (h.step m)

theorem staffed_run {x : Course} (staffed : x.replica.Staffed) (moves : List Move) :
    (x.run moves).replica.Staffed := by
  induction moves generalizing x with
  | nil => exact staffed
  | cons m moves ih => exact ih (x := x.step m) (staffed.move m)

/-- Whatever has happened before: an active replica ends, and calls back, in the turn in which its
task takes what is the end of it, and when its task is dropped. -/
theorem active_ends (i : ReplicaId) (d : Descriptor) (c : Callback) (moves : List Move) :
    let x := run { replica := Replica.make i d c } moves
    x.replica.lifecycle = .active →
      ∃ t, x.replica.task = some t ∧
        (t.phase.isFatal = true → ∀ pick reply, let z := x.step (.turn pick reply)
          z.replica.lifecycle = .terminated ∧ z.callbacks = [(i, c)]) ∧
        (x.step .drop).replica.lifecycle = .terminated ∧ (x.step .drop).callbacks = [(i, c)] := by
  intro x active
  have balanced : Balanced i c x := (balanced_make i d c).run moves
  have staffed : x.replica.Staffed := staffed_run (Replica.staffed_make i d c) moves
  have ongoing : x.replica.hasEnded = false :=
    (Replica.hasEnded_eq_false_iff _).mpr (by simp [active])
  obtain ⟨t, task⟩ := Option.ne_none_iff_exists'.mp (staffed.active active).2
  refine ⟨t, task, ?_, ?_⟩
  · intro fatal pick reply
    have ends := staffed.ends_turn ongoing task fatal pick reply
    exact ⟨ends.lifecycle, balanced.callbacks_of_ends ends⟩
  · have ends := Replica.ends_loseTask ongoing task
    exact ⟨ends.lifecycle, balanced.callbacks_of_ends ends⟩

theorem step_lifecycle (x : Course) (m : Move) :
    (x.step m).replica.lifecycle ∈ x.replica.lifecycle.successors := by
  rcases x.step_cases m with ⟨platform, runtime, rfl⟩ | rfl | ⟨y, passes, same⟩
  · cases fresh : x.replica.isFresh with
    | false =>
      rw [step_activate_of_not_isFresh fresh]
      exact Lifecycle.self_mem_successors _
    | true =>
      rw [step_activate_of_isFresh fresh, (Replica.isFresh_eq_true_iff _).mp fresh]
      exact List.mem_cons_of_mem _ List.mem_cons_self
  · cases ended : x.replica.hasEnded with
    | true =>
      rw [step_teardown_of_ended ended]
      exact Lifecycle.self_mem_successors _
    | false =>
      rw [step_teardown_of_ongoing ended]
      exact Lifecycle.terminated_mem_successors _
  · rw [same]
    rcases passes with keeps | ends
    · rw [keeps.lifecycle]
      exact Lifecycle.self_mem_successors _
    · rw [ends.lifecycle]
      exact Lifecycle.terminated_mem_successors _

theorem run_terminated {x : Course} (ended : x.replica.lifecycle = .terminated)
    (moves : List Move) : (x.run moves).replica.lifecycle = .terminated := by
  induction moves generalizing x with
  | nil => exact ended
  | cons m moves ih =>
    apply ih
    have next := x.step_lifecycle m
    rw [ended] at next
    exact List.mem_singleton.mp next

theorem teardowns_le_run (x : Course) (moves : List Move) :
    x.teardowns ≤ (x.run moves).teardowns := by
  induction moves generalizing x with
  | nil => exact Nat.le_refl _
  | cons m moves ih => exact Nat.le_trans (Nat.le_add_right _ _) (ih (x.step m))

/-- However calls, turns, the origin and the runtime interleave: the stages of life follow one
another, one activation takes at most, and the end belongs to one teardown or to one call. -/
theorem ends_once (i : ReplicaId) (d : Descriptor) (c : Callback) (moves : List Move) :
    let x := run { replica := Replica.make i d c } moves
    (∀ m, (x.step m).replica.lifecycle ∈ x.replica.lifecycle.successors) ∧
    (x.replica.lifecycle = .terminated →
      ∀ later, (x.run later).replica.lifecycle = .terminated) ∧
    x.activations ≤ 1 ∧
    x.teardowns + x.callbacks.length = (if x.replica.lifecycle = .terminated then 1 else 0) ∧
    (∀ b ∈ x.callbacks, b = (i, c)) ∧
    (0 < x.teardowns → ∀ later, (x.run later).callbacks = []) := by
  intro x
  have h : Balanced i c x := (balanced_make i d c).run moves
  refine ⟨x.step_lifecycle, run_terminated, ?_, ?_, h.calls, ?_⟩
  · have within := h.activations
    omega
  · rw [h.endings]
    cases ended : x.replica.hasEnded with
    | true => rw [if_pos ((Replica.hasEnded_eq_true_iff _).mp ended), Bool.toNat_true]
    | false => rw [if_neg ((Replica.hasEnded_eq_false_iff _).mp ended), Bool.toNat_false]
  · intro torn later
    have endings := (h.run later).endings
    have monotone := x.teardowns_le_run later
    have once := Bool.toNat_le (x.run later).replica.hasEnded
    apply List.eq_nil_of_length_eq_zero
    omega

end Course

end ReplicaHosting

import ReplicaHosting.Proofs.Replica.Ending

/-! What becomes of a task whose replica has been torn down. Whatever its turns take, and whatever
the origin still sends, nothing of the replica changes but the task, which has been told to stop and
has to come to its end. All ends are one and the same; a task that had not run yet may have asked
its origin on the way. -/
namespace ReplicaHosting

namespace Replica

def unasked (r : Replica) : List Nat :=
  match r.task with
  | some { platform, phase := .queued, .. } => [platform]
  | _ => []

theorem unasked_giveUpSender (r : Replica) : r.giveUpSender.unasked = r.unasked := by
  cases task : r.task with
  | none => simp [unasked, giveUpSender, task]
  | some t =>
    obtain ⟨platform, runtime, phase, told⟩ := t
    cases phase <;> simp [unasked, giveUpSender, task]

/-- Nothing of a replica has changed but its task, nobody has been called back, and whoever has
been asked was still to be asked. -/
structure ChangesOnlyTask (r : Replica) (x : Replica × List Effect) : Prop where
  rest : x.1 = { r with task := x.1.task }
  calls : x.2.filterMap Effect.callback? = []
  asks : (x.2.filterMap Effect.watch? ++ x.1.unasked).Sublist r.unasked

theorem changesOnlyTask_self (r : Replica) : ChangesOnlyTask r (r, []) :=
  ⟨rfl, rfl, List.Sublist.refl _⟩

theorem changesOnlyTask_with {r s : Replica} {es : List Effect}
    (rest : s = { r with task := s.task })
    (calls : es.filterMap Effect.callback? = []) (asks : es.filterMap Effect.watch? = [])
    (asked : s.unasked = []) : ChangesOnlyTask r (s, es) := by
  refine ⟨rest, calls, ?_⟩
  dsimp only
  rw [asks, asked]
  exact List.nil_sublist _

theorem terminate_of_ended {r : Replica} (ended : r.hasEnded = true) (cause : EndCause) :
    r.terminate cause = (r, []) := by
  simp only [terminate, ended, if_true]

theorem dropTask_of_ended {r : Replica} (ended : r.hasEnded = true) :
    r.dropTask = ({ r with snapshot := none, task := none }, []) := by
  simp only [dropTask, terminate_of_ended ended]

theorem finish_of_ended {r : Replica} (ended : r.hasEnded = true) (cause : EndCause) :
    r.finish cause = ({ r with snapshot := none, task := none }, []) := by
  simp only [finish, terminate_of_ended ended, dropTask_of_ended ended, List.append_nil]

theorem changesOnlyTask_dropTask {r : Replica} (ended : r.hasEnded = true)
    (hidden : r.snapshot = none) : ChangesOnlyTask r r.dropTask := by
  rw [dropTask_of_ended ended]
  exact changesOnlyTask_with (by rw [← hidden]) rfl rfl rfl

theorem changesOnlyTask_finish {r : Replica} (ended : r.hasEnded = true)
    (hidden : r.snapshot = none) (cause : EndCause) : ChangesOnlyTask r (r.finish cause) := by
  rw [finish_of_ended ended]
  exact changesOnlyTask_with (by rw [← hidden]) rfl rfl rfl

theorem publish_of_ended {r : Replica} (ended : r.hasEnded = true) (a : Attributes) :
    r.publish a = (r, []) := by
  simp only [publish, ended, if_true]

theorem changesOnlyTask_hear {r : Replica} (ended : r.hasEnded = true) (hidden : r.snapshot = none)
    (asked : r.unasked = []) (e : OriginEvent) : ChangesOnlyTask r (r.hear e) := by
  cases e with
  | attributes a =>
    simp only [hear, publish_of_ended ended]
    exact changesOnlyTask_self r
  | state s =>
    simp only [hear]
    split
    · exact changesOnlyTask_finish ended hidden _
    · exact changesOnlyTask_with rfl rfl rfl asked
  | fault reason => exact changesOnlyTask_finish ended hidden _

theorem changesOnlyTask_takeAnswer {r : Replica} (ended : r.hasEnded = true)
    (hidden : r.snapshot = none) (t : SyncTask) (a : WatchReply) :
    ChangesOnlyTask r (r.takeAnswer t a) := by
  cases a with
  | opens => exact changesOnlyTask_with rfl rfl rfl rfl
  | fails e =>
    simp only [takeAnswer, finish_of_ended ended]
    exact changesOnlyTask_with (by rw [← hidden]) rfl rfl rfl
  | panics => exact changesOnlyTask_dropTask ended hidden

theorem changesOnlyTask_turn {r : Replica} (ended : r.hasEnded = true) (hidden : r.snapshot = none)
    (pick : Branch) (reply : Option WatchReply) : ChangesOnlyTask r (r.turn pick reply) := by
  unfold turn
  cases task : r.task with
  | none => exact changesOnlyTask_self r
  | some t =>
    obtain ⟨platform, runtime, phase, told⟩ := t
    dsimp only
    split
    · exact changesOnlyTask_dropTask ended hidden
    · cases phase with
      | queued =>
        refine ⟨rfl, rfl, ?_⟩
        simp [unasked, setPhase, task, Effect.watch?]
      | opening answer =>
        cases answer with
        | none => exact changesOnlyTask_self r
        | some a => exact changesOnlyTask_takeAnswer ended hidden _ a
      | streaming events finished =>
        cases events with
        | cons e es =>
          have h := changesOnlyTask_hear (r := r.setPhase
            ⟨platform, runtime, .streaming (e :: es) finished, told⟩ (.streaming es finished))
            ended hidden rfl e
          refine ⟨h.rest, h.calls, ?_⟩
          exact h.asks.trans (List.nil_sublist _)
        | nil =>
          cases finished with
          | true => exact changesOnlyTask_finish ended hidden _
          | false => exact changesOnlyTask_self r

theorem changesOnlyTask_loseTask {r : Replica} (ended : r.hasEnded = true)
    (hidden : r.snapshot = none) : ChangesOnlyTask r r.loseTask := by
  unfold loseTask
  split
  · exact changesOnlyTask_dropTask ended hidden
  · exact changesOnlyTask_self r

theorem Advances.changesOnlyTask {r s : Replica} (h : Advances r s) :
    ChangesOnlyTask r (s, []) := by
  rcases h with rfl | ⟨t, p, runs, rfl⟩
  · exact changesOnlyTask_self _
  · apply changesOnlyTask_with rfl rfl rfl
    cases p with
    | queued => exact absurd rfl runs
    | opening answer => rfl
    | streaming events ended => rfl

theorem changesOnlyTask_move {r : Replica} (ended : r.hasEnded = true) (hidden : r.snapshot = none)
    (m : Move) : ChangesOnlyTask r (r.move m) := by
  cases m with
  | activate platform runtime =>
    have used : r.isFresh = false := by
      simp [isFresh, (hasEnded_eq_true_iff r).mp ended]
    simp only [move, activate_of_not_isFresh used]
    exact changesOnlyTask_self r
  | teardown =>
    simp only [move, teardown_of_ended ended]
    exact changesOnlyTask_self r
  | turn pick reply => exact changesOnlyTask_turn ended hidden pick reply
  | answer a => exact (advances_answer a r).changesOnlyTask
  | push e => exact (advances_push e r).changesOnlyTask
  | endStream => exact (advances_endStream r).changesOnlyTask
  | drop => exact changesOnlyTask_loseTask ended hidden

theorem two_le_work {r : Replica} {t : SyncTask} (task : r.task = some t) : 2 ≤ r.work := by
  unfold work
  rw [task]
  dsimp only
  split <;> omega

theorem work_hear_le {r : Replica} (ended : r.hasEnded = true) (e : OriginEvent) :
    (r.hear e).1.work ≤ r.work := by
  cases e with
  | attributes a => simp only [hear, publish_of_ended ended, Nat.le_refl]
  | state s =>
    simp only [hear]
    split
    · rw [finish_of_ended ended]
      exact Nat.zero_le _
    · exact Nat.le_refl _
  | fault reason =>
    simp only [hear, finish_of_ended ended]
    exact Nat.zero_le _

theorem work_takeAnswer_le {r : Replica} (ended : r.hasEnded = true) (t : SyncTask)
    (a : WatchReply) : (r.takeAnswer t a).1.work ≤ 2 := by
  cases a with
  | opens => exact Nat.le_refl 2
  | fails e =>
    simp only [takeAnswer, finish_of_ended ended]
    exact Nat.zero_le 2
  | panics =>
    simp only [takeAnswer, dropTask_of_ended ended]
    exact Nat.zero_le 2

theorem turn_without_task {r : Replica} (gone : r.task = none) (pick : Branch)
    (reply : Option WatchReply) : r.turn pick reply = (r, []) := by
  simp only [turn, gone]

theorem turn_of_idle {r : Replica} (idle : r.isReady = false) (pick : Branch)
    (reply : Option WatchReply) : (r.turn pick reply).1 = r := by
  cases task : r.task with
  | none => rw [turn_without_task task]
  | some t =>
    obtain ⟨platform, runtime, phase, told⟩ := t
    simp only [isReady, task, Bool.or_eq_false_iff] at idle
    obtain ⟨untold, waiting⟩ := idle
    simp only [turn, task, untold, Bool.false_and, Bool.false_eq_true, if_false]
    cases phase with
    | queued => cases waiting
    | opening answer =>
      cases answer with
      | none => rfl
      | some a => cases waiting
    | streaming events finished =>
      cases events with
      | nil =>
        cases finished with
        | true => cases waiting
        | false => rfl
      | cons e events => cases waiting

/-- A task that is told to stop comes nearer to its end in every turn, also in one that takes
something of the origin. -/
theorem work_turn_lt {r : Replica} {t : SyncTask} (ended : r.hasEnded = true)
    (task : r.task = some t) (told : t.told = true) (pick : Branch) (reply : Option WatchReply) :
    (r.turn pick reply).1.work < r.work := by
  have some_left := two_le_work task
  obtain ⟨platform, runtime, phase, _⟩ := t
  cases told
  unfold turn
  rw [task]
  dsimp only
  split
  · rw [dropTask_of_ended ended]
    exact Nat.lt_of_lt_of_le Nat.zero_lt_two some_left
  · rename_i goes_on
    rw [Bool.true_and, Bool.or_eq_true, not_or] at goes_on
    cases phase with
    | queued => simp [work, setPhase, task]
    | opening answer =>
      cases answer with
      | none => simp [originReady] at goes_on
      | some a =>
        have h := work_takeAnswer_le ended ⟨platform, runtime, .opening (some a), true⟩ a
        have left : r.work = 3 := by simp only [work, task]
        dsimp only
        omega
    | streaming events finished =>
      cases events with
      | cons e es =>
        have h := work_hear_le (r := r.setPhase
          ⟨platform, runtime, .streaming (e :: es) finished, true⟩ (.streaming es finished)) ended e
        have left : r.work = es.length + 3 := by simp only [work, task, List.length_cons]
        have next : (r.setPhase ⟨platform, runtime, .streaming (e :: es) finished, true⟩
          (.streaming es finished)).work = es.length + 2 := rfl
        dsimp only
        omega
      | nil =>
        cases finished with
        | true =>
          dsimp only
          rw [finish_of_ended ended]
          exact Nat.lt_of_lt_of_le Nat.zero_lt_two some_left
        | false => simp [originReady] at goes_on

end Replica

namespace Course

/-- From an ended replica with nothing shown, a course changes no more than the task, and asks at
most what was still to be asked. -/
structure OnlyTaskSince (x z : Course) : Prop where
  rest : z.replica = { x.replica with task := z.replica.task }
  calls : z.callbacks = x.callbacks
  asks : ∃ asked, z.watches = x.watches ++ asked ∧
    (asked ++ z.replica.unasked).Sublist x.replica.unasked

theorem onlyTaskSince_self (x : Course) : OnlyTaskSince x x :=
  ⟨rfl, rfl, [], (List.append_nil _).symm, List.Sublist.refl _⟩

theorem OnlyTaskSince.hasEnded {x z : Course} (h : OnlyTaskSince x z) :
    z.replica.hasEnded = x.replica.hasEnded := by
  rw [h.rest]
  rfl

theorem OnlyTaskSince.snapshot {x z : Course} (h : OnlyTaskSince x z) :
    z.replica.snapshot = x.replica.snapshot := by
  rw [h.rest]

theorem OnlyTaskSince.step {x z : Course} (h : OnlyTaskSince x z)
    (ended : x.replica.hasEnded = true)
    (hidden : x.replica.snapshot = none) (m : Move) : OnlyTaskSince x (z.step m) := by
  have changesOnlyTask :=
    Replica.changesOnlyTask_move (h.hasEnded.trans ended) (h.snapshot.trans hidden) m
  obtain ⟨asked, watches, bounded⟩ := h.asks
  refine ⟨?_, ?_, asked ++ (z.replica.move m).2.filterMap Effect.watch?, ?_, ?_⟩
  · calc (z.step m).replica
        = { z.replica with task := (z.step m).replica.task } := changesOnlyTask.rest
      _ = { x.replica with task := (z.step m).replica.task } :=
          congrArg (fun r : Replica => { r with task := (z.step m).replica.task }) h.rest
  · have appended : (z.step m).callbacks =
        z.callbacks ++ (z.replica.move m).2.filterMap Effect.callback? := List.filterMap_append
    rw [appended, changesOnlyTask.calls, List.append_nil, h.calls]
  · have appended : (z.step m).watches =
        z.watches ++ (z.replica.move m).2.filterMap Effect.watch? := List.filterMap_append
    rw [appended, watches, List.append_assoc]
  · rw [List.append_assoc]
    exact (changesOnlyTask.asks.append_left asked).trans bounded

theorem OnlyTaskSince.run {x z : Course} (h : OnlyTaskSince x z) (ended : x.replica.hasEnded = true)
    (hidden : x.replica.snapshot = none) (moves : List Move) : OnlyTaskSince x (z.run moves) := by
  induction moves generalizing z with
  | nil => exact h
  | cons m moves ih => exact ih (h.step ended hidden m)

def turns (ts : List (Branch × Option WatchReply)) : List Move :=
  ts.map fun t => .turn t.1 t.2

/-- As many turns as there is work left are enough, whatever they take. -/
theorem task_run_turns {x : Course} (staffed : x.replica.Staffed)
    (ended : x.replica.lifecycle = .terminated) (ts : List (Branch × Option WatchReply))
    (enough : x.replica.work ≤ ts.length) : (x.run (turns ts)).replica.task = none := by
  induction ts generalizing x with
  | nil =>
    cases task : x.replica.task with
    | none => exact task
    | some t =>
      have left := Replica.two_le_work task
      simp only [List.length_nil] at enough
      omega
  | cons t ts ih =>
    have past := (Replica.hasEnded_eq_true_iff _).mpr ended
    apply ih (x := x.step (.turn t.1 t.2)) (staffed.move (.turn t.1 t.2))
      (run_terminated ended [.turn t.1 t.2])
    change (x.replica.turn t.1 t.2).1.work ≤ ts.length
    rw [List.length_cons] at enough
    cases task : x.replica.task with
    | none =>
      rw [Replica.turn_without_task task]
      simp [Replica.work, task]
    | some u =>
      have told := (staffed.told u task).trans past
      have less := Replica.work_turn_lt past task told t.1 t.2
      omega

/-- A teardown that takes settles all that can be seen, however the turns of the task branch and
interleave with what its origin does: only whether an origin that had not been asked yet is asked
at all is left open. The stream goes with the task, since the phase of the task holds it. -/
theorem teardown_confluent (i : ReplicaId) (d : Descriptor) (c : Callback) (before : List Move)
    (ongoing : (run { replica := Replica.make i d c } before).replica.hasEnded = false) :
    let x := run { replica := Replica.make i d c } before
    let y := x.step .teardown
    y.teardowns = x.teardowns + 1 ∧
    (∀ later, let z := y.run later
      z.replica.lifecycle = .terminated ∧ z.replica.snapshot = none ∧ z.callbacks = [] ∧
      (z.replica.isReady = false → z.replica.task = none) ∧
      (∀ ts, z.replica.work ≤ ts.length → (z.run (turns ts)).replica.task = none) ∧
      ∃ asked, z.watches = x.watches ++ asked ∧ asked.Sublist x.replica.unasked) ∧
    (∀ later later', (y.run later).replica.task = none → (y.run later').replica.task = none →
      (y.run later).replica = (y.run later').replica) := by
  intro x y
  have balanced : Balanced i c x := (balanced_make i d c).run before
  have torn : y = { replica := { x.replica.giveUpSender with
                      lifecycle := .terminated, callback := none, snapshot := none }
                    activations := x.activations
                    teardowns := x.teardowns + 1
                    effects :=
                      x.effects ++ [.notice (.tornDown x.replica.id x.replica.descriptor)] } :=
    step_teardown_of_ongoing ongoing
  have terminated : y.replica.lifecycle = .terminated := by rw [torn]
  have hidden : y.replica.snapshot = none := by rw [torn]
  have ended := (Replica.hasEnded_eq_true_iff _).mpr terminated
  have silent : y.callbacks = [] := by
    have none : x.callbacks.length = 0 := by
      have endings := balanced.endings
      rw [ongoing, Bool.toNat_false] at endings
      omega
    rw [torn, callbacks_of_notice rfl]
    exact List.eq_nil_of_length_eq_zero none
  have watched : y.watches = x.watches := by
    rw [torn]
    simp [watches, Effect.watch?]
  have unasked : y.replica.unasked = x.replica.unasked := by
    rw [torn]
    exact x.replica.unasked_giveUpSender
  have staffed : y.replica.Staffed :=
    (staffed_run (Replica.staffed_make i d c) before).move .teardown
  refine ⟨by rw [torn], ?_, ?_⟩
  · intro later z
    have onlyTaskSince : OnlyTaskSince y z := (onlyTaskSince_self y).run ended hidden later
    have stays := onlyTaskSince.hasEnded.trans ended
    have staffed' : z.replica.Staffed := staffed_run staffed later
    have terminated' := (Replica.hasEnded_eq_true_iff _).mp stays
    refine ⟨terminated', onlyTaskSince.snapshot.trans hidden, onlyTaskSince.calls.trans silent,
      staffed'.task_of_idle terminated', task_run_turns staffed' terminated', ?_⟩
    obtain ⟨asked, watches, bounded⟩ := onlyTaskSince.asks
    rw [watched] at watches
    rw [unasked] at bounded
    exact ⟨asked, watches, (List.sublist_append_left asked _).trans bounded⟩
  · intro later later' gone gone'
    have rest := ((onlyTaskSince_self y).run ended hidden later).rest
    have rest' := ((onlyTaskSince_self y).run ended hidden later').rest
    rw [gone] at rest
    rw [gone'] at rest'
    exact rest.trans rest'.symm

/-- A stream with attributes and a loss on their way, and a task that takes both of them first. -/
theorem teardown_while_streaming :
    let x := run { replica := Replica.make ⟨1⟩ { address := "n", uri := "/a/hosting" } .report }
      [.activate 0 0, .turn .origin (some .opens), .turn .origin none, .push (.attributes []),
       .push (.state .lostSignal)]
    let z := (x.step .teardown).run (turns [(.origin, none), (.origin, none)])
    x.replica.hasEnded = false ∧ x.replica.work = 4 ∧
      z.replica.lifecycle = .terminated ∧ z.replica.snapshot = none ∧ z.callbacks = [] ∧
      z.replica.task = none := by
  intro x z
  have settled := (teardown_confluent ⟨1⟩ { address := "n", uri := "/a/hosting" } .report
    [.activate 0 0, .turn .origin (some .opens), .turn .origin none, .push (.attributes []),
     .push (.state .lostSignal)] rfl).2.1 (turns [(.origin, none), (.origin, none)])
  exact ⟨rfl, rfl, settled.1, settled.2.1, settled.2.2.1, settled.2.2.2.1 rfl⟩

end Course

end ReplicaHosting

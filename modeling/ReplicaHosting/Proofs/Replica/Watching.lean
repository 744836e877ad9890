import ReplicaHosting.Proofs.Replica.Passage

/-! How a replica deals with its origin. It may ask once to be answered, and open one stream; what
an act asks and opens is bounded by what was left. An active replica has a task, so it is on its way
to a stream or holds one, and the sender to stop it with. So no end of a replica is missed by its
task: a task has been told to stop exactly if its replica has ended. -/
namespace ReplicaHosting.Replica

/-- Whether the task holds a stream of events, also one that has ended at the other side. -/
def holdsStream (r : Replica) : Bool :=
  match r.task with
  | none => false
  | some t =>
    match t.phase with
    | .queued | .opening _ => false
    | .streaming _ _ => true

def asksLeft (r : Replica) : Nat :=
  match r.task with
  | none => r.isFresh.toNat
  | some t =>
    match t.phase with
    | .queued => 1
    | .opening _ | .streaming _ _ => 0

def opensLeft (r : Replica) : Nat :=
  match r.task with
  | none => r.isFresh.toNat
  | some t =>
    match t.phase with
    | .queued | .opening _ => 1
    | .streaming _ _ => 0

/-- A task and the sender to stop it with come with the activation, and an active replica loses
neither. A task has been told to stop exactly if its replica has ended. -/
structure Staffed (r : Replica) : Prop where
  created : r.lifecycle = .created → r.task = none
  active : r.lifecycle = .active → r.hasSender = true ∧ r.task ≠ none
  told : ∀ t, r.task = some t → t.told = r.hasEnded

structure AsksNothing (es : List Effect) : Prop where
  unasked : es.filterMap Effect.watch? = []
  unopened : es.count .opened = 0

theorem AsksNothing.append {es fs : List Effect} (first : AsksNothing es)
    (second : AsksNothing fs) : AsksNothing (es ++ fs) := by
  constructor
  · rw [List.filterMap_append, first.unasked, second.unasked, List.append_nil]
  · rw [List.count_append, first.unopened, second.unopened]

theorem asksNothing_nil : AsksNothing [] := ⟨rfl, rfl⟩

theorem asksNothing_notice (x : Notice) : AsksNothing [.notice x] := ⟨rfl, rfl⟩

theorem asksNothing_terminate (cause : EndCause) (r : Replica) :
    AsksNothing (r.terminate cause).2 := by
  unfold terminate
  split
  · exact asksNothing_nil
  · cases r.callback with
    | none => exact asksNothing_notice _
    | some c => exact ⟨rfl, rfl⟩

theorem not_isFresh_of_ended {r : Replica} (ended : r.lifecycle = .terminated) :
    r.isFresh = false := by simp [isFresh, ended]

theorem asksNothing_finish (cause : EndCause) (r : Replica) : AsksNothing (r.finish cause).2 :=
  (asksNothing_terminate cause r).append (asksNothing_terminate .abandoned _)

/-- What an act asks and opens is bounded by what was left. -/
structure WatchBound (r : Replica) (x : Replica × List Effect) : Prop where
  asks : (x.2.filterMap Effect.watch?).length + x.1.asksLeft ≤ r.asksLeft
  opens : x.2.count .opened + x.1.opensLeft ≤ r.opensLeft
  holds : x.1.holdsStream = true → r.holdsStream = true ∨ 0 < x.2.count .opened
  staffed : r.Staffed → x.1.Staffed

theorem WatchBound.trans {r : Replica} {x y : Replica × List Effect} (first : WatchBound r x)
    (second : WatchBound x.1 y) : WatchBound r (y.1, x.2 ++ y.2) := by
  obtain ⟨asks, opens, holds, staffed⟩ := first
  obtain ⟨asks', opens', holds', staffed'⟩ := second
  refine ⟨?_, ?_, ?_, fun h => staffed' (staffed h)⟩
  · simp only [List.filterMap_append, List.length_append]
    omega
  · simp only [List.count_append]
    omega
  · intro held
    simp only [List.count_append]
    rcases holds' held with before | now
    · rcases holds before with earlier | opened
      · exact .inl earlier
      · exact .inr (Nat.add_pos_left opened _)
    · exact .inr (Nat.add_pos_right _ now)

variable {r s : Replica} {es : List Effect}

theorem watchBound_of_asksNothing (nothing : AsksNothing es) (task : s.task = r.task)
    (sender : s.hasSender = r.hasSender) (life : s.lifecycle = r.lifecycle) :
    WatchBound r (s, es) := by
  have fresh : s.isFresh = r.isFresh := by simp [isFresh, life]
  have stays : s.hasEnded = r.hasEnded := by simp [hasEnded, life]
  constructor
  · simp [nothing.unasked, asksLeft, task, fresh]
  · simp [nothing.unopened, opensLeft, task, fresh]
  · intro held
    simp only [holdsStream, task] at held
    exact .inl held
  · rintro ⟨created, active, told⟩
    refine ⟨?_, ?_, ?_⟩
    · rw [life, task]
      exact created
    · rw [life, task, sender]
      exact active
    · rw [task, stays]
      exact told

theorem watchBound_of_giveUpSender (nothing : AsksNothing es) (ongoing : r.hasEnded = false)
    (task : s.task = r.giveUpSender.task) (ended : s.lifecycle = .terminated) :
    WatchBound r (s, es) := by
  have used := not_isFresh_of_ended ended
  constructor
  · cases before : r.task <;>
      simp [nothing.unasked, asksLeft, task, giveUpSender, before, used]
  · cases before : r.task <;>
      simp [nothing.unopened, opensLeft, task, giveUpSender, before, used]
  · intro held
    have same : s.holdsStream = r.holdsStream := by
      cases before : r.task <;> simp [holdsStream, task, giveUpSender, before]
    exact .inl (same ▸ held)
  · rintro ⟨created, active, told⟩
    refine ⟨by simp [ended], by simp [ended], ?_⟩
    intro t now
    rw [(hasEnded_eq_true_iff s).mpr ended]
    cases before : r.task with
    | none => simp [task, giveUpSender, before] at now
    | some u =>
      have held : r.hasSender = true := by
        cases life : r.lifecycle with
        | created =>
          rw [created life] at before
          cases before
        | active => exact (active life).1
        | terminated => exact absurd life ((hasEnded_eq_false_iff r).mp ongoing)
      simp only [task, giveUpSender, before, held, Bool.or_true, Option.map_some,
        Option.some.injEq] at now
      rw [← now]

theorem watchBound_of_gone (nothing : AsksNothing es) (gone : s.task = none)
    (ended : s.lifecycle = .terminated) : WatchBound r (s, es) := by
  constructor
  · simp [nothing.unasked, asksLeft, gone, not_isFresh_of_ended ended]
  · simp [nothing.unopened, opensLeft, gone, not_isFresh_of_ended ended]
  · simp [holdsStream, gone]
  · exact fun _ => ⟨by simp [ended], by simp [ended], by simp [gone]⟩

theorem watchBound_dropTask (r : Replica) : WatchBound r r.dropTask :=
  watchBound_of_gone (asksNothing_terminate .abandoned r) rfl r.lifecycle_dropTask

theorem watchBound_finish (cause : EndCause) (r : Replica) : WatchBound r (r.finish cause) :=
  watchBound_of_gone (asksNothing_finish cause r) rfl (r.lifecycle_finish cause)

theorem watchBound_self (r : Replica) : WatchBound r (r, []) :=
  watchBound_of_asksNothing asksNothing_nil rfl rfl rfl

theorem watchBound_setPhase {t : SyncTask} (task : r.task = some t) {p : Phase}
    (asks : (es.filterMap Effect.watch?).length + (r.setPhase t p).asksLeft ≤ r.asksLeft)
    (opens : es.count .opened + (r.setPhase t p).opensLeft ≤ r.opensLeft)
    (holds : (r.setPhase t p).holdsStream = true → r.holdsStream = true ∨ 0 < es.count .opened) :
    WatchBound r (r.setPhase t p, es) := by
  refine ⟨asks, opens, holds, fun staffed => ⟨?_, ?_, ?_⟩⟩
  · intro created
    rw [staffed.created created] at task
    cases task
  · exact fun active => ⟨(staffed.active active).1, by simp [setPhase]⟩
  · intro u now
    cases now
    exact staffed.told t task

theorem watchBound_publish (a : Attributes) (r : Replica) : WatchBound r (r.publish a) := by
  unfold publish
  split
  · exact watchBound_self r
  · split
    · exact watchBound_of_asksNothing asksNothing_nil rfl rfl rfl
    · exact watchBound_of_asksNothing (asksNothing_notice _) rfl rfl rfl

theorem watchBound_hear (e : OriginEvent) (r : Replica) : WatchBound r (r.hear e) := by
  cases e with
  | attributes a => exact watchBound_publish a r
  | state s =>
    simp only [hear]
    split
    · exact watchBound_finish _ r
    · exact watchBound_of_asksNothing (asksNothing_notice _) rfl rfl rfl
  | fault reason => exact watchBound_finish _ r

theorem watchBound_turn (pick : Branch) (reply : Option WatchReply) (r : Replica) :
    WatchBound r (r.turn pick reply) := by
  unfold turn
  cases task : r.task with
  | none => exact watchBound_self r
  | some t =>
    obtain ⟨platform, runtime, phase, told⟩ := t
    dsimp only
    split
    · exact watchBound_dropTask r
    · cases phase with
      | queued =>
        apply watchBound_setPhase task
        · simp [asksLeft, setPhase, task, Effect.watch?]
        · simp [opensLeft, setPhase, task]
        · simp [holdsStream, setPhase]
      | opening answer =>
        cases answer with
        | none => exact watchBound_self r
        | some a =>
          cases a with
          | opens =>
            apply watchBound_setPhase task
            · exact Nat.zero_le _
            · simp [opensLeft, setPhase, task]
            · simp
          | fails e =>
            have warned :
              WatchBound r (r, [.notice (.watchFailed (r.finish (.watchFailed e)).1.id e)]) :=
              watchBound_of_asksNothing (asksNothing_notice _) rfl rfl rfl
            exact warned.trans (watchBound_finish (.watchFailed e) r)
          | panics => exact watchBound_dropTask r
      | streaming events ended =>
        cases events with
        | cons e events =>
          have taken : WatchBound r (r.setPhase
              ⟨platform, runtime, .streaming (e :: events) ended, told⟩
              (.streaming events ended), []) := by
            apply watchBound_setPhase task
            · simp [asksLeft, setPhase, task]
            · simp [opensLeft, setPhase, task]
            · simp [holdsStream, task]
          exact taken.trans (watchBound_hear e _)
        | nil =>
          cases ended with
          | true => exact watchBound_finish _ r
          | false => exact watchBound_self r

theorem watchBound_answer (a : WatchReply) (r : Replica) : WatchBound r (r.answer a, []) := by
  unfold answer
  cases task : r.task with
  | none => exact watchBound_self r
  | some t =>
    obtain ⟨platform, runtime, phase, told⟩ := t
    dsimp only
    split
    · apply watchBound_setPhase task
      · simp [asksLeft, setPhase, task]
      · simp [opensLeft, setPhase, task]
      · simp [holdsStream, setPhase]
    · exact watchBound_self r

/-- What waits in a stream makes no difference to the stream. -/
theorem watchBound_listen {t : SyncTask} (task : r.task = some t) {before after : List OriginEvent}
    {ended ended' : Bool} (phase : t.phase = .streaming before ended) :
    WatchBound r (r.setPhase t (.streaming after ended'), []) := by
  apply watchBound_setPhase task
  · simp [asksLeft, setPhase]
  · simp [opensLeft, setPhase]
  · simp [holdsStream, task, phase]

theorem watchBound_push (e : OriginEvent) (r : Replica) : WatchBound r (r.push e, []) := by
  unfold push
  split
  · rename_i t task
    split
    · rename_i phase
      exact watchBound_listen task phase
    · exact watchBound_self r
  · exact watchBound_self r

theorem watchBound_endStream (r : Replica) : WatchBound r (r.endStream, []) := by
  unfold endStream
  split
  · rename_i t task
    split
    · rename_i phase
      exact watchBound_listen task phase
    · exact watchBound_self r
  · exact watchBound_self r

theorem Act.watchBound {a : Replica → Replica × List Effect} (own : Act a) (r : Replica) :
    WatchBound r (a r) := by
  cases own with
  | turn pick reply => exact watchBound_turn pick reply r
  | answer x => exact watchBound_answer x r
  | push e => exact watchBound_push e r
  | endStream => exact watchBound_endStream r
  | dropTask => exact watchBound_dropTask r

theorem watchBound_teardown (r : Replica) : WatchBound r r.teardown.2 := by
  cases ended : r.hasEnded with
  | true =>
    rw [teardown_of_ended ended]
    exact watchBound_self r
  | false =>
    rw [teardown_of_ongoing ended]
    exact watchBound_of_giveUpSender (asksNothing_notice _) ended rfl rfl

theorem Staffed.watchBound_activate (staffed : r.Staffed) (platform runtime : Nat) :
    WatchBound r (r.activate platform runtime).2 := by
  cases fresh : r.isFresh with
  | false =>
    rw [activate_of_not_isFresh fresh]
    exact watchBound_self r
  | true =>
    have untasked := staffed.created ((isFresh_eq_true_iff r).mp fresh)
    rw [activate_of_isFresh fresh]
    constructor
    · simp [asksLeft, untasked, fresh, Effect.watch?]
    · simp [opensLeft, untasked, fresh]
    · simp [holdsStream]
    · refine fun _ => ⟨nofun, fun _ => ⟨rfl, nofun⟩, ?_⟩
      rintro t ⟨⟩
      rfl

theorem staffed_make (id : ReplicaId) (d : Descriptor) (c : Callback) : (make id d c).Staffed :=
  ⟨fun _ => rfl, nofun, nofun⟩

theorem Staffed.move (staffed : r.Staffed) (m : Move) : (r.move m).1.Staffed := by
  cases m with
  | activate platform runtime =>
      exact (staffed.watchBound_activate platform runtime).staffed staffed
  | teardown => exact (watchBound_teardown r).staffed staffed
  | turn pick reply => exact (watchBound_turn pick reply r).staffed staffed
  | answer a => exact (watchBound_answer a r).staffed staffed
  | push e => exact (watchBound_push e r).staffed staffed
  | endStream => exact (watchBound_endStream r).staffed staffed
  | drop =>
    change r.loseTask.1.Staffed
    unfold loseTask
    split
    · exact (watchBound_dropTask r).staffed staffed
    · exact staffed

/-- A task that has been told always has something to do, so one that has nothing to do belongs to
a replica that goes on. -/
theorem Staffed.task_of_idle (staffed : r.Staffed) (ended : r.lifecycle = .terminated)
    (idle : r.isReady = false) : r.task = none := by
  cases task : r.task with
  | none => rfl
  | some t =>
    have told := (staffed.told t task).trans ((hasEnded_eq_true_iff r).mpr ended)
    simp [isReady, task, told] at idle

theorem Staffed.opensLeft_of_active (staffed : r.Staffed) (active : r.lifecycle = .active)
    (without : r.holdsStream = false) : r.opensLeft = 1 := by
  cases task : r.task with
  | none => exact absurd task (staffed.active active).2
  | some t =>
    obtain ⟨platform, runtime, phase, told⟩ := t
    cases phase with
    | queued | opening _ => simp [opensLeft, task]
    | streaming events ended => simp [holdsStream, task] at without

theorem Staffed.active_of_holdsStream (staffed : r.Staffed) (idle : r.isReady = false)
    (held : r.holdsStream = true) : r.lifecycle = .active := by
  cases life : r.lifecycle with
  | created => simp [holdsStream, staffed.created life] at held
  | active => rfl
  | terminated => simp [holdsStream, staffed.task_of_idle life idle] at held

end ReplicaHosting.Replica

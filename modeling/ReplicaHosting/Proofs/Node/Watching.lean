import ReplicaHosting.Proofs.Replica.Stopping
import ReplicaHosting.Proofs.Node.Order
import ReplicaHosting.Proofs.Node.Follow

/-! Origins are asked once, and no stream is left behind. What the record says of a replica and what
the replica may still do add up to one request and one stream at most. A stream goes with the task
that holds it. The task of a replica that has ended has been told to stop, so it is ready until it
is gone; when no task has anything left to do, only replicas that are active have a stream. -/
namespace ReplicaHosting.Node

def openStreams (n : Node) : List ReplicaId :=
  (n.replicas.filter Replica.holdsStream).map Replica.id

def IsIdle (n : Node) : Prop := ∀ r ∈ n.replicas, r.isReady = false

instance (n : Node) : Decidable n.IsIdle := inferInstanceAs (Decidable (∀ r ∈ n.replicas, _))

/-- The record and a replica agree on what its origin has been asked and has opened. -/
structure Accounts (n : Node) (r : Replica) : Prop where
  asked : n.watched.count r.id + r.asksLeft ≤ 1
  opened : n.streams.count r.id + r.opensLeft ≤ 1
  holds : r.holdsStream = true → r.id ∈ n.streams
  staffed : r.Staffed
  announced : .hosted r.id r.descriptor ∈ n.notices

structure AccountsAll (n : Node) : Prop where
  accounts : ∀ r ∈ n.replicas, Accounts n r
  origins : ∀ id platform d, .watch id platform d ∈ n.calls →
    ∃ r ∈ n.replicas, r.id = id ∧ r.descriptor = d
  opened : ∀ id ∈ n.streams, id ∈ n.replicas.map Replica.id

variable {n m : Node} {r : Replica} {id : ReplicaId}

theorem mem_watched_iff : id ∈ n.watched ↔ ∃ platform d, .watch id platform d ∈ n.calls := by
  simp only [watched, List.mem_filterMap]
  constructor
  · rintro ⟨c, mem, own⟩
    cases c with
    | watch i platform d =>
      cases own
      exact ⟨platform, d, mem⟩
    | _ => cases own
  · rintro ⟨platform, d, mem⟩
    exact ⟨_, mem, rfl⟩

theorem AccountsAll.watched (h : AccountsAll n) (mem : id ∈ n.watched) :
    id ∈ n.replicas.map Replica.id := by
  obtain ⟨platform, d, call⟩ := mem_watched_iff.mp mem
  obtain ⟨r, there, rfl, -⟩ := h.origins id platform d call
  exact List.mem_map_of_mem there

theorem Accounts.of_same (h : Accounts n r) (watched : m.watched = n.watched)
    (streams : m.streams = n.streams) (notices : n.notices <+: m.notices) : Accounts m r :=
  ⟨watched ▸ h.asked, streams ▸ h.opened, streams ▸ h.holds, h.staffed,
    notices.subset h.announced⟩

theorem Accounts.of_other (h : Accounts n r) {d : Descriptor} {es : List Effect}
    (logs : Logs id d n es m) (other : r.id ≠ id) : Accounts m r := by
  have none_of (k : Nat) : (List.replicate k id).count r.id = 0 := by
    simp [List.count_replicate, Ne.symm other]
  refine ⟨?_, ?_, ?_, h.staffed, logs.notices.subset h.announced⟩
  · rw [logs.watched, List.count_append, none_of]
    exact h.asked
  · rw [logs.streams, List.count_append, none_of]
    exact h.opened
  · intro held
    rw [logs.streams]
    exact List.mem_append_left _ (h.holds held)

theorem Accounts.act (h : Accounts n r) {x : Replica × List Effect}
    (logs : Logs r.id r.descriptor n x.2 m) (bound : r.WatchBound x) (same : x.1.id = r.id)
    (descriptor : x.1.descriptor = r.descriptor) : Accounts m x.1 := by
  obtain ⟨asked, opened, holds, staffed, announced⟩ := h
  refine ⟨?_, ?_, ?_, bound.staffed staffed, ?_⟩
  · have paid := bound.asks
    rw [logs.watched, same, List.count_append, List.count_replicate_self]
    omega
  · have paid := bound.opens
    rw [logs.streams, same, List.count_append, List.count_replicate_self]
    omega
  · intro held
    rw [logs.streams, same]
    rcases bound.holds held with before | now
    · exact List.mem_append_left _ (holds before)
    · exact List.mem_append_right _ (List.mem_replicate.mpr ⟨Nat.pos_iff_ne_zero.mp now, rfl⟩)
  · rw [same, descriptor]
    exact logs.notices.subset announced

theorem AccountsAll.perform (h : AccountsAll n) (orderly : Orderly n) (id : ReplicaId)
    {a : Replica → Replica × List Effect}
    (same : ∀ r, (a r).1.id = r.id ∧ (a r).1.descriptor = r.descriptor)
    (bound : ∀ r ∈ n.replicas, r.WatchBound (a r)) : AccountsAll (n.perform id a) := by
  cases found : n.replica? id with
  | none =>
    rw [perform_of_absent found]
    exact h
  | some r =>
    obtain ⟨mem, rfl⟩ := mem_of_replica? found
    have logs := logs_perform found a
    have replicas := replicas_perform orderly.unique r.id fun r => (same r).1
    constructor
    · intro x hx
      rw [replicas] at hx
      obtain ⟨s, mem', rfl⟩ := List.mem_map.mp hx
      by_cases self : s.id = r.id
      · have eq : s = r := orderly.eq_of_id mem' mem self
        subst eq
        rw [if_pos rfl]
        exact (h.accounts s mem).act logs (bound s mem) (same s).1 (same s).2
      · rw [if_neg self]
        exact (h.accounts s mem').of_other logs self
    · intro i platform d call
      rw [logs.calls] at call
      have made : ∃ s ∈ n.replicas, s.id = i ∧ s.descriptor = d := by
        rcases List.mem_append.mp call with before | now
        · exact h.origins i platform d before
        · obtain ⟨p, -, eq⟩ := List.mem_map.mp now
          cases eq
          exact ⟨r, mem, rfl, rfl⟩
      obtain ⟨s, mem', rfl, rfl⟩ := made
      exact exists_mem_perform orderly.unique r.id same mem'
    · intro i hi
      rw [logs.streams] at hi
      rw [ids_perform]
      rcases List.mem_append.mp hi with before | now
      · exact h.opened i before
      · rw [(List.mem_replicate.mp now).2]
        exact List.mem_map_of_mem mem

theorem AccountsAll.activate (h : AccountsAll n) (orderly : Orderly n) (id : ReplicaId)
    (platform runtime : Nat) :
    AccountsAll (n.perform id fun r => (r.activate platform runtime).2) :=
  h.perform orderly id (Replica.activate_same platform runtime)
    fun r mem => (h.accounts r mem).staffed.watchBound_activate platform runtime

theorem AccountsAll.teardown (h : AccountsAll n) (orderly : Orderly n) (id : ReplicaId) :
    AccountsAll (n.teardown id) :=
  h.perform orderly id Replica.teardown_same fun r _ => r.watchBound_teardown

theorem AccountsAll.enlist (h : AccountsAll n) (orderly : Orderly n) (live : n.live = true)
    {b : Binding} {d : Descriptor} {registry : Registry}
    (admitted : n.registry.enroll (b.config.dedupKey d) = (.admitted id, registry)) :
    AccountsAll (n.enlist b d id registry) := by
  have fresh := orderly.fresh live
  rw [← (Registry.enroll_admitted admitted).2.2.1] at fresh
  have said : n.notices <+: (n.enlist b d id registry).notices := List.prefix_append _ _
  constructor
  · intro r mem
    rcases List.mem_append.mp mem with old | new
    · exact (h.accounts r old).of_same rfl rfl said
    · rw [List.mem_singleton.mp new]
      refine ⟨?_, ?_, nofun, Replica.staffed_make _ _ _, ?_⟩
      · have unasked : n.watched.count id = 0 := List.count_eq_zero.mpr fun w => fresh (h.watched w)
        exact Nat.le_of_eq (congrArg (· + 1) unasked)
      · have unopened : n.streams.count id = 0 :=
          List.count_eq_zero.mpr fun w => fresh (h.opened id w)
        exact Nat.le_of_eq (congrArg (· + 1) unopened)
      · exact List.mem_append_right _ (List.mem_singleton.mpr rfl)
  · intro i platform d' call
    obtain ⟨r, mem, rest⟩ := h.origins i platform d' call
    exact ⟨r, List.mem_append_left _ mem, rest⟩
  · intro i hi
    exact List.map_subset Replica.id (List.subset_append_left n.replicas _) (h.opened i hi)

theorem AccountsAll.of_same (h : AccountsAll n) (replicas : m.replicas = n.replicas)
    (calls : ∀ id platform d, .watch id platform d ∈ m.calls → .watch id platform d ∈ n.calls)
    (watched : m.watched = n.watched) (streams : m.streams = n.streams)
    (notices : n.notices <+: m.notices) : AccountsAll m := by
  constructor
  · intro r mem
    exact (h.accounts r (replicas ▸ mem)).of_same watched streams notices
  · intro id platform d call
    rw [replicas]
    exact h.origins id platform d (calls id platform d call)
  · rw [streams, replicas]
    exact h.opened

theorem AccountsAll.shift (s : Shift n m) (h : Orderly n ∧ AccountsAll n) :
    Orderly m ∧ AccountsAll m := by
  refine ⟨h.1.shift s, ?_⟩
  obtain ⟨orderly, accounted⟩ := h
  cases s with
  | say x => exact accounted.of_same rfl (fun _ _ _ => id) rfl rfl (List.prefix_append _ _)
  | call c own =>
    apply accounted.of_same (m := n.call c) rfl _ _ rfl (List.prefix_refl _)
    · intro id platform d call
      exact (List.mem_append.mp call).resolve_right
        fun now => own id platform d (List.mem_singleton.mp now).symm
    · have other : c.watched? = none := by
        cases c with
        | watch id platform d => exact absurd rfl (own id platform d)
        | _ => rfl
      simp [Node.watched, Node.call, other]
  | takeIn b d id registry live tagged bound admitted =>
    exact (accounted.enlist orderly live admitted).activate (orderly.enlist live admitted b d) id
      b.platform b.runtime
  | act id own =>
    exact accounted.perform orderly id (fun r => ⟨(own.passes r).id, (own.passes r).descriptor⟩)
      fun r _ => own.watchBound r
  | drain =>
    have same : AccountsAll { n with registry := n.registry.clear } :=
      accounted.of_same rfl (fun _ _ _ => id) rfl rfl (List.prefix_refl _)
    exact orderly.drain_keeps (fun id orderly h => h.teardown orderly id) same
  | _ => exact accounted.of_same rfl (fun _ _ _ => id) rfl rfl (List.prefix_refl _)

theorem accountsAll_run (actions : List Action) :
    Orderly (run {} actions) ∧ AccountsAll (run {} actions) := by
  apply run_keeps_of_shift (P := fun n => Orderly n ∧ AccountsAll n) AccountsAll.shift
  · intro n id platform runtime h
    exact ⟨h.1.perform id _, h.2.activate h.1 id platform runtime⟩
  · intro n id h
    exact ⟨h.1.perform id _, h.2.teardown h.1 id⟩
  · intro n h
    exact ⟨h.1.step .abandon, h.2.of_same rfl (fun _ _ _ => id) rfl rfl (List.prefix_refl _)⟩
  · refine ⟨orderly_initial, ?_, ?_, ?_⟩
    · intro r mem
      cases mem
    · intro id platform d call
      cases call
    · intro id mem
      cases mem

theorem nodup_of_count {ids : List ReplicaId} (known : ∀ id ∈ ids, id ∈ n.replicas.map Replica.id)
    (once : ∀ r ∈ n.replicas, ids.count r.id ≤ 1) : ids.Nodup := by
  apply List.nodup_iff_count_le_one.mpr
  intro id
  by_cases mem : id ∈ ids
  · obtain ⟨r, there, rfl⟩ := List.mem_map.mp (known id mem)
    exact once r there
  · rw [List.count_eq_zero.mpr mem]
    exact Nat.zero_le 1

theorem AccountsAll.nodup_watched (h : AccountsAll n) : n.watched.Nodup :=
  nodup_of_count (fun _ mem => h.watched mem)
    fun r mem => Nat.le_of_add_right_le (h.accounts r mem).asked

theorem AccountsAll.nodup_streams (h : AccountsAll n) : n.streams.Nodup :=
  nodup_of_count h.opened fun r mem => Nat.le_of_add_right_le (h.accounts r mem).opened

/-- When nothing is left to do, whoever is active and got a stream has it still, and no one else
has one. -/
theorem Accounts.holdsStream_iff (h : Accounts n r) (idle : r.isReady = false) :
    r.holdsStream = true ↔ r.lifecycle = .active ∧ r.id ∈ n.streams := by
  constructor
  · intro held
    exact ⟨h.staffed.active_of_holdsStream idle held, h.holds held⟩
  · rintro ⟨active, opened⟩
    by_contra without
    have left := h.staffed.opensLeft_of_active active (by simpa using without)
    have counted := List.count_pos_iff.mpr opened
    have account := h.opened
    omega

/-- The turns of a task that is still there after the end of its replica bring it to its own end. -/
theorem AccountsAll.closed_after_turns (h : AccountsAll n) (orderly : Orderly n)
    (mem : r ∈ n.replicas)
    (ended : r.lifecycle = .terminated) {ts : List (Branch × Option WatchReply)}
    (enough : r.work ≤ ts.length) :
    r.id ∉ (n.follow r.id (Course.turns ts)).openStreams := by
  have gone := Course.task_run_turns (x := { replica := r }) (h.accounts r mem).staffed ended ts
    enough
  rw [Replica.replica_run] at gone
  rw [follow_eq_perform orderly.unique, openStreams,
    replicas_perform orderly.unique r.id (Replica.keepsIdentity_follow _).id]
  intro among
  obtain ⟨x, listed, same⟩ := List.mem_map.mp among
  obtain ⟨there, held⟩ := List.mem_filter.mp listed
  obtain ⟨s, mem', rfl⟩ := List.mem_map.mp there
  by_cases self : s.id = r.id
  · have eq : s = r := orderly.eq_of_id mem' mem self
    subst eq
    rw [if_pos rfl] at held
    simp [Replica.holdsStream, gone] at held
  · rw [if_neg self] at same
    exact self same

/-- Whatever happens, and in whatever order: an origin is asked for a replica that has been
admitted, with its descriptor, and once. Whenever no task has anything left to do, the streams that
are open are one for each active replica whose origin has opened one; none is left to a replica that
has ended. Such a replica loses its stream in as many turns of its task as it has work. -/
theorem origins_watched_once (actions : List Action) :
    let n := run {} actions
    n.watched.Nodup ∧
    (∀ id platform d, .watch id platform d ∈ n.calls →
      .hosted id d ∈ n.notices ∧ ∃ r, n.replica? id = some r ∧ r.descriptor = d) ∧
    n.streams.Nodup ∧ n.openStreams.Nodup ∧
    (n.IsIdle →
      n.openStreams = (n.replicas.filter fun r => r.lifecycle == .active &&
        n.streams.contains r.id).map Replica.id ∧
      ∀ r ∈ n.replicas, r.lifecycle = .terminated → r.id ∉ n.openStreams) ∧
    ∀ r ∈ n.replicas, r.lifecycle = .terminated → ∀ ts, r.work ≤ ts.length →
      r.id ∉ (n.follow r.id (Course.turns ts)).openStreams := by
  intro n
  obtain ⟨orderly, accounted⟩ : Orderly n ∧ AccountsAll n := accountsAll_run actions
  refine ⟨accounted.nodup_watched, ?_, accounted.nodup_streams,
    (List.filter_sublist.map Replica.id).nodup orderly.unique, ?_, ?_⟩
  · intro id platform d call
    obtain ⟨r, mem, rfl, rfl⟩ := accounted.origins id platform d call
    exact ⟨(accounted.accounts r mem).announced, r, replica?_of_mem orderly.unique mem, rfl⟩
  · intro idle
    refine ⟨?_, ?_⟩
    · refine congrArg (List.map Replica.id) (List.filter_congr ?_)
      intro r mem
      rw [Bool.eq_iff_iff, (accounted.accounts r mem).holdsStream_iff (idle r mem)]
      simp
    · intro r mem ended among
      obtain ⟨s, hs, same⟩ := List.mem_map.mp among
      obtain ⟨there, held⟩ := List.mem_filter.mp hs
      have eq : s = r := orderly.eq_of_id there mem same
      subst eq
      have active := (((accounted.accounts s there).holdsStream_iff (idle s there)).mp held).1
      rw [active] at ended
      cases ended
  · intro r mem ended ts enough
    exact accounted.closed_after_turns orderly mem ended enough

/-- When the node is stopped, one of three replicas listens, and two wait for an answer. -/
def stoppedSession : List Action :=
  [.attach 0 0 {},
   .start { subscribe := { outcome := .ok true }
            sweep := { candidates := [{ address := "n", uri := "/a/hosting" },
              { address := "n", uri := "/b/hosting" }, { address := "n", uri := "/c/hosting" }] } },
   .turn ⟨1⟩ .origin (some .opens), .turn ⟨1⟩ .origin none, .turn ⟨2⟩ .origin none,
   .turn ⟨3⟩ .origin none, .push ⟨1⟩ (.attributes []), .stop {}]

/-- The tasks of that session learn of the stop: one takes an event first, one has no answer yet,
and one opens a stream after all before it goes. Of two replicas of the next session one listens,
and one hears of a fault. -/
def nextSession : List Action :=
  [.turn ⟨1⟩ .origin none, .turn ⟨1⟩ .origin none, .turn ⟨2⟩ .stop none, .answer ⟨3⟩ .opens,
   .turn ⟨3⟩ .origin none, .turn ⟨3⟩ .origin none,
   .start { subscribe := { outcome := .ok true }
            sweep := { candidates := [{ address := "n", uri := "/a/hosting" },
              { address := "n", uri := "/b/hosting" }] } },
   .turn ⟨4⟩ .origin (some .opens), .turn ⟨4⟩ .origin none, .turn ⟨5⟩ .origin (some .opens),
   .turn ⟨5⟩ .origin none, .push ⟨5⟩ (.fault "noise"), .turn ⟨5⟩ .origin none]

theorem origins_watched_once_sessions :
    let n := run {} stoppedSession
    let m := run {} (stoppedSession ++ nextSession)
    let turns := Course.turns [(.origin, none), (.origin, none), (.stop, none)]
    n.openStreams = [⟨1⟩] ∧ ¬ n.IsIdle ∧ ⟨1⟩ ∉ (n.follow ⟨1⟩ turns).openStreams ∧
    m.IsIdle ∧ m.watched = [⟨1⟩, ⟨2⟩, ⟨3⟩, ⟨4⟩, ⟨5⟩] ∧ m.streams = [⟨1⟩, ⟨3⟩, ⟨4⟩, ⟨5⟩] ∧
    m.openStreams = [⟨4⟩] ∧ (∀ id : ReplicaId, id ∈ [⟨1⟩, ⟨2⟩, ⟨3⟩, ⟨5⟩] → id ∉ m.openStreams) ∧
    .hosted ⟨2⟩ { address := "n", uri := "/b/hosting" } ∈ m.notices := by
  intro n m turns
  have idle : m.IsIdle := by decide +kernel
  have asked : .watch ⟨2⟩ 0 { address := "n", uri := "/b/hosting" } ∈ m.calls := by decide +kernel
  have stopped : ∃ r ∈ n.replicas, r.id = ⟨1⟩ ∧ r.lifecycle = .terminated ∧ r.work = 3 := by
    decide +kernel
  have ended : ∀ id : ReplicaId, id ∈ [⟨1⟩, ⟨2⟩, ⟨3⟩, ⟨5⟩] →
      ∃ r ∈ m.replicas, r.id = id ∧ r.lifecycle = .terminated := by decide +kernel
  obtain ⟨-, admitted, -, -, settled, -⟩ := origins_watched_once (stoppedSession ++ nextSession)
  obtain ⟨listening, closed⟩ := settled idle
  obtain ⟨-, -, -, -, -, released⟩ := origins_watched_once stoppedSession
  refine ⟨by decide +kernel, by decide +kernel, ?_, idle, by decide +kernel, by decide +kernel, ?_,
    ?_, (admitted _ _ _ asked).1⟩
  · obtain ⟨r, mem, one, ended, work⟩ := stopped
    rw [← one]
    exact released r mem ended _ (Nat.le_of_eq work)
  · rw [listening]
    decide +kernel
  · intro id listed
    obtain ⟨r, mem, rfl, terminated⟩ := ended id listed
    exact closed r mem terminated

end ReplicaHosting.Node

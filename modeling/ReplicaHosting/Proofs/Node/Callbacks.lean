import ReplicaHosting.Proofs.Replica.Stopping
import ReplicaHosting.Proofs.Node.Halt

/-! Whoever is hosted has not been called back: a callback takes the entry with it, and a replica
that was torn down, by its node or behind its back, has none to make. So what a node tears down has
never called and never will. Unlike the alignment of lives with the registry this holds for all
runs, also where replicas are torn down by others. -/
namespace ReplicaHosting

namespace Replica

/-- The replica of an entry: it goes on, with its callback for this entry, or it shows nothing. -/
structure ArmedFor (key : DedupKey) (r : Replica) : Prop where
  callback : r.hasEnded = false → r.callback = some (.release key)
  hidden : r.hasEnded = true → r.snapshot = none

/-- An act that speaks for no one but its replica, does not touch it once it has ended, and gives up
the place that it has when it calls back. -/
structure RespectsCallback (a : Replica → Replica × List Effect) : Prop where
  id : ∀ r, (a r).1.id = r.id
  calls : ∀ r, ∀ c ∈ (a r).2.filterMap Effect.callback?, c.1 = r.id
  changesOnlyTask : ∀ r, r.hasEnded = true → r.snapshot = none → ChangesOnlyTask r (a r)
  armed : ∀ key r, ArmedFor key r →
    ((a r).2.filterMap Effect.callback? = [] ∧ ArmedFor key (a r).1) ∨
      (a r).2.filterMap Effect.callback? = [(r.id, .release key)]

theorem Act.changesOnlyTask {a : Replica → Replica × List Effect} (own : Act a) {r : Replica}
    (ended : r.hasEnded = true) (hidden : r.snapshot = none) : ChangesOnlyTask r (a r) := by
  cases own with
  | turn pick reply => exact changesOnlyTask_turn ended hidden pick reply
  | answer x => exact (advances_answer x r).changesOnlyTask
  | push e => exact (advances_push e r).changesOnlyTask
  | endStream => exact (advances_endStream r).changesOnlyTask
  | dropTask => exact changesOnlyTask_dropTask ended hidden

theorem Act.respectsCallback {a : Replica → Replica × List Effect} (own : Act a) :
    RespectsCallback a := by
  constructor
  · intro r
    exact (own.passes r).id
  · intro r c hc
    exact (own.passes r).calls hc
  · intro r ended hidden
    exact own.changesOnlyTask ended hidden
  · intro key r armed
    rcases own.passes r with keeps | ends
    · refine .inl ⟨keeps.calls, ?_, ?_⟩
      · intro ongoing
        rw [keeps.callback]
        exact armed.callback (keeps.hasEnded ▸ ongoing)
      · intro ended
        have before : r.hasEnded = true := keeps.hasEnded ▸ ended
        have hidden := armed.hidden before
        rw [(own.changesOnlyTask before hidden).rest]
        exact hidden
    · rw [ends.calls, armed.callback ends.ongoing]
      exact .inr rfl

theorem respectsCallback_activate (platform runtime : Nat) :
    RespectsCallback fun r => (r.activate platform runtime).2 := by
  constructor
  · intro r
    exact (r.activate_same platform runtime).1
  · intro r c hc
    rw [calls_activate] at hc
    cases hc
  · intro r ended hidden
    have used : r.isFresh = false := by simp [isFresh, (hasEnded_eq_true_iff r).mp ended]
    rw [activate_of_not_isFresh used]
    exact changesOnlyTask_self r
  · intro key r armed
    refine .inl ⟨r.calls_activate platform runtime, ?_⟩
    cases fresh : r.isFresh with
    | true =>
      have created := (isFresh_eq_true_iff r).mp fresh
      have ongoing : r.hasEnded = false := by rw [hasEnded, created]; rfl
      rw [activate_of_isFresh fresh]
      refine ⟨fun _ => armed.callback ongoing, ?_⟩
      intro ended
      cases ended
    | false =>
      rw [activate_of_not_isFresh fresh]
      exact armed

theorem snapshot_teardown {r : Replica} (hidden : r.hasEnded = true → r.snapshot = none) :
    r.teardown.2.1.snapshot = none := by
  cases ended : r.hasEnded with
  | true =>
    rw [teardown_of_ended ended]
    exact hidden ended
  | false => rw [teardown_of_ongoing ended]

theorem respectsCallback_teardown : RespectsCallback fun r => r.teardown.2 := by
  constructor
  · intro r
    exact r.teardown_same.1
  · intro r c hc
    rw [calls_teardown] at hc
    cases hc
  · intro r ended hidden
    rw [teardown_of_ended ended]
    exact changesOnlyTask_self r
  · intro key r armed
    refine .inl ⟨r.calls_teardown, ?_, ?_⟩
    · intro ongoing
      exact absurd r.lifecycle_teardown ((hasEnded_eq_false_iff _).mp ongoing)
    · intro _
      exact snapshot_teardown armed.hidden

end Replica

namespace Node

structure HostedUncalled (n : Node) : Prop where
  hosted : ∀ e ∈ n.registry.entries, e.2 ∉ n.calledBack ∧
    ∃ r ∈ n.replicas, r.id = e.2 ∧ r.ArmedFor e.1
  called : ∀ id ∈ n.calledBack, id ∈ n.replicas.map Replica.id

theorem HostedUncalled.perform {n : Node} (h : HostedUncalled n) (orderly : Orderly n)
    (live : n.live = true)
    (id : ReplicaId) {a : Replica → Replica × List Effect} (respects : Replica.RespectsCallback a) :
    HostedUncalled (n.perform id a) := by
  cases found : n.replica? id with
  | none =>
    rw [perform_of_absent found]
    exact h
  | some r =>
    obtain ⟨mem, rfl⟩ := mem_of_replica? found
    have applied := appliesEffects_perform found a
    have replicas := replicas_perform orderly.unique r.id respects.id
    have others : ∀ c ∈ ((a r).2.filterMap Effect.callback?).map Prod.fst, c = r.id := by
      intro c hc
      obtain ⟨b, hb, rfl⟩ := List.mem_map.mp hc
      exact respects.calls r b hb
    constructor
    · intro e he
      have before := (n.onlyShrinks_perform r.id a).registry.entries.subset he
      obtain ⟨uncalled, s, mem', same, armed⟩ := h.hosted e before
      by_cases self : s.id = r.id
      · have eq : s = r := orderly.eq_of_id mem' mem self
        subst eq
        rcases respects.armed e.1 s armed with ⟨silent, armed'⟩ | calls
        · refine ⟨?_, (a s).1, ?_, (respects.id s).trans same, armed'⟩
          · rw [applied.calledBack, silent]
            exact (List.append_nil _).symm ▸ uncalled
          · rw [replicas]
            exact List.mem_map.mpr ⟨s, mem, if_pos rfl⟩
        · -- the callback has taken this very entry out, so it cannot be there any more
          exfalso
          have entry : (e.1, s.id) ∈ n.registry.entries := same ▸ before
          have left := orderly.entries_of_released live mem entry calls
          rw [left] at he
          simpa using (List.mem_filter.mp he).2
      · refine ⟨?_, s, ?_, same, armed⟩
        · rw [applied.calledBack]
          intro called
          rcases List.mem_append.mp called with called | called
          · exact uncalled called
          · exact self (same.trans (others e.2 called))
        · rw [replicas]
          exact List.mem_map.mpr ⟨s, mem', if_neg self⟩
    · intro id hid
      rw [applied.calledBack] at hid
      rw [ids_perform]
      rcases List.mem_append.mp hid with hid | hid
      · exact h.called id hid
      · rw [others id hid]
        exact List.mem_map_of_mem mem

theorem HostedUncalled.enlist {n : Node} (h : HostedUncalled n) (orderly : Orderly n)
    (live : n.live = true) {b : Binding} {d : Descriptor} {id : ReplicaId} {registry : Registry}
    (admitted : n.registry.enroll (b.config.dedupKey d) = (.admitted id, registry)) :
    HostedUncalled (n.enlist b d id registry) := by
  have fresh := orderly.fresh live
  obtain ⟨-, -, rfl, rfl⟩ := Registry.enroll_admitted admitted
  constructor
  · intro e he
    rcases List.mem_append.mp he with kept | new
    · obtain ⟨uncalled, r, mem, rest⟩ := h.hosted e kept
      exact ⟨uncalled, r, List.mem_append_left _ mem, rest⟩
    · -- nobody has borne the number of the newcomer before, so nobody has been called for it
      rw [List.mem_singleton.mp new]
      exact ⟨fun early => fresh (h.called _ early), _,
        List.mem_append_right _ (List.mem_singleton.mpr rfl), rfl, fun _ => rfl, nofun⟩
  · intro x hx
    change x ∈ List.map Replica.id (n.replicas ++ [_])
    rw [List.map_append]
    exact List.mem_append_left _ (h.called x hx)

theorem HostedUncalled.shift {n m : Node} (s : Shift n m)
    (h : Orderly n ∧ (n.live = true → HostedUncalled n)) :
    Orderly m ∧ (m.live = true → HostedUncalled m) := by
  refine ⟨h.1.shift s, ?_⟩
  intro live
  rw [s.live] at live
  obtain ⟨orderly, hostedUncalled⟩ : Orderly n ∧ HostedUncalled n := ⟨h.1, h.2 live⟩
  cases s with
  | takeIn b d id registry live tagged bound admitted =>
    exact (hostedUncalled.enlist orderly live admitted).perform (orderly.enlist live admitted b d)
      live id
      (Replica.respectsCallback_activate b.platform b.runtime)
  | act id own => exact hostedUncalled.perform orderly live id own.respectsCallback
  | drain =>
    obtain ⟨registry, calledBack⟩ :=
      calledBack_teardownAll { n with registry := n.registry.clear } n.registry.ids
    constructor
    · intro e he
      rw [Node.drain, registry] at he
      cases he
    · intro x hx
      rw [Node.drain, calledBack] at hx
      rw [Node.drain, ids_teardownAll]
      exact hostedUncalled.called x hx
  | _ => exact ⟨hostedUncalled.hosted, hostedUncalled.called⟩

theorem hostedUncalled_run (actions : List Action) :
    Orderly (run {} actions) ∧
      ((run {} actions).live = true → HostedUncalled (run {} actions)) := by
  apply run_keeps_of_shift HostedUncalled.shift (P := fun n =>
    Orderly n ∧ (n.live = true → HostedUncalled n))
  · intro n id platform runtime h
    refine ⟨h.1.perform id _, ?_⟩
    intro live
    rw [(n.onlyShrinks_perform id _).live] at live
    exact (h.2 live).perform h.1 live id (Replica.respectsCallback_activate platform runtime)
  · intro n id h
    refine ⟨h.1.perform id _, ?_⟩
    intro live
    rw [(n.onlyShrinks_perform id _).live] at live
    exact (h.2 live).perform h.1 live id Replica.respectsCallback_teardown
  · intro n h
    exact ⟨h.1.step .abandon, nofun⟩
  · refine ⟨orderly_initial, fun _ => ⟨?_, ?_⟩⟩
    · intro e he
      cases he
    · intro id hid
      cases hid

/-- A replica that has ended, shows nothing, and has never been called back. -/
def Silent (n : Node) (id : ReplicaId) : Prop :=
  id ∉ n.calledBack ∧ ∃ r ∈ n.replicas, r.id = id ∧ r.lifecycle = .terminated ∧ r.snapshot = none

theorem HostedUncalled.silent {n m : Node} (h : HostedUncalled n) (halted : Halted n m)
    {id : ReplicaId} (hosted : id ∈ n.registry.ids) : Silent m id := by
  obtain ⟨e, he, rfl⟩ := List.mem_map.mp hosted
  obtain ⟨uncalled, r, mem, same, armed⟩ := h.hosted e he
  refine ⟨halted.calledBack ▸ uncalled, r.teardown.2.1, ?_, r.teardown_same.1.trans same,
    r.lifecycle_teardown, Replica.snapshot_teardown armed.hidden⟩
  rw [halted.replicas]
  exact List.mem_map.mpr ⟨r, mem, if_pos (same ▸ hosted)⟩

theorem Silent.perform {n : Node} {i : ReplicaId} (h : Silent n i) (orderly : Orderly n)
    (id : ReplicaId) {a : Replica → Replica × List Effect} (respects : Replica.RespectsCallback a) :
    Silent (n.perform id a) i := by
  obtain ⟨uncalled, s, mem', rfl, terminated, hidden⟩ := h
  cases found : n.replica? id with
  | none =>
    rw [perform_of_absent found]
    exact ⟨uncalled, s, mem', rfl, terminated, hidden⟩
  | some r =>
    obtain ⟨mem, rfl⟩ := mem_of_replica? found
    have calledBack := (appliesEffects_perform found a).calledBack
    have replicas := replicas_perform orderly.unique r.id respects.id
    by_cases self : s.id = r.id
    · have eq : s = r := orderly.eq_of_id mem' mem self
      subst eq
      have changesOnlyTask :=
        respects.changesOnlyTask s ((Replica.hasEnded_eq_true_iff s).mpr terminated) hidden
      refine ⟨?_, (a s).1, ?_, respects.id s, ?_, ?_⟩
      · rw [calledBack, changesOnlyTask.calls]
        exact (List.append_nil _).symm ▸ uncalled
      · rw [replicas]
        exact List.mem_map.mpr ⟨s, mem, if_pos rfl⟩
      · rw [changesOnlyTask.rest]
        exact terminated
      · rw [changesOnlyTask.rest]
        exact hidden
    · refine ⟨?_, s, ?_, rfl, terminated, hidden⟩
      · rw [calledBack]
        intro called
        rcases List.mem_append.mp called with called | called
        · exact uncalled called
        · obtain ⟨c, hc, same⟩ := List.mem_map.mp called
          exact self (same.symm.trans (respects.calls r c hc))
      · rw [replicas]
        exact List.mem_map.mpr ⟨s, mem', if_neg self⟩

theorem Silent.shift {i : ReplicaId} {n m : Node} (s : Shift n m) (h : Orderly n ∧ Silent n i) :
    Orderly m ∧ Silent m i := by
  refine ⟨h.1.shift s, ?_⟩
  obtain ⟨orderly, uncalled, r, mem, rest⟩ := h
  cases s with
  | takeIn b d id registry live tagged bound admitted =>
    have enlisted : Silent (n.enlist b d id registry) i :=
      ⟨uncalled, r, List.mem_append_left _ mem, rest⟩
    exact enlisted.perform (orderly.enlist live admitted b d) id
      (Replica.respectsCallback_activate b.platform b.runtime)
  | act id own => exact Silent.perform ⟨uncalled, r, mem, rest⟩ orderly id own.respectsCallback
  | drain =>
    have silent : Silent { n with registry := n.registry.clear } i := ⟨uncalled, r, mem, rest⟩
    exact orderly.drain_keeps (P := fun n => Silent n i)
      (fun id orderly h => h.perform orderly id Replica.respectsCallback_teardown) silent
  | _ => exact ⟨uncalled, r, mem, rest⟩

theorem Silent.run {n : Node} {i : ReplicaId} (h : Silent n i) (orderly : Orderly n)
    (later : List Action) : Silent (n.run later) i := by
  have all : Orderly (n.run later) ∧ Silent (n.run later) i := by
    apply run_keeps_of_shift (P := fun n => Orderly n ∧ Silent n i) Silent.shift
    · intro n id platform runtime h
      exact ⟨h.1.perform id _,
        h.2.perform h.1 id (Replica.respectsCallback_activate platform runtime)⟩
    · intro n id h
      exact ⟨h.1.perform id _, h.2.perform h.1 id Replica.respectsCallback_teardown⟩
    · intro n h
      exact ⟨h.1.step .abandon, h.2⟩
    · exact ⟨orderly, h⟩
  exact all.2

end Node

end ReplicaHosting

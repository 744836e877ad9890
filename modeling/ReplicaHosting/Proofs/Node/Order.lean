import ReplicaHosting.Proofs.Node.Shift

/-! The books of a node are in order in every state it can come to: as long as somebody holds it,
its replicas bear the numbers from one on in the order of their making, and no key is given to two
of them. -/
namespace ReplicaHosting.Node

structure Orderly (n : Node) : Prop where
  unique : (n.replicas.map Replica.id).Nodup
  numbered : n.live = true →
    n.replicas.map Replica.id = (List.range n.registry.issued).map fun k => ⟨k + 1⟩
  distinct : n.registry.Distinct

theorem nodup_numbers (k : Nat) :
    ((List.range k).map fun i => (⟨i + 1⟩ : ReplicaId)).Nodup := by
  apply List.Nodup.map _ List.nodup_range
  intro i j same
  exact Nat.succ.inj (congrArg ReplicaId.number same)

theorem Orderly.perform {n : Node} (h : Orderly n) (id : ReplicaId)
    (act : Replica → Replica × List Effect) : Orderly (n.perform id act) := by
  have onlyShrinks := onlyShrinks_perform n id act
  refine ⟨?_, ?_, onlyShrinks.registry.distinct h.distinct⟩
  · rw [ids_perform n id act]
    exact h.unique
  · intro live
    rw [ids_perform n id act, onlyShrinks.registry.issued]
    exact h.numbered (onlyShrinks.live ▸ live)

theorem Orderly.eq_of_id {n : Node} (h : Orderly n) {r s : Replica} (mem : r ∈ n.replicas)
    (mem' : s ∈ n.replicas) (same : r.id = s.id) : r = s :=
  List.inj_on_of_nodup_map h.unique mem mem' same

theorem Orderly.entries_of_released {n : Node} (h : Orderly n) (live : n.live = true) {r : Replica}
    (mem : r ∈ n.replicas) {key : DedupKey} (entry : (key, r.id) ∈ n.registry.entries)
    {a : Replica → Replica × List Effect}
    (calls : (a r).2.filterMap Effect.callback? = [(r.id, .release key)]) :
    (n.perform r.id a).registry.entries =
      n.registry.entries.filter fun e => !(e.1 == key) := by
  have applied := appliesEffects_perform (replica?_of_mem h.unique mem) a
  have removed := Registry.remove?_of_mem h.distinct entry
  rw [applied.registry, calls]
  simp only [List.foldl_cons, List.foldl_nil, Registry.releasedBy, put, live, if_true, removed,
    Option.getD_some]

theorem Orderly.fresh {n : Node} (h : Orderly n) (live : n.live = true) :
    ⟨n.registry.issued + 1⟩ ∉ n.replicas.map Replica.id := by
  rw [h.numbered live]
  intro mem
  obtain ⟨k, hk, same⟩ := List.mem_map.mp mem
  have number : k = n.registry.issued := Nat.succ.inj (congrArg ReplicaId.number same)
  exact Nat.lt_irrefl _ (number ▸ List.mem_range.mp hk)

theorem Orderly.enlist {n : Node} (h : Orderly n) (live : n.live = true) {key : DedupKey}
    {id : ReplicaId} {registry : Registry}
    (admitted : n.registry.enroll key = (.admitted id, registry)) (b : Binding) (d : Descriptor) :
    Orderly (n.enlist b d id registry) := by
  have distinct := Registry.distinct_enroll admitted h.distinct
  obtain ⟨-, -, number, rfl⟩ := Registry.enroll_admitted admitted
  have ids : (n.replicas ++ [Replica.make id d (.release (b.config.dedupKey d))]).map Replica.id =
      (List.range (n.registry.issued + 1)).map fun k => ⟨k + 1⟩ := by
    rw [List.map_append, h.numbered live, List.range_succ, List.map_append]
    simp only [List.map_cons, List.map_nil, Replica.make, number]
  refine ⟨?_, fun _ => ids, distinct⟩
  change (List.map Replica.id (n.replicas ++ [_])).Nodup
  rw [ids]
  exact nodup_numbers _

theorem Orderly.replica?_enlist {n : Node} (h : Orderly n) (live : n.live = true) {b : Binding}
    {d : Descriptor} {id : ReplicaId} {registry : Registry}
    (admitted : n.registry.enroll (b.config.dedupKey d) = (.admitted id, registry)) :
    (n.enlist b d id registry).replica? id =
      some (Replica.make id d (.release (b.config.dedupKey d))) :=
  replica?_of_mem (h.enlist live admitted b d).unique
    (List.mem_append_right _ (List.mem_singleton.mpr rfl))

theorem Orderly.replicas_takeIn {n : Node} (h : Orderly n) (live : n.live = true) {b : Binding}
    {d : Descriptor} {id : ReplicaId} {registry : Registry}
    (admitted : n.registry.enroll (b.config.dedupKey d) = (.admitted id, registry)) :
    (n.takeIn b d id registry).replicas = n.replicas ++
      [((Replica.make id d (.release (b.config.dedupKey d))).activate
        b.platform b.runtime).2.1] := by
  have enlisted := h.enlist live admitted b d
  have fresh := h.fresh live
  obtain ⟨-, -, rfl, -⟩ := Registry.enroll_admitted admitted
  have others : ∀ x ∈ n.replicas, (if x.id = ⟨n.registry.issued + 1⟩ then
      (x.activate b.platform b.runtime).2.1 else x) = x := by
    intro x mem
    rw [if_neg]
    intro same
    exact fresh (same ▸ List.mem_map_of_mem mem)
  rw [takeIn, replicas_perform enlisted.unique _ fun r =>
    (Replica.activate_same b.platform b.runtime r).1]
  change List.map _ (n.replicas ++ [_]) = _
  rw [List.map_append, List.map_congr_left others, List.map_id', List.map_singleton]
  exact congrArg (fun r => n.replicas ++ [r]) (if_pos rfl)

theorem Orderly.teardownAll {n : Node} (h : Orderly n) (ids : List ReplicaId) :
    Orderly (n.teardownAll ids) := by
  induction ids generalizing n with
  | nil => exact h
  | cons id ids ih => exact ih (h.perform id fun r => r.teardown.2)

theorem Orderly.clear {n : Node} (h : Orderly n) :
    Orderly { n with registry := n.registry.clear } :=
  ⟨h.unique, h.numbered, List.nodup_nil⟩

theorem Orderly.drain_keeps {P : Node → Prop} {n : Node} (h : Orderly n)
    (kept : ∀ {n : Node} (id : ReplicaId), Orderly n → P n → P (n.teardown id))
    (start : P { n with registry := n.registry.clear }) : P n.drain := by
  have all (ids : List ReplicaId) {m : Node} (orderly : Orderly m) (holds : P m) :
      P (m.teardownAll ids) := by
    induction ids generalizing m with
    | nil => exact holds
    | cons id ids ih => exact ih (orderly.perform id fun r => r.teardown.2) (kept id orderly holds)
  exact all n.registry.ids h.clear start

theorem Orderly.shift {n m : Node} (s : Shift n m) (h : Orderly n) : Orderly m := by
  cases s with
  | takeIn b d id registry live tagged bound admitted =>
    exact (h.enlist live admitted b d).perform id fun r => (r.activate b.platform b.runtime).2
  | act id own => exact h.perform id _
  | drain => exact h.clear.teardownAll n.registry.ids
  | _ => exact ⟨h.unique, h.numbered, h.distinct⟩

theorem orderly_initial : Orderly {} := ⟨List.nodup_nil, fun _ => rfl, List.nodup_nil⟩

theorem Orderly.step {n : Node} (h : Orderly n) (a : Action) : Orderly (n.step a) := by
  apply step_keeps Orderly.shift _ _ _ h a
  · intro n id platform runtime h
    exact h.perform id fun r => (r.activate platform runtime).2
  · intro n id h
    exact h.perform id fun r => r.teardown.2
  · intro n h
    exact ⟨h.unique, nofun, List.nodup_nil⟩

theorem orderly_run (actions : List Action) : Orderly (run {} actions) :=
  run_keeps (fun _ a h => h.step a) orderly_initial actions

end ReplicaHosting.Node

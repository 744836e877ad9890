import ReplicaHosting.Proofs.Node.Order

/-! Whatever has been attached before, the registry is keyed by the policy that is bound now. A
binding is replaced only over an empty registry, and every key is made from the binding of its
moment, so no entry outlives the policy of its key. -/
namespace ReplicaHosting.Node

/-- Every entry has its replica, under the key that the present binding gives to it. -/
def Keyed (n : Node) : Prop :=
  ∀ e ∈ n.registry.entries, ∃ b, n.binding = some b ∧
    ∃ r ∈ n.replicas, r.id = e.2 ∧ e.1 = b.config.dedupKey r.descriptor

theorem Keyed.perform {n : Node} (h : Keyed n) (orderly : Orderly n) (id : ReplicaId)
    {act : Replica → Replica × List Effect}
    (keep : ∀ r, (act r).1.id = r.id ∧ (act r).1.descriptor = r.descriptor) :
    Keyed (n.perform id act) := by
  have onlyShrinks := onlyShrinks_perform n id act
  intro e he
  obtain ⟨b, bound, r, mem, same, key⟩ := h e (onlyShrinks.registry.entries.subset he)
  obtain ⟨s, mem', same', descriptor⟩ := exists_mem_perform orderly.unique id keep mem
  exact ⟨b, onlyShrinks.binding.trans bound, s, mem', same'.trans same,
    by rw [descriptor]; exact key⟩

theorem Keyed.enlist {n : Node} (h : Keyed n) {b : Binding} (bound : n.binding = some b)
    {d : Descriptor} {id : ReplicaId} {registry : Registry}
    (admitted : n.registry.enroll (b.config.dedupKey d) = (.admitted id, registry)) :
    Keyed (n.enlist b d id registry) := by
  obtain ⟨-, -, -, rfl⟩ := Registry.enroll_admitted admitted
  intro e he
  rcases List.mem_append.mp he with old | new
  · obtain ⟨b', bound', r, mem, same, key⟩ := h e old
    exact ⟨b', bound', r, List.mem_append_left _ mem, same, key⟩
  · rw [List.mem_singleton.mp new]
    exact ⟨b, bound, _, List.mem_append_right _ (List.mem_singleton.mpr rfl), rfl, rfl⟩

theorem keyed_of_empty {n : Node} (empty : n.registry.entries = []) : Keyed n := by
  intro e he
  rw [empty] at he
  cases he

theorem Keyed.shift {n m : Node} (s : Shift n m) (h : Orderly n ∧ Keyed n) :
    Orderly m ∧ Keyed m := by
  refine ⟨h.1.shift s, ?_⟩
  obtain ⟨orderly, keyed⟩ := h
  cases s with
  | bind b unheld empty => exact keyed_of_empty empty
  | takeIn b d id registry live tagged bound admitted =>
    exact (keyed.enlist bound admitted).perform (orderly.enlist live admitted b d) id
      (Replica.activate_same b.platform b.runtime)
  | act id own =>
    exact keyed.perform orderly id fun r => ⟨(own.passes r).id, (own.passes r).descriptor⟩
  | drain =>
    apply keyed_of_empty
    rw [drain, (calledBack_teardownAll _ _).1]
    rfl
  | _ => exact keyed

theorem Keyed.step {n : Node} (h : Orderly n ∧ Keyed n) (a : Action) :
    Orderly (n.step a) ∧ Keyed (n.step a) := by
  apply step_keeps (P := fun n => Orderly n ∧ Keyed n) Keyed.shift _ _ _ h a
  · intro n id platform runtime h
    exact ⟨h.1.perform id _, h.2.perform h.1 id (Replica.activate_same platform runtime)⟩
  · intro n id h
    exact ⟨h.1.perform id _, h.2.perform h.1 id Replica.teardown_same⟩
  · intro n h
    exact ⟨h.1.step .abandon, keyed_of_empty rfl⟩

theorem keyed_run (actions : List Action) :
    Orderly (run {} actions) ∧ Keyed (run {} actions) := by
  apply run_keeps (P := fun n => Orderly n ∧ Keyed n)
  · intro n a h
    exact Keyed.step h a
  · exact ⟨orderly_initial, keyed_of_empty rfl⟩

theorem map_filterMap_lookup {κ ι ρ : Type} {find : ι → Option ρ} {key : ρ → κ}
    {entries : List (κ × ι)} (h : ∀ e ∈ entries, ∃ r, find e.2 = some r ∧ e.1 = key r) :
    ((entries.map Prod.snd).filterMap find).map key = entries.map Prod.fst := by
  induction entries with
  | nil => rfl
  | cons e entries ih =>
    obtain ⟨r, found, same⟩ := h e List.mem_cons_self
    have rest := ih fun x hx => h x (List.mem_cons_of_mem e hx)
    simp only [List.map_cons, List.filterMap_cons, found, rest, same]

theorem Keyed.lookup {n : Node} (h : Keyed n) (orderly : Orderly n) {b : Binding}
    (bound : n.binding = some b) : ∀ e ∈ n.registry.entries, ∃ r, n.replica? e.2 = some r ∧
      e.1 = b.config.dedupKey r.descriptor := by
  intro e he
  obtain ⟨b', bound', r, mem, same, key⟩ := h e he
  rw [bound] at bound'
  cases bound'
  exact ⟨r, same ▸ replica?_of_mem orderly.unique mem, key⟩

/-- In every state, the keys of the registry are those that the bound configuration computes for
the replicas hosted, one for each of them; so no two of these are one resource to the policy. -/
theorem hosted_keys_current (actions : List Action) :
    let n := run {} actions
    (∀ e ∈ n.registry.entries, ∃ b r, n.binding = some b ∧ n.replica? e.2 = some r ∧
      e.1 = b.config.dedupKey r.descriptor) ∧
    (∀ b, n.binding = some b →
      n.hosted.map (fun r => b.config.dedupKey r.descriptor) = n.registry.entries.map Prod.fst) ∧
    (∀ b, n.binding = some b → b.config.dedupPolicy = .addressAndUri →
      (n.hosted.map fun r => (r.descriptor.address, r.descriptor.uri)).Nodup) ∧
    (∀ b, n.binding = some b → b.config.dedupPolicy = .addressUriAndInstance →
      (n.hosted.map fun r =>
        (r.descriptor.address, r.descriptor.uri, r.descriptor.instanceId)).Nodup) := by
  intro n
  obtain ⟨orderly, keyed⟩ : Orderly n ∧ Keyed n := keyed_run actions
  have keys : ∀ b, n.binding = some b →
      n.hosted.map (fun r => b.config.dedupKey r.descriptor) = n.registry.entries.map Prod.fst :=
    fun b bound => map_filterMap_lookup (keyed.lookup orderly bound)
  refine ⟨?_, keys, ?_, ?_⟩
  · intro e he
    obtain ⟨b, bound, -⟩ := keyed e he
    obtain ⟨r, found, key⟩ := keyed.lookup orderly bound e he
    exact ⟨b, r, bound, found, key⟩
  · intro b bound policy
    have distinct : (n.hosted.map fun r => b.config.dedupKey r.descriptor).Nodup :=
      keys b bound ▸ orderly.distinct
    apply List.Nodup.of_map fun x : String × String => (⟨x.1, x.2, none⟩ : DedupKey)
    rw [List.map_map]
    simpa [Config.dedupKey, DedupKey.ofDescriptor, policy, DedupPolicy.includesInstance,
      Function.comp_def] using distinct
  · intro b bound policy
    have distinct : (n.hosted.map fun r => b.config.dedupKey r.descriptor).Nodup :=
      keys b bound ▸ orderly.distinct
    apply List.Nodup.of_map fun x : String × String × Option String =>
      (⟨x.1, x.2.1, x.2.2⟩ : DedupKey)
    rw [List.map_map]
    simpa [Config.dedupKey, DedupKey.ofDescriptor, policy, DedupPolicy.includesInstance,
      Function.comp_def] using distinct

end ReplicaHosting.Node

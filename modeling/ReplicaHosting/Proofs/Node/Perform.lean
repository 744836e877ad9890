import ReplicaHosting.Node
import ReplicaHosting.Proofs.Registry.Entries
import ReplicaHosting.Proofs.Replica.Passage

/-! What an act of one replica does to its node: the replica is replaced where it stands, and its
callbacks, if the node is held, take entries out of the registry. All else that a node decides by
stays as it is. -/
namespace ReplicaHosting

namespace Registry

/-- What one callback takes out of a registry. One that only reports takes out nothing, and so does
any callback of a node that nobody holds. -/
def releasedBy (live : Bool) (r : Registry) (b : ReplicaId × Callback) : Registry :=
  match b.2 with
  | .report => r
  | .release key => if live then (r.remove? key b.1).getD r else r

theorem shrinks_releasedBy (live : Bool) (r : Registry) (b : ReplicaId × Callback) :
    Shrinks r (r.releasedBy live b) := by
  obtain ⟨id, c⟩ := b
  cases c with
  | report => exact shrinks_self r
  | release key =>
    cases live with
    | false => exact shrinks_self r
    | true => exact shrinks_remove? r key id

theorem shrinks_foldl_releasedBy (live : Bool) (r : Registry)
    (calls : List (ReplicaId × Callback)) : Shrinks r (calls.foldl (releasedBy live) r) := by
  induction calls generalizing r with
  | nil => exact shrinks_self r
  | cons b calls ih => exact (shrinks_releasedBy live r b).trans (ih _)

end Registry

namespace Node

structure AppliesEffects (n : Node) (es : List Effect) (m : Node) : Prop where
  live : m.live = n.live
  binding : m.binding = n.binding
  held : m.held = n.held
  replicas : m.replicas = n.replicas
  shut : m.shut = n.shut
  registry : m.registry =
    (es.filterMap Effect.callback?).foldl (Registry.releasedBy n.live) n.registry
  calledBack : m.calledBack = n.calledBack ++ (es.filterMap Effect.callback?).map Prod.fst

theorem appliesEffects_nil (n : Node) : AppliesEffects n [] n :=
  ⟨rfl, rfl, rfl, rfl, rfl, rfl, (List.append_nil _).symm⟩

theorem release_eq (key : DedupKey) (id : ReplicaId) (n : Node) :
    ∃ x, n.release key id =
      { n with registry := (n.registry.remove? key id).getD n.registry }.say x := by
  unfold release
  cases n.registry.remove? key id with
  | none => exact ⟨_, rfl⟩
  | some registry => exact ⟨_, rfl⟩

theorem appliesEffects_apply (id : ReplicaId) (d : Descriptor) (n : Node) (e : Effect) :
    AppliesEffects n [e] (n.apply id d e) := by
  have silent {m : Node} (calls : [e].filterMap Effect.callback? = []) (live : m.live = n.live)
      (binding : m.binding = n.binding) (held : m.held = n.held)
      (replicas : m.replicas = n.replicas) (shut : m.shut = n.shut)
      (registry : m.registry = n.registry) (calledBack : m.calledBack = n.calledBack) :
      AppliesEffects n [e] m := by
    refine ⟨live, binding, held, replicas, shut, ?_, ?_⟩
    · rw [calls, registry, List.foldl_nil]
    · rw [calls, calledBack, List.map_nil, List.append_nil]
  cases e with
  | notice x => exact silent rfl rfl rfl rfl rfl rfl rfl rfl
  | watch platform => exact silent rfl rfl rfl rfl rfl rfl rfl rfl
  | opened => exact silent rfl rfl rfl rfl rfl rfl rfl rfl
  | calledBack ended c =>
    cases c with
    | report => exact ⟨rfl, rfl, rfl, rfl, rfl, rfl, rfl⟩
    | release key =>
      have unfolded : n.apply id d (.calledBack ended (.release key)) =
          if n.live = true then
            ({ n with calledBack := n.calledBack ++ [ended] } : Node).release key ended
          else { n with calledBack := n.calledBack ++ [ended] } := rfl
      rw [unfolded]
      by_cases live : n.live = true
      · obtain ⟨x, released⟩ := release_eq key ended
          { n with calledBack := n.calledBack ++ [ended] }
        rw [if_pos live, released]
        refine ⟨rfl, rfl, rfl, rfl, rfl, ?_, rfl⟩
        change (n.registry.remove? key ended).getD n.registry = if n.live = true then _ else _
        rw [if_pos live]
      · rw [if_neg live]
        refine ⟨rfl, rfl, rfl, rfl, rfl, ?_, rfl⟩
        change n.registry = if n.live = true then _ else _
        rw [if_neg live]

theorem AppliesEffects.trans {n m k : Node} {es fs : List Effect} (first : AppliesEffects n es m)
    (second : AppliesEffects m fs k) : AppliesEffects n (es ++ fs) k := by
  refine ⟨second.live.trans first.live, second.binding.trans first.binding,
    second.held.trans first.held, second.replicas.trans first.replicas,
    second.shut.trans first.shut, ?_, ?_⟩
  · rw [second.registry, first.registry, first.live, List.filterMap_append, List.foldl_append]
  · rw [second.calledBack, first.calledBack, List.filterMap_append, List.map_append,
      List.append_assoc]

theorem appliesEffects_foldl_apply (id : ReplicaId) (d : Descriptor) (n : Node) (es : List Effect) :
    AppliesEffects n es (es.foldl (apply id d) n) := by
  induction es generalizing n with
  | nil => exact appliesEffects_nil n
  | cons e es ih => exact (appliesEffects_apply id d n e).trans (ih _)

theorem perform_of_absent {n : Node} {id : ReplicaId} (absent : n.replica? id = none)
    (act : Replica → Replica × List Effect) : n.perform id act = n := by
  simp only [perform, absent]

theorem appliesEffects_perform {n : Node} {id : ReplicaId} {r : Replica}
    (found : n.replica? id = some r) (act : Replica → Replica × List Effect) :
    AppliesEffects (n.put (act r).1) (act r).2 (n.perform id act) := by
  simp only [perform, found]
  exact appliesEffects_foldl_apply id r.descriptor _ _

/-- What an act of a replica leaves alone, and that the registry only loses entries by it. -/
structure OnlyShrinks (n m : Node) : Prop where
  live : m.live = n.live
  binding : m.binding = n.binding
  held : m.held = n.held
  shut : m.shut = n.shut
  registry : n.registry.Shrinks m.registry

theorem onlyShrinks_perform (n : Node) (id : ReplicaId) (act : Replica → Replica × List Effect) :
    OnlyShrinks n (n.perform id act) := by
  cases found : n.replica? id with
  | none =>
    rw [perform_of_absent found]
    exact ⟨rfl, rfl, rfl, rfl, Registry.shrinks_self _⟩
  | some r =>
    have h := appliesEffects_perform found act
    refine ⟨h.live, h.binding, h.held, h.shut, ?_⟩
    rw [h.registry]
    exact Registry.shrinks_foldl_releasedBy _ _ _

theorem OnlyShrinks.trans {n m k : Node} (first : OnlyShrinks n m) (second : OnlyShrinks m k) :
    OnlyShrinks n k :=
  ⟨second.live.trans first.live, second.binding.trans first.binding,
    second.held.trans first.held, second.shut.trans first.shut,
    first.registry.trans second.registry⟩

theorem ids_perform (n : Node) (id : ReplicaId) (act : Replica → Replica × List Effect) :
    (n.perform id act).replicas.map Replica.id = n.replicas.map Replica.id := by
  cases found : n.replica? id with
  | none => rw [perform_of_absent found]
  | some r =>
    rw [(appliesEffects_perform found act).replicas]
    simp only [put, List.map_map]
    apply List.map_congr_left
    intro x _
    rw [Function.comp_apply]
    split
    · rename_i same
      exact same.symm
    · rfl

theorem ids_teardownAll (n : Node) (ids : List ReplicaId) :
    (n.teardownAll ids).replicas.map Replica.id = n.replicas.map Replica.id := by
  induction ids generalizing n with
  | nil => rfl
  | cons id ids ih => exact (ih (n.teardown id)).trans (n.ids_perform id fun r => r.teardown.2)

theorem mem_of_replica? {n : Node} {id : ReplicaId} {r : Replica} (found : n.replica? id = some r) :
    r ∈ n.replicas ∧ r.id = id :=
  ⟨List.mem_of_find?_eq_some found, by simpa using List.find?_some found⟩

theorem replica?_of_mem {n : Node} (unique : (n.replicas.map Replica.id).Nodup) {r : Replica}
    (mem : r ∈ n.replicas) : n.replica? r.id = some r :=
  find?_eq_some_of_mem unique mem

theorem replicas_perform {n : Node} (unique : (n.replicas.map Replica.id).Nodup) (id : ReplicaId)
    {act : Replica → Replica × List Effect} (keep : ∀ r, (act r).1.id = r.id) :
    (n.perform id act).replicas =
      n.replicas.map fun x => if x.id = id then (act x).1 else x := by
  cases found : n.replica? id with
  | none =>
    rw [perform_of_absent found]
    have others : ∀ x ∈ n.replicas, (if x.id = id then (act x).1 else x) = x := by
      intro x hx
      have other := List.find?_eq_none.mp found x hx
      rw [if_neg (fun same => other (beq_iff_eq.mpr same))]
    rw [List.map_congr_left others, List.map_id']
  | some r =>
    obtain ⟨mem, rfl⟩ := mem_of_replica? found
    rw [(appliesEffects_perform found act).replicas]
    apply List.map_congr_left
    intro x hx
    rw [keep r]
    by_cases same : x.id = r.id
    · rw [if_pos same, if_pos same, List.inj_on_of_nodup_map unique hx mem same]
    · rw [if_neg same, if_neg same]

theorem calledBack_perform (n : Node) (id : ReplicaId) {act : Replica → Replica × List Effect}
    (silent : ∀ r, (act r).2.filterMap Effect.callback? = []) :
    (n.perform id act).registry = n.registry ∧
      (n.perform id act).calledBack = n.calledBack := by
  cases found : n.replica? id with
  | none => rw [perform_of_absent found]; exact ⟨rfl, rfl⟩
  | some r =>
    have h := appliesEffects_perform found act
    refine ⟨?_, ?_⟩
    · rw [h.registry, silent r]
      rfl
    · rw [h.calledBack, silent r]
      exact List.append_nil _

theorem replicas_teardownAll {n : Node} (unique : (n.replicas.map Replica.id).Nodup)
    (ids : List ReplicaId) :
    (n.teardownAll ids).replicas =
      n.replicas.map fun x => if x.id ∈ ids then x.teardown.2.1 else x := by
  induction ids generalizing n with
  | nil => simp [teardownAll]
  | cons id ids ih =>
    have unique' : ((n.teardown id).replicas.map Replica.id).Nodup := by
      rw [teardown, ids_perform]
      exact unique
    have first := replicas_perform unique id fun r => (Replica.teardown_same r).1
    change ((n.teardown id).teardownAll ids).replicas = _
    rw [ih unique', teardown, first, List.map_map]
    apply List.map_congr_left
    intro x _
    by_cases same : x.id = id
    · simp [same, Replica.teardown_same, Replica.teardown_teardown]
    · simp [same]

theorem teardownAll_shape (n : Node) (ids : List ReplicaId) :
    ∃ rs xs, n.teardownAll ids = { n with replicas := rs, notices := n.notices ++ xs } := by
  induction ids generalizing n with
  | nil => exact ⟨n.replicas, [], by rw [List.append_nil]; rfl⟩
  | cons id ids ih =>
    obtain ⟨rs, xs, first⟩ : ∃ rs xs,
        n.teardown id = { n with replicas := rs, notices := n.notices ++ xs } := by
      unfold teardown perform
      split
      · exact ⟨n.replicas, [], by rw [List.append_nil]⟩
      · rename_i r _
        dsimp only
        cases ended : r.hasEnded with
        | true =>
          rw [Replica.teardown_of_ended ended]
          exact ⟨_, [], by rw [List.append_nil]; rfl⟩
        | false =>
          rw [Replica.teardown_of_ongoing ended]
          exact ⟨_, _, rfl⟩
    obtain ⟨ss, ys, rest⟩ := ih (n.teardown id)
    refine ⟨ss, xs ++ ys, ?_⟩
    change (n.teardown id).teardownAll ids = _
    rw [rest, first, List.append_assoc]

theorem onlyShrinks_teardownAll (n : Node) (ids : List ReplicaId) :
    OnlyShrinks n (n.teardownAll ids) := by
  obtain ⟨rs, xs, shape⟩ := n.teardownAll_shape ids
  rw [shape]
  exact ⟨rfl, rfl, rfl, rfl, Registry.shrinks_self _⟩

theorem calledBack_teardownAll (n : Node) (ids : List ReplicaId) :
    (n.teardownAll ids).registry = n.registry ∧
      (n.teardownAll ids).calledBack = n.calledBack := by
  obtain ⟨rs, xs, shape⟩ := n.teardownAll_shape ids
  rw [shape]
  exact ⟨rfl, rfl⟩

theorem exists_mem_perform {n : Node} (unique : (n.replicas.map Replica.id).Nodup)
    (id : ReplicaId) {act : Replica → Replica × List Effect}
    (keep : ∀ r, (act r).1.id = r.id ∧ (act r).1.descriptor = r.descriptor) {r : Replica}
    (mem : r ∈ n.replicas) :
    ∃ s ∈ (n.perform id act).replicas, s.id = r.id ∧ s.descriptor = r.descriptor := by
  rw [replicas_perform unique id fun r => (keep r).1]
  refine ⟨_, List.mem_map_of_mem mem, ?_⟩
  split
  · exact keep r
  · exact ⟨rfl, rfl⟩

end Node

end ReplicaHosting

import ReplicaHosting.Proofs.Node.Dedup
import ReplicaHosting.Proofs.Node.Outcome

/-! Which candidates a node takes in. It decides by the keys in its registry; what they come to is
said here by the descriptors of those who are hosted, which is the same because the keys are those
of the present binding. Where the runtime that is bound has been shut down this is left open: there
a newcomer leaves again at once. -/
namespace ReplicaHosting

theorem isHostable_iff (uri : String) :
    isHostable uri = true ↔ ∃ path, uri = path ++ hostingTag := by
  rw [isHostable, List.isSuffixOf_iff_suffix]
  constructor
  · rintro ⟨cs, same⟩
    refine ⟨String.ofList cs, String.toList_inj.mp ?_⟩
    rw [String.toList_append, String.toList_ofList, same]
  · rintro ⟨path, rfl⟩
    rw [String.toList_append]
    exact List.suffix_append _ _

theorem Config.dedupKey_eq_iff (c : Config) (d e : Descriptor) :
    c.dedupKey d = c.dedupKey e ↔ d.sameResource e = true ∧
      (c.dedupPolicy = .addressUriAndInstance → d.instanceId = e.instanceId) := by
  cases policy : c.dedupPolicy <;>
    simp [dedupKey, DedupKey.ofDescriptor, policy, DedupPolicy.includesInstance,
      Descriptor.sameResource, and_assoc]

theorem Registry.enroll_of_free {r : Registry} {key : DedupKey} (opened : r.stopping = false)
    (free : r.find? key = none) :
    r.enroll key = (.admitted ⟨r.issued + 1⟩,
      { r with entries := r.entries ++ [(key, ⟨r.issued + 1⟩)], issued := r.issued + 1 }) := by
  simp [enroll, opened, free]

namespace Node

/-- What a node asks of a candidate: its tag, and that nobody hosted stands in for the same resource
already, as the policy that is bound counts resources. -/
structure Welcomes (n : Node) (d : Descriptor) : Prop where
  tagged : ∃ path, d.uri = path ++ hostingTag
  opened : n.registry.stopping = false
  wanted : ∃ b, n.binding = some b ∧ ∀ r ∈ n.hosted, ¬ (r.descriptor.sameResource d = true ∧
    (b.config.dedupPolicy = .addressUriAndInstance → r.descriptor.instanceId = d.instanceId))

/-- One newcomer is hosted, which runs and is bound to this descriptor; nobody else has moved. -/
structure TakesIn (n : Node) (d : Descriptor) (r : Replica) (m : Node) : Prop where
  descriptor : r.descriptor = d
  active : r.lifecycle = .active
  number : r.id = ⟨n.registry.issued + 1⟩
  issued : m.registry.issued = n.registry.issued + 1
  replicas : m.replicas = n.replicas ++ [r]
  hosted : m.hosted = n.hosted ++ [r]
  entries : ∃ key, m.registry.entries = n.registry.entries ++ [(key, r.id)]

variable {n m : Node} {b : Binding} {d : Descriptor}

theorem Keyed.free_iff (h : Keyed n) (orderly : Orderly n) (bound : n.binding = some b)
    (d : Descriptor) :
    n.registry.find? (b.config.dedupKey d) = none ↔
      ∀ r ∈ n.hosted, ¬ (r.descriptor.sameResource d = true ∧
        (b.config.dedupPolicy = .addressUriAndInstance →
          r.descriptor.instanceId = d.instanceId)) := by
  have keys : n.hosted.map (fun r => b.config.dedupKey r.descriptor) =
      n.registry.entries.map Prod.fst := map_filterMap_lookup (h.lookup orderly bound)
  simp only [Registry.find?_eq_none_iff, ← keys, ← Config.dedupKey_eq_iff, List.mem_map, not_exists,
    not_and]

theorem onCandidate_of_welcome (live : n.live = true) (tagged : d.isHostable = true)
    (bound : n.binding = some b) (opened : n.registry.stopping = false)
    (free : n.registry.find? (b.config.dedupKey d) = none) :
    ∃ id registry, n.registry.enroll (b.config.dedupKey d) = (.admitted id, registry) ∧
      n.onCandidate d = (n.enlist b d id registry).activate id b.platform b.runtime := by
  have admitted := Registry.enroll_of_free opened free
  refine ⟨_, _, admitted, ?_⟩
  unfold onCandidate
  rw [if_neg (by simp [live]), if_neg (by simp [tagged])]
  split
  · rename_i unbound
    cases bound.symm.trans unbound
  · rename_i b' bound'
    cases bound.symm.trans bound'
    dsimp only
    rw [admitted]
    rfl

theorem Orderly.hosted_takeIn (orderly : Orderly n) (keyed : Keyed n) (live : n.live = true)
    {id : ReplicaId} {registry : Registry}
    (admitted : n.registry.enroll (b.config.dedupKey d) = (.admitted id, registry)) {r : Replica}
    (replicas : m.replicas = n.replicas ++ [r]) (bears : r.id = id)
    (entries : m.registry.entries = n.registry.entries ++ [(b.config.dedupKey d, id)]) :
    m.hosted = n.hosted ++ [r] := by
  have fresh := orderly.fresh live
  have ids : m.registry.ids = n.registry.ids ++ [id] := by
    simp [Registry.ids, entries]
  have number := (Registry.enroll_admitted admitted).2.2.1
  have new : m.replica? id = some r := by
    have absent : n.replicas.find? (fun x => x.id == id) = none := by
      rw [List.find?_eq_none]
      intro x mem same
      exact fresh (number ▸ (beq_iff_eq.mp same) ▸ List.mem_map_of_mem mem)
    simp [Node.replica?, replicas, List.find?_append, absent, bears]
  have old : n.registry.ids.filterMap (fun i => m.replica? i) = n.hosted := by
    apply List.filterMap_congr
    intro i mem
    obtain ⟨e, he, rfl⟩ := List.mem_map.mp mem
    obtain ⟨-, -, s, there, same, -⟩ := keyed e he
    have found := replica?_of_mem orderly.unique there
    rw [same, Node.replica?] at found
    simp only [Node.replica?, replicas, List.find?_append, found, Option.some_or]
  rw [Node.hosted, ids, List.filterMap_append, old]
  simp [new]

theorem onCandidate_takesIn (orderly : Orderly n) (keyed : Keyed n) (live : n.live = true)
    (up : RuntimeUp n) (welcome : Welcomes n d) : ∃ r, TakesIn n d r (n.onCandidate d) := by
  obtain ⟨tagged, opened, b, bound, wanted⟩ := welcome
  have free := (keyed.free_iff orderly bound d).mpr wanted
  obtain ⟨id, registry, admitted, taken⟩ :=
    onCandidate_of_welcome live ((isHostable_iff _).mpr tagged) bound opened free
  have stays : n.onCandidate d = n.takeIn b d id registry := by
    have onlyShrinks := (n.enlist b d id registry).onlyShrinks_perform id
      fun r => (r.activate b.platform b.runtime).2
    rw [taken, activate]
    apply if_neg
    rintro ⟨-, off⟩
    rw [onlyShrinks.shut] at off
    exact up b bound off
  rw [stays]
  have replicas := orderly.replicas_takeIn live admitted
  have entries := n.entries_takeIn admitted
  have issued : (n.takeIn b d id registry).registry.issued = n.registry.issued + 1 := by
    rw [takeIn, (onlyShrinks_perform _ _ _).registry.issued]
    exact congrArg Registry.issued (Registry.enroll_admitted admitted).2.2.2
  rw [Replica.activate_of_isFresh rfl] at replicas
  exact ⟨_, rfl, rfl, (Registry.enroll_admitted admitted).2.2.1, issued, replicas,
    orderly.hosted_takeIn keyed live admitted replicas rfl entries, _, entries⟩

theorem onCandidate_addsNotices (orderly : Orderly n) (keyed : Keyed n)
    (unwelcome : ¬ Welcomes n d) : AddsNotices n (n.onCandidate d) := by
  rcases onCandidate_cases d n with
    same | ⟨x, said⟩ | ⟨b, id, registry, -, tagged, bound, admitted, -⟩
  · rw [same]
    exact addsNotices_self n
  · rw [said]
    exact addsNotices_say n x
  · obtain ⟨opened, free, -, -⟩ := Registry.enroll_admitted admitted
    exact absurd ⟨(isHostable_iff _).mp tagged, opened, b, bound,
      (keyed.free_iff orderly bound d).mp free⟩ unwelcome

theorem TakesIn.grown {r : Replica} (h : TakesIn n d r m) : m.replicas ≠ n.replicas := by
  rw [h.replicas]
  simp

theorem live_or_unbound (actions : List Action) :
    (run {} actions).live = true ∨ (run {} actions).binding = none := by
  apply run_keeps (P := fun n => n.live = true ∨ n.binding = none)
  · intro n a h
    cases held : n.live with
    | true =>
      cases regular : a.isRegular with
      | true => exact .inl ((n.shifts_step regular).live.trans held)
      | false =>
        cases a with
        | activate id platform runtime =>
          exact .inl ((n.replicasActed_activate id platform runtime).live.trans held)
        | teardown id =>
            exact .inl ((n.replicasActed_perform id fun r => r.teardown.2).live.trans held)
        | abandon => exact .inr rfl
        | _ => cases regular
    | false =>
      have unbound : n.binding = none := h.resolve_left (by simp [held])
      right
      cases a with
      | attach platform runtime config => simp [step, held, unbound]
      | start reply => simp [step, held, unbound]
      | stop reply => simp [step, held, unbound]
      | handleSays active => exact unbound
      | shutRuntime runtime => exact (n.replicasActed_shutRuntime runtime).binding.trans unbound
      | abandon => rfl
      | _ => exact (n.sameSession_of_minor rfl).binding.trans unbound
  · exact .inl rfl

theorem welcomes_of_unbound (unbound : n.binding = none) : ¬ Welcomes n d := by
  rintro ⟨-, -, b, bound, -⟩
  cases unbound.symm.trans bound

/-- In every state, and in the midst of a step as well, whichever callback a candidate comes
through: it is hosted exactly if it is tagged, a platform is bound, the node is open, and nobody
hosted stands in for the same resource. Otherwise nothing changes but the notices. In no case is
anybody who is hosted touched, or the handle, or the binding. -/
theorem candidate_decided (actions : List Action) :
    let n := run {} actions
    ∀ m, (m = n ∨ n.live = true ∧ Shifts n m) → RuntimeUp m →
      ∀ callback < m.discoveryCallbacks, ∀ d, let k := m.step (.candidate callback d)
        (Welcomes m d ↔ ∃ r, TakesIn m d r k) ∧
        (¬ Welcomes m d → k.registry = m.registry ∧ k.replicas = m.replicas) ∧
        SameSession m k ∧ (∀ r ∈ m.replicas, r ∈ k.replicas) ∧ m.hosted <+: k.hosted := by
  intro n m reached up callback given d k
  obtain ⟨orderly, keyed, held⟩ : Orderly m ∧ Keyed m ∧ (m.live = true ∨ m.binding = none) := by
    have start : Orderly n ∧ Keyed n := keyed_run actions
    rcases reached with rfl | ⟨live, shifts⟩
    · exact ⟨start.1, start.2, live_or_unbound actions⟩
    · have arrived := shifts.keeps Keyed.shift start
      exact ⟨arrived.1, arrived.2, .inl (shifts.live.trans live)⟩
  have delivered : k = m.onCandidate d := if_pos given
  have ignored (unwelcome : ¬ Welcomes m d) :
      k.registry = m.registry ∧ k.replicas = m.replicas := by
    obtain ⟨xs, noted⟩ := onCandidate_addsNotices orderly keyed unwelcome
    rw [delivered, noted]
    exact ⟨rfl, rfl⟩
  have taken (welcome : Welcomes m d) : ∃ r, TakesIn m d r k := by
    rcases held with live | unbound
    · exact delivered ▸ onCandidate_takesIn orderly keyed live up welcome
    · exact absurd welcome (welcomes_of_unbound unbound)
  refine ⟨⟨taken, ?_⟩, ignored, delivered ▸ (reactions_onCandidate d m).sameSession, ?_⟩
  · rintro ⟨r, takesIn⟩
    by_contra unwelcome
    exact takesIn.grown (ignored unwelcome).2
  · by_cases welcome : Welcomes m d
    · obtain ⟨r, takesIn⟩ := taken welcome
      refine ⟨?_, ?_⟩
      · intro s mem
        rw [takesIn.replicas]
        exact List.mem_append_left _ mem
      · rw [takesIn.hosted]
        exact List.prefix_append _ _
    · obtain ⟨registry, replicas⟩ := ignored welcome
      refine ⟨?_, ?_⟩
      · intro s mem
        rw [replicas]
        exact mem
      · simp only [Node.hosted, Node.replica?, registry, replicas, List.prefix_refl]

/-- A node that tells instances apart hosts a resource without one. -/
def singleInstance : List Action :=
  [.attach 0 0 { dedupPolicy := .addressUriAndInstance },
   .start { subscribe := { outcome := .ok true }
            sweep := { candidates := [{ address := "n", uri := "/a/hosting" }] } }]

/-- The first instance is another resource, the resource without an instance is not. -/
theorem candidate_decided_instances :
    let n := run {} singleInstance
    let first : Descriptor := { address := "n", uri := "/a/hosting", instanceId := some "1" }
    let again : Descriptor := { address := "n", uri := "/a/hosting", observable := true }
    (∃ r, TakesIn n first r (n.step (.candidate 0 first))) ∧
      (n.step (.candidate 0 again)).registry = n.registry := by
  intro n first again
  have bound : n.binding = some ⟨0, 0, { dedupPolicy := .addressUriAndInstance },
    Config.discoveryQuery {}⟩ := by decide +kernel
  have hosted : n.hosted.map Replica.descriptor = [{ address := "n", uri := "/a/hosting" }] := by
    decide +kernel
  have up : RuntimeUp n := by
    intro b bound'
    cases bound.symm.trans bound'
    decide +kernel
  have given : 0 < n.discoveryCallbacks := by decide +kernel
  have decided := candidate_decided singleInstance n (.inl rfl) up 0 given
  refine ⟨(decided first).1.mp ⟨⟨"/a", rfl⟩, by decide +kernel, _, bound, ?_⟩,
    ((decided again).2.1 ?_).1⟩
  · rintro r mem ⟨-, same⟩
    have descriptor : r.descriptor ∈ n.hosted.map Replica.descriptor := List.mem_map_of_mem mem
    rw [hosted, List.mem_singleton] at descriptor
    have equal := same rfl
    rw [descriptor] at equal
    cases equal
  · rintro ⟨-, -, b, bound', wanted⟩
    cases bound.symm.trans bound'
    obtain ⟨r, mem, descriptor⟩ : ∃ r ∈ n.hosted,
        r.descriptor = { address := "n", uri := "/a/hosting" } := by
      have mem : ({ address := "n", uri := "/a/hosting" } : Descriptor) ∈
          n.hosted.map Replica.descriptor := hosted ▸ List.mem_singleton.mpr rfl
      exact List.mem_map.mp mem
    apply wanted r mem
    rw [descriptor]
    exact ⟨by decide, fun _ => rfl⟩

end Node

end ReplicaHosting

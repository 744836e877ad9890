import ReplicaHosting.Proofs.Node.SameSession

/-! What the record of a node has of an act of a replica: what its origin was asked and which
streams it opened, each under its own id. Nothing is ever taken out of the record. -/
namespace ReplicaHosting.Node

structure Logs (id : ReplicaId) (d : Descriptor) (n : Node) (es : List Effect)
    (m : Node) : Prop where
  calls : m.calls = n.calls ++ (es.filterMap Effect.watch?).map fun platform => .watch id platform d
  streams : m.streams = n.streams ++ List.replicate (es.count .opened) id
  requests : m.requests = n.requests
  notices : n.notices <+: m.notices

variable {id : ReplicaId} {d : Descriptor} {n m k : Node} {es fs : List Effect}

theorem logs_nil (id : ReplicaId) (d : Descriptor) (n : Node) : Logs id d n [] n := by
  constructor <;> simp

theorem Logs.trans (first : Logs id d n es m) (second : Logs id d m fs k) :
    Logs id d n (es ++ fs) k := by
  refine ⟨?_, ?_, second.requests.trans first.requests, first.notices.trans second.notices⟩
  · simp [second.calls, first.calls]
  · rw [second.streams, first.streams, List.append_assoc, List.replicate_append_replicate,
      List.count_append]

theorem logs_apply (id : ReplicaId) (d : Descriptor) (n : Node) (e : Effect) :
    Logs id d n [e] (n.apply id d e) := by
  have unlogged {m : Node} (unasked : e.watch? = none) (unopened : (e == .opened) = false)
      (calls : m.calls = n.calls) (streams : m.streams = n.streams)
      (requests : m.requests = n.requests) (notices : n.notices <+: m.notices) :
      Logs id d n [e] m := by
    refine ⟨?_, ?_, requests, notices⟩
    · simp [unasked, calls]
    · simp [List.count_cons, unopened, streams]
  cases e with
  | notice x => exact unlogged rfl rfl rfl rfl rfl (List.prefix_append _ _)
  | watch platform => exact ⟨rfl, (List.append_nil _).symm, rfl, List.prefix_refl _⟩
  | opened => exact ⟨(List.append_nil _).symm, rfl, rfl, List.prefix_refl _⟩
  | calledBack ended c =>
    cases c with
    | report => exact unlogged rfl rfl rfl rfl rfl (List.prefix_refl _)
    | release key =>
      simp only [apply]
      split
      · obtain ⟨x, released⟩ := release_eq key ended
          { n with calledBack := n.calledBack ++ [ended] }
        rw [released]
        exact unlogged rfl rfl rfl rfl rfl (List.prefix_append _ _)
      · exact unlogged rfl rfl rfl rfl rfl (List.prefix_refl _)

theorem logs_foldl_apply (id : ReplicaId) (d : Descriptor) (n : Node) (es : List Effect) :
    Logs id d n es (es.foldl (apply id d) n) := by
  induction es generalizing n with
  | nil => exact logs_nil id d n
  | cons e es ih => exact (logs_apply id d n e).trans (ih _)

theorem logs_perform {r : Replica} (found : n.replica? id = some r)
    (act : Replica → Replica × List Effect) :
    Logs id r.descriptor n (act r).2 (n.perform id act) := by
  have h := logs_foldl_apply id r.descriptor (n.put (act r).1) (act r).2
  simp only [perform, found]
  exact ⟨h.calls, h.streams, h.requests, h.notices⟩

theorem Logs.watched (h : Logs id d n es m) :
    m.watched = n.watched ++ List.replicate (es.filterMap Effect.watch?).length id := by
  have own : (fun platform => (Call.watch id platform d).watched?) = fun _ => some id := rfl
  rw [Node.watched, h.calls, List.filterMap_append, List.filterMap_map, Function.comp_def, own]
  simp [Node.watched, List.map_const']

end ReplicaHosting.Node

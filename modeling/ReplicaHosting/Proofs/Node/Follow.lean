import ReplicaHosting.Proofs.Node.Record

/-! Moves of one replica in a row come to one act of it, with all their effects. So what an act does
to its node is all there is to say of a poll, however many turns it takes. -/
namespace ReplicaHosting

namespace Replica

def andThen (a b : Replica → Replica × List Effect) (r : Replica) : Replica × List Effect :=
  ((b (a r).1).1, (a r).2 ++ (b (a r).1).2)

def follow : List Move → Replica → Replica × List Effect
  | [] => fun r => (r, [])
  | x :: moves => andThen (fun r => r.move x) (follow moves)

/-- An act of a replica that stays who it is, and calls back for itself. -/
structure KeepsIdentity (a : Replica → Replica × List Effect) : Prop where
  id : ∀ r, (a r).1.id = r.id
  descriptor : ∀ r, (a r).1.descriptor = r.descriptor
  calls : ∀ r, ∀ c ∈ (a r).2.filterMap Effect.callback?, c.1 = r.id

theorem keepsIdentity_of_passes {a : Replica → Replica × List Effect}
    (passes : ∀ r, Passes r (a r)) : KeepsIdentity a :=
  ⟨fun r => (passes r).id, fun r => (passes r).descriptor, fun r _ mem => (passes r).calls mem⟩

theorem keepsIdentity_move (x : Move) : KeepsIdentity fun r => r.move x := by
  cases x with
  | activate platform runtime =>
    refine ⟨fun r => (r.activate_same platform runtime).1,
      fun r => (r.activate_same platform runtime).2, ?_⟩
    intro r c mem
    change c ∈ (r.activate platform runtime).2.2.filterMap Effect.callback? at mem
    rw [calls_activate] at mem
    cases mem
  | teardown =>
    refine ⟨fun r => r.teardown_same.1, fun r => r.teardown_same.2, ?_⟩
    intro r c mem
    change c ∈ r.teardown.2.2.filterMap Effect.callback? at mem
    rw [calls_teardown] at mem
    cases mem
  | turn pick reply => exact keepsIdentity_of_passes (passes_turn pick reply)
  | answer a => exact keepsIdentity_of_passes fun r => .inl (advances_answer a r).keeps
  | push e => exact keepsIdentity_of_passes fun r => .inl (advances_push e r).keeps
  | endStream => exact keepsIdentity_of_passes fun r => .inl (advances_endStream r).keeps
  | drop => exact keepsIdentity_of_passes passes_loseTask

theorem keepsIdentity_andThen {a b : Replica → Replica × List Effect} (first : KeepsIdentity a)
    (second : KeepsIdentity b) : KeepsIdentity (andThen a b) := by
  refine ⟨fun r => (second.id _).trans (first.id r),
    fun r => (second.descriptor _).trans (first.descriptor r), ?_⟩
  intro r c mem
  rw [andThen, List.filterMap_append] at mem
  rcases List.mem_append.mp mem with early | late
  · exact first.calls r c early
  · exact (second.calls _ c late).trans (first.id r)

theorem keepsIdentity_follow (moves : List Move) : KeepsIdentity (Replica.follow moves) := by
  induction moves with
  | nil => exact ⟨fun _ => rfl, fun _ => rfl, fun _ _ mem => absurd mem List.not_mem_nil⟩
  | cons x moves ih => exact keepsIdentity_andThen (keepsIdentity_move x) ih

theorem replica_run (x : Course) (moves : List Move) :
    (x.run moves).replica = (follow moves x.replica).1 := by
  induction moves generalizing x with
  | nil => rfl
  | cons m moves ih => exact ih (x.step m)

end Replica

namespace Node

variable {n : Node} {id : ReplicaId} {a b : Replica → Replica × List Effect}

theorem put_put {r s : Replica} (same : s.id = r.id) (n : Node) : (n.put r).put s = n.put s := by
  simp only [put, List.map_map]
  congr 1
  apply List.map_congr_left
  intro x _
  by_cases self : x.id = r.id <;> simp [same, self]

theorem put_apply (s : Replica) (id : ReplicaId) (d : Descriptor) (n : Node) (e : Effect) :
    (n.apply id d e).put s = (n.put s).apply id d e := by
  cases e with
  | calledBack ended c =>
    cases c with
    | report => rfl
    | release key =>
      cases live : n.live with
      | false => simp [apply, put, live]
      | true => cases removed : n.registry.remove? key ended <;>
          simp [apply, release, put, say, live, removed]
  | _ => rfl

theorem put_foldl_apply (s : Replica) (id : ReplicaId) (d : Descriptor) (n : Node)
    (es : List Effect) : (es.foldl (apply id d) n).put s = es.foldl (apply id d) (n.put s) := by
  induction es generalizing n with
  | nil => rfl
  | cons e es ih =>
    rw [List.foldl_cons, ih, put_apply]
    rfl

theorem perform_of_found {r : Replica} (found : n.replica? id = some r)
    (a : Replica → Replica × List Effect) :
    n.perform id a = (a r).2.foldl (apply id r.descriptor) (n.put (a r).1) := by
  simp only [perform, found]

theorem replica?_perform (unique : (n.replicas.map Replica.id).Nodup) (id : ReplicaId)
    (keep : ∀ r, (a r).1.id = r.id) (j : ReplicaId) :
    (n.perform id a).replica? j =
      (n.replica? j).map fun x => if j = id then (a x).1 else x := by
  have found : ((fun x => x.id == j) ∘ fun x => if x.id = id then (a x).1 else x) =
      fun x : Replica => x.id == j := by
    funext x
    by_cases self : x.id = id <;> simp [self, keep]
  rw [replica?, replicas_perform unique id keep, List.find?_map, found]
  cases here : n.replicas.find? fun x => x.id == j with
  | none => simp [replica?, here]
  | some x =>
    have same : x.id = j := by simpa using List.find?_some here
    simp [replica?, here, same]

theorem perform_self (unique : (n.replicas.map Replica.id).Nodup) (id : ReplicaId) :
    (n.perform id fun r => (r, [])) = n := by
  have replicas : (n.perform id fun r => (r, [])).replicas = n.replicas := by
    rw [replicas_perform unique id fun _ => rfl]
    simp
  cases found : n.replica? id with
  | none => exact perform_of_absent found _
  | some r =>
    rw [perform_of_found found] at replicas ⊢
    exact congrArg (fun rs => { n with replicas := rs }) replicas

theorem perform_perform (unique : (n.replicas.map Replica.id).Nodup) (id : ReplicaId)
    (first : Replica.KeepsIdentity a) (second : Replica.KeepsIdentity b) :
    (n.perform id a).perform id b = n.perform id (Replica.andThen a b) := by
  have after := replica?_perform unique id first.id id
  cases found : n.replica? id with
  | none =>
    rw [perform_of_absent found, perform_of_absent found, perform_of_absent found]
  | some r =>
    rw [found] at after
    simp only [Option.map_some, if_true] at after
    rw [perform_of_found after, perform_of_found found, perform_of_found found, put_foldl_apply,
      put_put (second.id (a r).1), first.descriptor r, Replica.andThen, List.foldl_append]

theorem follow_eq_perform (unique : (n.replicas.map Replica.id).Nodup) (id : ReplicaId)
    (moves : List Move) : n.follow id moves = n.perform id (Replica.follow moves) := by
  induction moves generalizing n with
  | nil => exact (perform_self unique id).symm
  | cons x moves ih =>
    have unique' : ((n.perform id fun r => r.move x).replicas.map Replica.id).Nodup := by
      rw [ids_perform]
      exact unique
    change (n.perform id fun r => r.move x).follow id moves = _
    rw [ih unique', perform_perform unique id (Replica.keepsIdentity_move x)
      (Replica.keepsIdentity_follow moves)]
    rfl

end Node

end ReplicaHosting

import ReplicaHosting.Proofs.Node.Order
import ReplicaHosting.Proofs.Node.SameSession

/-! Shutting a node down: it is closed first, then its handle is let go, then what it hosts is torn
down. Once it is closed nothing comes in any more, so what is torn down is what was hosted at the
beginning, and the order in which that is done leaves no trace but in the notices. -/
namespace ReplicaHosting.Node

/-- The node after some handles have been let go, without the events that come in meanwhile. -/
def dismiss (hs : List Handle) (n : Node) : Node :=
  { n with letGo := n.letGo ++ hs
           calls := n.calls ++ (hs.filter Handle.active).map fun h => .unsubscribe h.number }

theorem told_dismiss (hs : List Handle) (n : Node) :
    (n.dismiss hs).told = n.told ++ (hs.filter Handle.active).map Handle.number := by
  simp [told, dismiss, List.filterMap_append, List.filterMap_map, Function.comp_def,
    Call.unsubscribed?]

theorem asked_dismiss (hs : List Handle) (n : Node) : (n.dismiss hs).asked = n.asked := by
  simp [asked, dismiss, List.filterMap_append, List.filterMap_map, Function.comp_def,
    Call.request?]

theorem letGoOf_eq (h : Handle) (reply : UnsubscribeReply) (n : Node) :
    ∃ xs, AddsNotices ((n.dismiss [h]).onBeacons xs) (n.letGoOf h reply) := by
  unfold letGoOf
  dsimp only
  cases active : h.active with
  | false =>
    refine ⟨[], [], ?_⟩
    simp [onBeacons, dismiss, active]
  | true =>
    have told : { n with letGo := n.letGo ++ [h] }.call (.unsubscribe h.number) =
        n.dismiss [h] := by simp [call, dismiss, active]
    refine ⟨reply.beacons, ?_⟩
    rw [told]
    simp only [Bool.not_true, Bool.false_eq_true, if_false]
    split
    · exact addsNotices_self _
    · exact addsNotices_say _ _

theorem reactions_letGoOf (h : Handle) (reply : UnsubscribeReply) (n : Node) :
    Reactions (n.dismiss [h]) (n.letGoOf h reply) := by
  obtain ⟨xs, addsNotices⟩ := letGoOf_eq h reply n
  exact (reactions_onBeacons xs _).trans addsNotices.reactions

def withdrawn (n : Node) : Node :=
  { n with registry := n.registry.close, held := none }.dismiss n.held.toList

theorem addsNotices_closeDown (reply : UnsubscribeReply) (n : Node) :
    AddsNotices n.withdrawn (n.closeDown reply) := by
  unfold closeDown withdraw withdrawn
  cases held : n.held with
  | none =>
    refine ⟨[], ?_⟩
    simp [dismiss]
  | some h =>
    obtain ⟨xs, addsNotices⟩ :=
      letGoOf_eq h reply { n with registry := n.registry.close, held := none }
    exact (addsNotices_onBeacons rfl xs).trans addsNotices

def drainInOrder (order : List ReplicaId) (n : Node) : Node :=
  { n with registry := n.registry.clear }.teardownAll order

def stopInOrder (order : List ReplicaId) (reply : UnsubscribeReply) (n : Node) : Node :=
  let closed := n.closeDown reply
  (closed.drainInOrder order).say (.stopped closed.registry.size)

structure Halted (n m : Node) : Prop where
  live : m.live = n.live
  binding : m.binding = n.binding
  shut : m.shut = n.shut
  registry : m.registry = n.registry.close.clear
  held : m.held = none
  replicas : m.replicas =
    n.replicas.map fun r => if r.id ∈ n.registry.ids then r.teardown.2.1 else r
  calledBack : m.calledBack = n.calledBack
  subscriptions : m.subscriptions = n.subscriptions
  letGo : m.letGo = n.letGo ++ n.held.toList
  told : m.told = n.told ++ (n.held.toList.filter Handle.active).map Handle.number
  asked : m.asked = n.asked

theorem Halted.say {n m : Node} (h : Halted n m) (x : Notice) : Halted n (m.say x) :=
  ⟨h.live, h.binding, h.shut, h.registry, h.held, h.replicas, h.calledBack, h.subscriptions,
    h.letGo, h.told, h.asked⟩

theorem Halted.ids {n m : Node} (h : Halted n m) :
    m.replicas.map Replica.id = n.replicas.map Replica.id := by
  rw [h.replicas, List.map_map]
  apply List.map_congr_left
  intro r _
  rw [Function.comp_apply]
  split
  · exact r.teardown_same.1
  · rfl

theorem Halted.orderly {n m : Node} (h : Halted n m) (orderly : Orderly n) : Orderly m := by
  constructor
  · rw [h.ids]
    exact orderly.unique
  · intro live
    rw [h.ids, h.registry]
    exact orderly.numbered (h.live ▸ live)
  · rw [h.registry]
    exact List.nodup_nil

theorem teardownAll_eq {n : Node} (unique : (n.replicas.map Replica.id).Nodup)
    (ids : List ReplicaId) :
    ∃ xs, n.teardownAll ids =
      { n with replicas := n.replicas.map fun r => if r.id ∈ ids then r.teardown.2.1 else r
               notices := n.notices ++ xs } := by
  obtain ⟨rs, xs, shape⟩ := n.teardownAll_shape ids
  refine ⟨xs, ?_⟩
  rw [← replicas_teardownAll unique ids, shape]

theorem halted_drainInOrder {n : Node} (unique : (n.replicas.map Replica.id).Nodup)
    (reply : UnsubscribeReply) {order : List ReplicaId} (all : order.Perm n.registry.ids) :
    Halted n ((n.closeDown reply).drainInOrder order) := by
  obtain ⟨xs, closed⟩ := addsNotices_closeDown reply n
  rw [closed]
  let emptied : Node :=
    { n.withdrawn with notices := n.withdrawn.notices ++ xs
                       registry := n.withdrawn.registry.clear }
  obtain ⟨ys, drained⟩ := teardownAll_eq (n := emptied) unique order
  change Halted n (emptied.teardownAll order)
  rw [drained]
  simp only [all.mem_iff]
  exact ⟨rfl, rfl, rfl, rfl, rfl, rfl, rfl, rfl, rfl, told_dismiss _ _, asked_dismiss _ _⟩

theorem ids_closeDown (reply : UnsubscribeReply) (n : Node) :
    (n.closeDown reply).registry.ids = n.registry.ids := by
  obtain ⟨xs, closed⟩ := addsNotices_closeDown reply n
  rw [closed]
  rfl

theorem stop_eq (reply : UnsubscribeReply) (n : Node) :
    n.stop reply = n.stopInOrder n.registry.ids reply := by
  rw [← ids_closeDown reply n]
  rfl

theorem halted_stopInOrder {n : Node} (unique : (n.replicas.map Replica.id).Nodup)
    (reply : UnsubscribeReply) {order : List ReplicaId} (all : order.Perm n.registry.ids) :
    Halted n (n.stopInOrder order reply) :=
  (halted_drainInOrder unique reply all).say _

theorem halted_drain {n : Node} (unique : (n.replicas.map Replica.id).Nodup)
    (reply : UnsubscribeReply) : Halted n (n.closeDown reply).drain :=
  halted_drainInOrder unique reply (by rw [ids_closeDown])

/-- The order counts for nothing, as long as nobody is left out. -/
theorem stopInOrder_eq {n : Node} (unique : (n.replicas.map Replica.id).Nodup)
    (reply : UnsubscribeReply) {order : List ReplicaId} (all : order.Perm n.registry.ids) :
    ∃ xs, n.stopInOrder order reply = { n.stop reply with notices := xs } := by
  have unique' : ((n.closeDown reply).replicas.map Replica.id).Nodup := by
    obtain ⟨xs, closed⟩ := addsNotices_closeDown reply n
    rw [closed]
    exact unique
  let emptied : Node :=
    { n.closeDown reply with registry := (n.closeDown reply).registry.clear }
  obtain ⟨xs, ordered⟩ := teardownAll_eq (n := emptied) unique' order
  obtain ⟨ys, listed⟩ := teardownAll_eq (n := emptied) unique' (n.closeDown reply).registry.ids
  have same {id : ReplicaId} : id ∈ order ↔ id ∈ (n.closeDown reply).registry.ids := by
    rw [ids_closeDown]
    exact all.mem_iff
  unfold stopInOrder drainInOrder stop drain
  dsimp only
  change ∃ zs, (emptied.teardownAll order).say _ =
    { (emptied.teardownAll (n.closeDown reply).registry.ids).say _ with notices := zs }
  rw [ordered, listed]
  simp only [same]
  exact ⟨_, rfl⟩

end ReplicaHosting.Node

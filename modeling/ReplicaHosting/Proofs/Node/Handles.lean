import ReplicaHosting.Proofs.Node.Start

/-! No subscription handle is lost and none is let go twice. The handles that have been let go and
the one that is held, in this order, are all that have ever been obtained; every start and stop
moves handles along this line, and whatever happens in between leaves it as it is.

What a handle says of itself counts at the moment it is let go, when it is told to unsubscribe or
not; nobody asks it before. So it is enough that a handle says anything to begin with, and changes
its mind between two steps. -/
namespace ReplicaHosting.Node

def obtained (n : Node) : Action → List Handle
  | .start reply =>
    match n.binding, reply.subscribe.outcome with
    | some b, .ok active => [n.nextHandle b active]
    | _, _ => []
  | _ => []

def obtainedBy (n : Node) : List Action → List Handle
  | [] => []
  | a :: later => n.obtained a ++ (n.step a).obtainedBy later

def released (n : Node) : Action → List Handle
  | .start reply =>
    match n.binding, reply.subscribe.outcome with
    | some b, .ok active =>
      n.held.toList ++ if reply.sweep.refusal.isSome then [n.nextHandle b active] else []
    | _, _ => []
  | .stop _ => n.held.toList
  | _ => []

/-- The line of handles has grown at one end and moved on at the other. -/
structure MovesHandles (n : Node) (new gone : List Handle) (m : Node) : Prop where
  subscriptions : m.subscriptions = n.subscriptions + new.length
  letGo : m.letGo = n.letGo ++ gone
  told : m.told = n.told ++ (gone.filter Handle.active).map Handle.number
  numbers : (gone ++ m.held.toList).map Handle.number = (n.held.toList ++ new).map Handle.number

theorem MovesHandles.trans {n m k : Node} {new gone new' gone' : List Handle}
    (first : MovesHandles n new gone m)
    (second : MovesHandles m new' gone' k) : MovesHandles n (new ++ new') (gone ++ gone') k := by
  constructor
  · rw [second.subscriptions, first.subscriptions, List.length_append, Nat.add_assoc]
  · rw [second.letGo, first.letGo, List.append_assoc]
  · rw [second.told, first.told, List.filter_append, List.map_append, List.append_assoc]
  · calc (gone ++ gone' ++ k.held.toList).map Handle.number
        = gone.map Handle.number ++ (gone' ++ k.held.toList).map Handle.number := by
          rw [List.append_assoc, List.map_append]
      _ = (gone ++ m.held.toList).map Handle.number ++ new'.map Handle.number := by
          rw [second.numbers, List.map_append, List.map_append, List.append_assoc]
      _ = (n.held.toList ++ (new ++ new')).map Handle.number := by
          rw [first.numbers, ← List.map_append, List.append_assoc]

theorem movesHandles_of_same {n m : Node} (subscriptions : m.subscriptions = n.subscriptions)
    (letGo : m.letGo = n.letGo) (told : m.told = n.told)
    (held : m.held.toList.map Handle.number = n.held.toList.map Handle.number) :
    MovesHandles n [] [] m :=
  ⟨subscriptions, letGo.trans (List.append_nil _).symm, told.trans (List.append_nil _).symm,
    by rw [List.nil_append, List.append_nil]; exact held⟩

theorem SameSession.movesHandles {n m : Node} (h : SameSession n m) : MovesHandles n [] [] m :=
  movesHandles_of_same h.subscriptions h.letGo h.told (by rw [h.held])

theorem Halted.movesHandles {n m : Node} (h : Halted n m) : MovesHandles n [] n.held.toList m :=
  ⟨h.subscriptions, h.letGo, h.told, by rw [h.held]; rfl⟩

theorem movesHandles_renewed (b : Binding) (reply : SubscribeReply) (active : Bool) (n : Node) :
    MovesHandles n [n.nextHandle b active] n.held.toList
      ((n.subscribing b reply).renewed b active) := by
  have pending := (sameSession_subscribing b reply n).movesHandles
  have renewed : MovesHandles (n.subscribing b reply) [(n.subscribing b reply).nextHandle b active]
      (n.subscribing b reply).held.toList ((n.subscribing b reply).renewed b active) :=
    ⟨rfl, rfl, told_dismiss _ _, rfl⟩
  have both := pending.trans renewed
  rw [nextHandle_subscribing, (sameSession_subscribing b reply n).held] at both
  exact both

theorem movesHandles_start {n : Node} (orderly : Orderly n) (reply : StartReply) :
    MovesHandles n (n.obtained (.start reply)) (n.released (.start reply)) (n.start reply).2 := by
  have h := start_case orderly reply
  generalize n.start reply = x at h
  cases h with
  | unbound free =>
    simp only [obtained, released, free]
    exact (sameSession_self n).movesHandles
  | refused b e bound failed =>
    have pending := sameSession_subscribing b reply.subscribe n
    simp only [obtained, released, bound, failed]
    exact (pending.trans (Reaction.say _ (.subscriptionFailed e)).sameSession).movesHandles
  | through b active m bound subscribed swept accepted =>
    have both :=
      (movesHandles_renewed b reply.subscribe active n).trans swept.sameSession.movesHandles
    simp only [List.append_nil] at both
    simp only [obtained, released, bound, subscribed, accepted, Option.isSome_none,
      Bool.false_eq_true, if_false, List.append_nil]
    exact both
  | rolledBack b active m k e bound subscribed swept failed halted =>
    have both :=
      (movesHandles_renewed b reply.subscribe active n).trans swept.sameSession.movesHandles
    have all := both.trans halted.movesHandles
    rw [held_swept swept] at all
    simp only [List.append_nil] at all
    simp only [obtained, released, bound, subscribed, failed, Option.isSome_some, if_true]
    exact all

theorem movesHandles_step {n : Node} (orderly : Orderly n) {a : Action}
    (live : (n.step a).live = true) : MovesHandles n (n.obtained a) (n.released a) (n.step a) := by
  have before := live_of_step live
  cases a with
  | attach platform runtime config =>
    rcases n.step_attach platform runtime config with same | ⟨-, -, b, x, bound⟩
    · rw [same]
      exact (sameSession_self n).movesHandles
    · rw [bound]
      exact movesHandles_of_same rfl rfl rfl rfl
  | start reply =>
    simp only [step, before, if_true]
    exact movesHandles_start orderly reply
  | stop reply =>
    simp only [step, before, if_true]
    rw [stop_eq]
    exact (halted_stopInOrder orderly.unique reply (List.Perm.refl _)).movesHandles
  | handleSays active =>
    have same : (n.held.map fun h => { h with active }).toList.map Handle.number =
        n.held.toList.map Handle.number := by cases n.held <;> rfl
    exact movesHandles_of_same rfl rfl rfl same
  | shutRuntime runtime =>
    have acted := n.replicasActed_shutRuntime runtime
    exact movesHandles_of_same acted.subscriptions acted.letGo acted.told (by rw [step, acted.held])
  | abandon => cases live
  | _ => exact (n.sameSession_of_minor rfl).movesHandles

theorem number_obtained (n : Node) (a : Action) :
    (n.obtained a).map Handle.number =
      (List.range (n.obtained a).length).map (n.subscriptions + ·) := by
  unfold obtained
  split
  · split
    · simp [nextHandle]
    · rfl
  · rfl

structure Conserved (n : Node) : Prop where
  numbers : (n.letGo ++ n.held.toList).map Handle.number = List.range n.subscriptions
  told : n.told = (n.letGo.filter Handle.active).map Handle.number

theorem Conserved.movesHandles {n m : Node} (h : Conserved n) {new gone : List Handle}
    (movesHandles : MovesHandles n new gone m)
    (next : new.map Handle.number = (List.range new.length).map (n.subscriptions + ·)) :
    Conserved m := by
  constructor
  · calc (m.letGo ++ m.held.toList).map Handle.number
        = n.letGo.map Handle.number ++ (gone ++ m.held.toList).map Handle.number := by
          rw [movesHandles.letGo, List.append_assoc, List.map_append]
      _ = (n.letGo ++ n.held.toList).map Handle.number ++ new.map Handle.number := by
          rw [movesHandles.numbers, List.map_append, List.map_append, List.append_assoc]
      _ = List.range m.subscriptions := by
          rw [h.numbers, next, ← List.range_add, movesHandles.subscriptions]
  · rw [movesHandles.told, movesHandles.letGo, h.told, List.filter_append, List.map_append]

theorem conserved_run (actions : List Action) (live : (run {} actions).live = true) :
    Conserved (run {} actions) := by
  have all : Orderly (run {} actions) ∧
      ((run {} actions).live = true → Conserved (run {} actions)) := by
    apply run_keeps (P := fun n => Orderly n ∧ (n.live = true → Conserved n))
    · intro n a h
      refine ⟨h.1.step a, ?_⟩
      intro live
      exact (h.2 (live_of_step live)).movesHandles (movesHandles_step h.1 live)
        (n.number_obtained a)
    · exact ⟨orderly_initial, fun _ => ⟨rfl, rfl⟩⟩
  exact all.2 live

theorem Conserved.nodup {n : Node} (h : Conserved n) :
    (n.letGo.map Handle.number ++ n.held.toList.map Handle.number).Nodup := by
  rw [← List.map_append, h.numbers]
  exact List.nodup_range

theorem Conserved.newest {n : Node} (h : Conserved n) {x : Handle} (held : n.held = some x) :
    x.number + 1 = n.subscriptions := by
  have numbers := h.numbers
  have count := congrArg List.length numbers
  rw [held] at numbers count
  simp only [Option.toList_some, List.map_append, List.map_cons, List.map_nil, List.length_append,
    List.length_map, List.length_cons, List.length_nil, List.length_range] at numbers count
  rw [← count, List.range_succ] at numbers
  have last := List.append_inj_right' numbers rfl
  have number : x.number = n.letGo.length := List.singleton_inj.mp last
  omega

theorem Conserved.held_untold {n : Node} (h : Conserved n) {x : Handle} (held : n.held = some x) :
    x.number ∉ n.told := by
  have nodup := h.nodup
  rw [held] at nodup
  intro mem
  rw [h.told] at mem
  obtain ⟨y, hy, same⟩ := List.mem_map.mp mem
  have gone : x.number ∈ n.letGo.map Handle.number :=
    same ▸ List.mem_map_of_mem (List.mem_of_mem_filter hy)
  exact List.disjoint_of_nodup_append nodup gone (List.mem_singleton.mpr rfl)

theorem Conserved.count_told {n : Node} (h : Conserved n) {x : Handle} (gone : x ∈ n.letGo) :
    n.told.count x.number = x.active.toNat := by
  have nodup : (n.letGo.map Handle.number).Nodup := (List.nodup_append.mp h.nodup).1
  rw [h.told]
  cases active : x.active with
  | true =>
    apply List.count_eq_one_of_mem
    · exact (List.filter_sublist.map Handle.number).nodup nodup
    · exact List.mem_map_of_mem (List.mem_filter.mpr ⟨gone, active⟩)
  | false =>
    apply List.count_eq_zero.mpr
    intro mem
    obtain ⟨y, hy, same⟩ := List.mem_map.mp mem
    obtain ⟨hy, active'⟩ := List.mem_filter.mp hy
    rw [List.inj_on_of_nodup_map nodup hy gone same, active] at active'
    cases active'

/-- As long as somebody holds the node, every handle ever obtained has been let go once or is held
now, which only the newest one can be. A handle that was let go has been told to unsubscribe once
if it said that it was subscribed and never if it did not, and no other handle has been told so.
Step by step: a start that obtains a handle lets the former one go, and the new one too if it fails
in the end, a stop lets go what is held, and nothing else lets anything go. -/
theorem handles_conserved (actions : List Action) (live : (run {} actions).live = true) :
    let n := run {} actions
    (n.letGo ++ n.held.toList).map Handle.number = List.range n.subscriptions ∧
    (∀ h, n.held = some h → h.number + 1 = n.subscriptions ∧ h.number ∉ n.told) ∧
    (∀ h ∈ n.letGo, n.told.count h.number = h.active.toNat) ∧
    (∀ k ∈ n.told, ∃ h ∈ n.letGo, h.number = k) ∧
    (∀ a, (n.step a).live = true →
      (n.step a).subscriptions = n.subscriptions + (n.obtained a).length ∧
      (n.step a).letGo = n.letGo ++ n.released a ∧
      (n.step a).told = n.told ++ ((n.released a).filter Handle.active).map Handle.number) ∧
    (∀ reply, n.held = none → (n.stop reply).told = n.told) := by
  intro n
  have orderly : Orderly n := orderly_run actions
  have conserved : Conserved n := conserved_run actions live
  refine ⟨conserved.numbers, ?_, fun h gone => conserved.count_told gone, ?_, ?_, ?_⟩
  · intro h held
    exact ⟨conserved.newest held, conserved.held_untold held⟩
  · intro k mem
    rw [conserved.told] at mem
    obtain ⟨h, mem, same⟩ := List.mem_map.mp mem
    exact ⟨h, List.mem_of_mem_filter mem, same⟩
  · intro a live
    have movesHandles := movesHandles_step orderly live
    exact ⟨movesHandles.subscriptions, movesHandles.letGo, movesHandles.told⟩
  · intro reply unheld
    rw [stop_eq, (halted_stopInOrder orderly.unique reply (List.Perm.refl _)).told, unheld]
    exact List.append_nil _

/-- One handle is replaced when it is no longer subscribed, one is replaced by one that is
withdrawn, both told so, and after a stop there is a new one. -/
def handovers : List Action :=
  [.attach 0 0 {}, .start { subscribe := { outcome := .ok true } }, .handleSays false,
   .start { subscribe := { outcome := .ok true } },
   .start { subscribe := { outcome := .ok true }
            replaced := { refusal := some (.invalidArgument "busy") }
            sweep := { refusal := some (.invalidArgument "busy") } },
   .stop {}, .start { subscribe := { outcome := .ok true } }]

theorem handles_conserved_handovers :
    (run {} handovers).live = true ∧ (run {} handovers).told = [1, 2] ∧
    (run {} handovers).held = some ⟨3, 0, true⟩ ∧
    ((run {} handovers).letGo ++ (run {} handovers).held.toList).map Handle.number =
      List.range 4 ∧
    3 ∉ (run {} handovers).told := by
  have live : (run {} handovers).live = true := by decide +kernel
  have held : (run {} handovers).held = some ⟨3, 0, true⟩ := by decide +kernel
  have told : (run {} handovers).told = [1, 2] := by decide +kernel
  have count : (run {} handovers).subscriptions = 4 := by decide +kernel
  obtain ⟨numbers, newest, -⟩ := handles_conserved handovers live
  rw [count] at numbers
  exact ⟨live, told, held, numbers, (newest _ held).2⟩

end ReplicaHosting.Node

import ReplicaHosting.Proofs.Node.Alignment
import ReplicaHosting.Proofs.Node.Stop

/-! What a start comes to. One that gets no handle leaves the node as it was. One that gets a handle
lets the former one go and takes in candidates, without touching what is hosted already; if the
request to all hosts fails in the end, everything goes that way again, newcomers and all.

That a candidate is only ever added holds where the runtime that is bound is up; where it has been
shut down, a newcomer leaves again at once. -/
namespace ReplicaHosting.Node

/-- These have come in under these keys and run; nobody else has been touched. -/
structure Grows (n m : Node) (news : List (DedupKey × Replica)) : Prop where
  replicas : m.replicas = n.replicas ++ news.map Prod.snd
  entries : m.registry.entries = n.registry.entries ++ news.map fun x => (x.1, x.2.id)
  calledBack : m.calledBack = n.calledBack
  active : ∀ x ∈ news, x.2.lifecycle = .active ∧ x.2.callback = some (.release x.1)

theorem grows_of_same {n m : Node} (replicas : m.replicas = n.replicas)
    (entries : m.registry.entries = n.registry.entries) (calledBack : m.calledBack = n.calledBack) :
    Grows n m [] :=
  ⟨replicas.trans (List.append_nil _).symm, entries.trans (List.append_nil _).symm, calledBack,
    fun _ mem => absurd mem List.not_mem_nil⟩

theorem Grows.trans {n m k : Node} {news later : List (DedupKey × Replica)}
    (first : Grows n m news) (second : Grows m k later) : Grows n k (news ++ later) := by
  constructor
  · rw [second.replicas, first.replicas, List.map_append, List.append_assoc]
  · rw [second.entries, first.entries, List.map_append, List.append_assoc]
  · rw [second.calledBack, first.calledBack]
  · intro x mem
    rcases List.mem_append.mp mem with early | late
    · exact first.active x early
    · exact second.active x late

theorem Grows.ids {n m : Node} {news : List (DedupKey × Replica)} (h : Grows n m news) :
    m.registry.ids = n.registry.ids ++ news.map fun x => x.2.id := by
  simp only [Registry.ids, h.entries, List.map_append, List.map_map, Function.comp_def]

def RuntimeUp (n : Node) : Prop := ∀ b, n.binding = some b → b.runtime ∉ n.shut

theorem SameSession.runtimeUp {n m : Node} (h : SameSession n m) (up : RuntimeUp n) :
    RuntimeUp m := by
  intro b bound
  rw [h.shut]
  exact up b (h.binding ▸ bound)

theorem Orderly.grows_takeIn {n : Node} (h : Orderly n) (live : n.live = true) {b : Binding}
    {d : Descriptor} {id : ReplicaId} {registry : Registry}
    (admitted : n.registry.enroll (b.config.dedupKey d) = (.admitted id, registry)) :
    ∃ news, Grows n (n.takeIn b d id registry) news := by
  have replicas := h.replicas_takeIn live admitted
  have entries := n.entries_takeIn admitted
  have calledBack : (n.takeIn b d id registry).calledBack = n.calledBack :=
    (calledBack_perform _ id (Replica.calls_activate b.platform b.runtime)).2
  rw [Replica.activate_of_isFresh rfl] at replicas
  refine ⟨[(b.config.dedupKey d, _)], replicas, entries, calledBack, ?_⟩
  intro x mem
  rw [List.mem_singleton.mp mem]
  exact ⟨rfl, rfl⟩

theorem Reaction.grows {n m : Node} (h : Reaction n m) (orderly : Orderly n) (up : RuntimeUp n) :
    ∃ news, Grows n m news := by
  cases h with
  | say x => exact ⟨[], grows_of_same rfl rfl rfl⟩
  | ask b host => exact ⟨[], grows_of_same rfl rfl rfl⟩
  | accepted => exact ⟨[], grows_of_same rfl rfl rfl⟩
  | takeIn b d id registry live tagged bound admitted => exact orderly.grows_takeIn live admitted
  | giveUp b id bound off => exact absurd off (up b bound)

theorem Reactions.grows {n m : Node} (h : Reactions n m) (orderly : Orderly n) (up : RuntimeUp n) :
    ∃ news, Grows n m news := by
  induction h with
  | refl => exact ⟨[], grows_of_same rfl rfl rfl⟩
  | tail before last ih =>
    obtain ⟨news, grows⟩ := ih
    have orderly' := Reactions.shifts before |>.keeps Orderly.shift orderly
    obtain ⟨later, grows'⟩ := last.grows orderly' ((Reactions.sameSession before).runtimeUp up)
    exact ⟨news ++ later, grows.trans grows'⟩

theorem RuntimeUp.renewed {n : Node} (up : RuntimeUp n) (b : Binding) (active : Bool) :
    RuntimeUp (n.renewed b active) := up

theorem grows_renewed (b : Binding) (active : Bool) (n : Node) :
    Grows n (n.renewed b active) [] := grows_of_same rfl rfl rfl

theorem grows_swept {n m : Node} (orderly : Orderly n) (up : RuntimeUp n) {b : Binding}
    {reply : SubscribeReply} {active : Bool}
    (swept : Reactions ((n.subscribing b reply).renewed b active) m) :
    ∃ news, Grows n m news := by
  have calling : Orderly (n.call (asking b)) := orderly.shift (shift_asking b n)
  obtain ⟨early, pending⟩ := (reactions_subscribing b reply n).grows calling up
  have pending' : Grows n (n.subscribing b reply) early :=
    ⟨pending.replicas, pending.entries, pending.calledBack, pending.active⟩
  have up' := ((sameSession_subscribing b reply n).runtimeUp up).renewed b active
  obtain ⟨late, grown⟩ := swept.grows (orderly.renewed b reply active) up'
  exact ⟨_, (pending'.trans (grows_renewed b active _)).trans grown⟩

structure Unmoved (n m : Node) : Prop where
  registry : m.registry = n.registry
  replicas : m.replicas = n.replicas
  held : m.held = n.held
  binding : m.binding = n.binding
  calledBack : m.calledBack = n.calledBack
  letGo : m.letGo = n.letGo
  told : m.told = n.told
  asked : m.asked = n.asked

/-- Everything that was hosted before or has come in since is silent, and the handle of before and
the new one have both been let go. -/
structure RolledBack (n : Node) (fresh : Handle) (m : Node) : Prop where
  rest : AtRest m
  binding : m.binding = n.binding
  calledBack : m.calledBack = n.calledBack
  letGo : m.letGo = n.letGo ++ (n.held.toList ++ [fresh])
  told : m.told = n.told ++ ((n.held.toList ++ [fresh]).filter Handle.active).map Handle.number
  silenced : ∃ news, m.replicas.map Replica.id = n.replicas.map Replica.id ++ news ∧
    ∀ id ∈ n.registry.ids ++ news, Silent m id
  spared : ∀ r ∈ n.replicas, r.id ∉ n.registry.ids → r ∈ m.replicas

/-- The node is open and holds the new handle, and what was hosted before is as it was. -/
structure Started (n : Node) (fresh : Handle) (m : Node) : Prop where
  opened : m.registry.stopping = false
  held : m.held = some fresh
  binding : m.binding = n.binding
  letGo : m.letGo = n.letGo ++ n.held.toList
  told : m.told = n.told ++ (n.held.toList.filter Handle.active).map Handle.number
  grown : ∃ news, Grows n m news

theorem unmoved_refused (b : Binding) {reply : SubscribeReply} (unheard : reply.beacons = [])
    (e : Failure) (n : Node) : Unmoved n ((n.subscribing b reply).say (.subscriptionFailed e)) := by
  have pending : n.subscribing b reply = n.call (asking b) := by
    rw [subscribing, unheard]
    rfl
  rw [pending]
  refine ⟨rfl, rfl, rfl, rfl, rfl, rfl, ?_, ?_⟩
  · exact (told_call n _).trans (List.append_nil _)
  · exact (asked_call n _).trans (List.append_nil _)

section

variable {n m k : Node} {b : Binding} {reply : SubscribeReply} {active : Bool}

theorem started_of_swept (orderly : Orderly n) (up : RuntimeUp n)
    (swept : Reactions ((n.subscribing b reply).renewed b active) m) :
    Started n (n.nextHandle b active) m := by
  have movesHandles := movesHandles_renewed b reply active n
  have sameSession := swept.sameSession
  exact ⟨sameSession.stopping, held_swept swept, binding_swept swept,
    sameSession.letGo.trans movesHandles.letGo,
    sameSession.told.trans movesHandles.told, grows_swept orderly up swept⟩

theorem rolledBack_of_swept (orderly : Orderly n) (live : n.live = true)
    (hostedUncalled : HostedUncalled n)
    (up : RuntimeUp n) (swept : Reactions ((n.subscribing b reply).renewed b active) m)
    (halted : Halted m k) : RolledBack n (n.nextHandle b active) k := by
  obtain ⟨news, grown⟩ := grows_swept orderly up swept
  have movesHandles := movesHandles_renewed b reply active n
  have sameSession := swept.sameSession
  have shifts : Shifts n m := (shifts_renewed b reply active n).trans swept.shifts
  obtain ⟨orderly', hostedUncalled'⟩ :=
    shifts.keeps HostedUncalled.shift ⟨orderly, fun _ => hostedUncalled⟩
  constructor
  · exact halted.atRest
  · exact halted.binding.trans (binding_swept swept)
  · exact halted.calledBack.trans grown.calledBack
  · rw [halted.letGo, sameSession.letGo, movesHandles.letGo, held_swept swept, List.append_assoc]
    rfl
  · rw [halted.told, sameSession.told, movesHandles.told, held_swept swept, List.filter_append,
      List.map_append, List.append_assoc]
    rfl
  · refine ⟨news.map fun x => x.2.id, ?_, ?_⟩
    · rw [halted.ids, grown.replicas, List.map_append, List.map_map]
      rfl
    · intro id hosted
      rw [← grown.ids] at hosted
      exact (hostedUncalled' (shifts.live.trans live)).silent halted hosted
  · intro r mem unhosted
    have kept : r ∈ m.replicas := grown.replicas ▸ List.mem_append_left _ mem
    have spared : r.id ∉ m.registry.ids := by
      have unique := orderly'.unique
      rw [grown.replicas, List.map_append] at unique
      rw [grown.ids]
      intro hosted
      rcases List.mem_append.mp hosted with old | new
      · exact unhosted old
      · obtain ⟨x, hx, same⟩ := List.mem_map.mp new
        -- a newcomer never bears the number of one that was there before
        exact List.disjoint_of_nodup_append unique (List.mem_map_of_mem mem)
          (same ▸ List.mem_map_of_mem (List.mem_map_of_mem hx))
    rw [halted.replicas]
    exact List.mem_map.mpr ⟨r, kept, if_neg spared⟩

end

/-- A start without a binding changes nothing. One whose subscription fails hands the failure on and
has changed nothing either, unless events came before the answer. One that obtains a handle comes to
what the request to all hosts comes to: either everything is rolled back, also what earlier starts
have brought, or the new handle is held, the former one has been let go, and there are newcomers at
most. -/
theorem start_outcome (actions : List Action) (live : (run {} actions).live = true)
    (reply : StartReply) :
    let n := run {} actions
    (n.binding = none → n.start reply = (some .notAttached, n)) ∧
    ∀ b, n.binding = some b →
      (∀ e, reply.subscribe.outcome = .error e → (n.start reply).1 = some e ∧
        (reply.subscribe.beacons = [] → Unmoved n (n.start reply).2)) ∧
      ∀ active, reply.subscribe.outcome = .ok active → (n.start reply).1 = reply.sweep.refusal ∧
        (b.runtime ∉ n.shut →
          (reply.sweep.refusal.isSome → RolledBack n (n.nextHandle b active) (n.start reply).2) ∧
          (reply.sweep.refusal = none → Started n (n.nextHandle b active) (n.start reply).2)) := by
  intro n
  obtain ⟨orderly, hostedUncalled⟩ : Orderly n ∧ (n.live = true → HostedUncalled n) :=
    hostedUncalled_run actions
  have h := start_case orderly reply
  refine ⟨?_, ?_⟩
  · intro free
    simp only [start, free]
  · intro b bound
    have up_of (on : b.runtime ∉ n.shut) : RuntimeUp n := by
      intro b' bound'
      cases bound.symm.trans bound'
      exact on
    generalize n.start reply = x at h ⊢
    refine ⟨?_, ?_⟩
    · intro e failed
      cases h with
      | unbound free => simp [bound] at free
      | refused b' e' bound' failed' =>
        cases bound.symm.trans bound'
        cases failed.symm.trans failed'
        exact ⟨rfl, fun unheard => unmoved_refused b unheard e n⟩
      | through b' active m bound' subscribed swept accepted => cases failed.symm.trans subscribed
      | rolledBack b' active m k e' bound' subscribed swept failed' halted =>
        cases failed.symm.trans subscribed
    · intro active subscribed
      cases h with
      | unbound free => simp [bound] at free
      | refused b' e bound' failed => cases subscribed.symm.trans failed
      | through b' active' m bound' subscribed' swept accepted =>
        cases bound.symm.trans bound'
        cases subscribed.symm.trans subscribed'
        refine ⟨accepted.symm, fun on => ⟨?_, ?_⟩⟩
        · intro refused
          rw [accepted] at refused
          cases refused
        · intro _
          exact started_of_swept orderly (up_of on) swept
      | rolledBack b' active' m k e bound' subscribed' swept failed halted =>
        cases bound.symm.trans bound'
        cases subscribed.symm.trans subscribed'
        refine ⟨failed.symm, fun on => ⟨?_, ?_⟩⟩
        · intro _
          exact rolledBack_of_swept orderly live (hostedUncalled live) (up_of on) swept halted
        · intro accepted
          cases failed.symm.trans accepted

def session : List Action :=
  [.attach 0 0 {},
   .start { subscribe := { outcome := .ok true }
            sweep := { candidates := [{ address := "n", uri := "/a/hosting" }] } }]

/-- The old handle refuses to go, and after one newcomer the request to all hosts is refused. -/
def failingStart : StartReply :=
  { subscribe := { outcome := .ok true }
    replaced := { refusal := some (.invalidArgument "busy") }
    sweep := { candidates := [{ address := "n", uri := "/a/hosting" },
                 { address := "n", uri := "/b/hosting" }]
               refusal := some (.invalidArgument "down") } }

def refusedStart : StartReply := { subscribe := { outcome := .error .notAttached } }

def plainStart : StartReply := { subscribe := { outcome := .ok true } }

theorem start_outcome_session :
    let n := run {} session
    let m := (n.start failingStart).2
    n.registry.ids = [⟨1⟩] ∧ (n.start failingStart).1 = some (.invalidArgument "down") ∧
      AtRest m ∧ m.told = [0, 1] ∧ Silent m ⟨1⟩ ∧ Silent m ⟨2⟩ ∧
      Unmoved n (n.start refusedStart).2 ∧
      (n.start plainStart).2.held = some ⟨1, 0, true⟩ := by
  intro n m
  let b : Binding := ⟨0, 0, {}, Config.discoveryQuery {}⟩
  have live : n.live = true := by decide +kernel
  have bound : n.binding = some b := by decide +kernel
  have on : b.runtime ∉ n.shut := by decide +kernel
  have ids : n.registry.ids = [⟨1⟩] := by decide +kernel
  have told : m.told = [0, 1] := by decide +kernel
  have before : n.replicas.map Replica.id = [⟨1⟩] := by decide +kernel
  have after : m.replicas.map Replica.id = [⟨1⟩, ⟨2⟩] := by decide +kernel
  obtain ⟨returned, outcome⟩ :=
    ((start_outcome session live failingStart).2 b bound).2 true rfl
  have rolledBack := (outcome on).1 rfl
  obtain ⟨news, grown, silent⟩ := rolledBack.silenced
  have two : news = [⟨2⟩] := by
    rw [after, before] at grown
    exact (List.cons.inj grown).2.symm
  rw [ids, two] at silent
  have unmoved := (((start_outcome session live refusedStart).2 b bound).1 .notAttached rfl).2 rfl
  have started := ((((start_outcome session live plainStart).2 b bound).2 true rfl).2 on).2 rfl
  have next : n.nextHandle b true = ⟨1, 0, true⟩ := by decide +kernel
  exact ⟨ids, returned, rolledBack.rest, told, silent ⟨1⟩ (by decide), silent ⟨2⟩ (by decide),
    unmoved, started.held.trans (congrArg some next)⟩

end ReplicaHosting.Node

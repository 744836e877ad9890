import Mathlib.Data.List.Induction
import ReplicaHosting.Proofs.Replica.Serving
import ReplicaHosting.Proofs.Node.Start
import ReplicaHosting.Proofs.Node.Watching

/-! What the replicas of a node show. Only tagged descriptors are admitted, so the tag that is
looked for at the door is there when the first snapshot is made. What a snapshot says of its
resource it says for good, and its revision counts the attributes taken since the admission. -/
namespace ReplicaHosting.Node

def heard (id : ReplicaId) (n : Node) : Action → List Attributes
  | .turn i pick _ => if i = id then ((n.replica? id).map (Replica.takes pick)).getD [] else []
  | _ => []

def heardBy (id : ReplicaId) (n : Node) : List Action → List Attributes
  | [] => []
  | a :: later => n.heard id a ++ (n.step a).heardBy id later

theorem heardBy_append (id : ReplicaId) (n : Node) (actions later : List Action) :
    n.heardBy id (actions ++ later) = n.heardBy id actions ++ (n.run actions).heardBy id later := by
  induction actions generalizing n with
  | nil => rfl
  | cons a actions ih =>
    change n.heard id a ++ (n.step a).heardBy id (actions ++ later) = _
    rw [ih, ← List.append_assoc]
    rfl

/-- Every replica presents what it has taken; nobody has taken anything before the admission. -/
structure PresentsTaken (taken : ReplicaId → List Attributes) (n : Node) : Prop where
  presents : ∀ r ∈ n.replicas, Replica.Presents (taken r.id) r
  unheard : ∀ id ∉ n.replicas.map Replica.id, taken id = []

variable {n m : Node} {taken later : ReplicaId → List Attributes}

theorem PresentsTaken.of_same (h : PresentsTaken taken n) (replicas : m.replicas = n.replicas) :
    PresentsTaken taken m := by
  constructor
  · rw [replicas]
    exact h.presents
  · rw [replicas]
    exact h.unheard

theorem PresentsTaken.perform (h : PresentsTaken taken n) (orderly : Orderly n) (id : ReplicaId)
    {a : Replica → Replica × List Effect} (same : ∀ r, (a r).1.id = r.id)
    (own : ∀ r ∈ n.replicas, r.id = id → Replica.Presents (later id) (a r).1)
    (others : ∀ i, i ≠ id → later i = taken i)
    (absent : id ∉ n.replicas.map Replica.id → later id = []) :
    PresentsTaken later (n.perform id a) := by
  constructor
  · intro x mem
    rw [replicas_perform orderly.unique id same] at mem
    obtain ⟨r, there, rfl⟩ := List.mem_map.mp mem
    by_cases self : r.id = id
    · rw [if_pos self, same r, self]
      exact own r there self
    · rw [if_neg self, others r.id self]
      exact h.presents r there
  · intro i hi
    rw [ids_perform] at hi
    by_cases self : i = id
    · rw [self]
      exact absent (self ▸ hi)
    · rw [others i self]
      exact h.unheard i hi

theorem PresentsTaken.act (h : PresentsTaken taken n) (orderly : Orderly n) (id : ReplicaId)
    {a : Replica → Replica × List Effect} (same : ∀ r, (a r).1.id = r.id)
    (quiet : ∀ xs r, Replica.Presents xs r → Replica.Presents xs (a r).1) :
    PresentsTaken taken (n.perform id a) := by
  apply h.perform orderly id same
  · intro r mem self
    exact quiet _ r (self ▸ h.presents r mem)
  · exact fun _ _ => rfl
  · exact h.unheard id

theorem PresentsTaken.dropTask (h : PresentsTaken taken n) (orderly : Orderly n) (id : ReplicaId) :
    PresentsTaken taken (n.perform id Replica.dropTask) :=
  h.act orderly id (fun r => (Replica.passes_dropTask r).id)
    fun xs _ presents => presents.dropTask xs

theorem PresentsTaken.dropTasks (h : PresentsTaken taken n) (orderly : Orderly n)
    (ids : List ReplicaId) :
    PresentsTaken taken (ids.foldl (fun n id => n.perform id Replica.dropTask) n) := by
  induction ids generalizing n with
  | nil => exact h
  | cons id ids ih => exact ih (h.dropTask orderly id) (orderly.perform id Replica.dropTask)

theorem PresentsTaken.activate (h : PresentsTaken taken n) (orderly : Orderly n) (id : ReplicaId)
    (platform runtime : Nat) :
    PresentsTaken taken (n.perform id fun r => (r.activate platform runtime).2) :=
  h.act orderly id (fun r => (r.activate_same platform runtime).1)
    fun _ _ presents => presents.activate platform runtime

theorem PresentsTaken.enlist (h : PresentsTaken taken n) (orderly : Orderly n)
    (live : n.live = true) {b : Binding} {d : Descriptor} {id : ReplicaId} {registry : Registry}
    (tagged : d.isHostable = true)
    (admitted : n.registry.enroll (b.config.dedupKey d) = (.admitted id, registry)) :
    PresentsTaken taken (n.enlist b d id registry) := by
  have fresh := orderly.fresh live
  rw [← (Registry.enroll_admitted admitted).2.2.1] at fresh
  constructor
  · intro r mem
    rcases List.mem_append.mp mem with old | new
    · exact h.presents r old
    · -- nobody has borne the number of the newcomer, so it has taken nothing yet
      rw [List.mem_singleton.mp new]
      exact ⟨tagged, fun _ _ => h.unheard id fresh, nofun⟩
  · intro i hi
    apply h.unheard
    intro old
    exact hi (List.map_subset Replica.id (List.subset_append_left n.replicas _) old)

theorem PresentsTaken.reaction (s : Reaction n m) (h : Orderly n ∧ PresentsTaken taken n) :
    Orderly m ∧ PresentsTaken taken m := by
  refine ⟨h.1.shift s.shift, ?_⟩
  obtain ⟨orderly, serves⟩ := h
  cases s with
  | takeIn b d id registry live tagged bound admitted =>
    exact (serves.enlist orderly live tagged admitted).activate (orderly.enlist live admitted b d)
      id b.platform b.runtime
  | giveUp b id bound off => exact serves.dropTask orderly id
  | _ => exact serves.of_same rfl

theorem PresentsTaken.reactions (s : Reactions n m) (h : Orderly n ∧ PresentsTaken taken n) :
    Orderly m ∧ PresentsTaken taken m := by
  induction s with
  | refl => exact h
  | tail _ last ih => exact PresentsTaken.reaction last ih

theorem PresentsTaken.halted (h : PresentsTaken taken n) (halted : Halted n m) :
    PresentsTaken taken m := by
  constructor
  · intro x mem
    rw [halted.replicas] at mem
    obtain ⟨r, there, rfl⟩ := List.mem_map.mp mem
    split
    · rw [r.teardown_same.1]
      exact (h.presents r there).teardown
    · exact h.presents r there
  · rw [halted.ids]
    exact h.unheard

theorem PresentsTaken.start (h : PresentsTaken taken n) (orderly : Orderly n) (reply : StartReply) :
    PresentsTaken taken (n.start reply).2 := by
  have pending (b : Binding) : Orderly (n.subscribing b reply.subscribe) ∧
      PresentsTaken taken (n.subscribing b reply.subscribe) :=
    PresentsTaken.reactions (reactions_subscribing b reply.subscribe n)
      ⟨orderly.shift (shift_asking b n), h.of_same rfl⟩
  have renewed (b : Binding) (active : Bool) :
      Orderly ((n.subscribing b reply.subscribe).renewed b active) ∧
        PresentsTaken taken ((n.subscribing b reply.subscribe).renewed b active) :=
    ⟨orderly.renewed b reply.subscribe active, (pending b).2.of_same rfl⟩
  have case := start_case orderly reply
  generalize n.start reply = x at case
  cases case with
  | unbound free => exact h
  | refused b e bound failed => exact (pending b).2.of_same rfl
  | through b active m bound subscribed swept accepted =>
    exact (PresentsTaken.reactions swept (renewed b active)).2
  | rolledBack b active m k e bound subscribed swept failed halted =>
    exact (PresentsTaken.reactions swept (renewed b active)).2.halted halted

theorem PresentsTaken.step_of_other (h : PresentsTaken taken n) (orderly : Orderly n) {a : Action}
    (other : ∀ id pick reply, a ≠ .turn id pick reply) : PresentsTaken taken (n.step a) := by
  cases a with
  | attach platform runtime config =>
    rcases n.step_attach platform runtime config with same | ⟨-, -, b, x, bound⟩
    · rw [same]
      exact h
    · rw [bound]
      exact h.of_same rfl
  | start reply =>
    simp only [step]
    split
    · exact h.start orderly reply
    · exact h
  | stop reply =>
    simp only [step]
    split
    · rw [stop_eq]
      exact h.halted (halted_stopInOrder orderly.unique reply (List.Perm.refl _))
    · exact h
  | presence callback x =>
    simp only [step]
    split
    · exact (PresentsTaken.reactions (reactions_onPresence x n) ⟨orderly, h⟩).2
    · exact h
  | candidate callback d =>
    simp only [step]
    split
    · exact (PresentsTaken.reactions (reactions_onCandidate d n) ⟨orderly, h⟩).2
    · exact h
  | handleSays active => exact h.of_same rfl
  | turn id pick reply => exact absurd rfl (other id pick reply)
  | answer id x =>
    exact h.act orderly id (fun r => (Replica.advances_answer x r).keeps.id)
      fun _ r presents => (Replica.advances_answer x r).presents presents
  | push id e =>
    exact h.act orderly id (fun r => (Replica.advances_push e r).keeps.id)
      fun _ r presents => (Replica.advances_push e r).presents presents
  | endStream id =>
    exact h.act orderly id (fun r => (Replica.advances_endStream r).keeps.id)
      fun _ r presents => (Replica.advances_endStream r).presents presents
  | shutRuntime runtime =>
    have shut : PresentsTaken taken { n with shut := n.shut ++ [runtime] } := h.of_same rfl
    exact shut.dropTasks (orderly.shift (.shut n runtime)) _
  | activate id platform runtime =>
    have started := h.activate orderly id platform runtime
    simp only [step, Node.activate]
    split
    · exact started.dropTask (orderly.perform id _) id
    · exact started
  | teardown id =>
    exact h.act orderly id (fun r => r.teardown_same.1) fun _ _ presents => presents.teardown
  | abandon => exact h.of_same rfl

theorem PresentsTaken.turn (h : PresentsTaken taken n) (orderly : Orderly n)
    (staffed : ∀ r ∈ n.replicas, r.Staffed) (id : ReplicaId) (pick : Branch)
    (reply : Option WatchReply) :
    PresentsTaken (fun i => taken i ++ n.heard i (.turn id pick reply)) (n.turn id pick reply) := by
  apply h.perform orderly id fun r => (Replica.passes_turn pick reply r).id
  · intro r mem self
    have found : n.replica? id = some r := self ▸ replica?_of_mem orderly.unique mem
    simp only [heard, found, if_true, Option.map_some, Option.getD_some]
    exact (self ▸ h.presents r mem : Replica.Presents (taken id) r).turn (staffed r mem) pick reply
  · intro i other
    simp only [heard, if_neg (Ne.symm other), List.append_nil]
  · intro absent
    have missing : n.replica? id = none := by
      apply List.find?_eq_none.mpr
      intro r mem same
      exact absent (beq_iff_eq.mp same ▸ List.mem_map_of_mem mem)
    simp only [heard, missing, h.unheard id absent, if_true, Option.map_none, Option.getD_none,
      List.append_nil]

theorem PresentsTaken.step (h : PresentsTaken taken n) (orderly : Orderly n)
    (staffed : ∀ r ∈ n.replicas, r.Staffed) (a : Action) :
    PresentsTaken (fun id => taken id ++ n.heard id a) (n.step a) := by
  cases a with
  | turn id pick reply => exact h.turn orderly staffed id pick reply
  | _ =>
    simp only [heard, List.append_nil]
    exact h.step_of_other orderly nofun

theorem presentsTaken_run (actions : List Action) :
    PresentsTaken (fun id => heardBy id {} actions) (run {} actions) := by
  induction actions using List.reverseRecOn with
  | nil =>
    refine ⟨?_, fun _ _ => rfl⟩
    intro r mem
    cases mem
  | append_singleton actions a ih =>
    -- a replica takes from its stream only after its start, since it has no task before
    obtain ⟨orderly, accounted⟩ := accountsAll_run actions
    have next := ih.step orderly (fun r mem => (accounted.accounts r mem).staffed) a
    simp only [heardBy_append, heardBy, List.append_nil, run, List.foldl_append, List.foldl_cons,
      List.foldl_nil]
    exact next

def HasReplica (id : ReplicaId) (d : Descriptor) (n : Node) : Prop :=
  ∃ r ∈ n.replicas, r.id = id ∧ r.descriptor = d

theorem HasReplica.perform {i : ReplicaId} {d : Descriptor} (h : HasReplica i d n)
    (orderly : Orderly n) (id : ReplicaId) {a : Replica → Replica × List Effect}
    (same : ∀ r, (a r).1.id = r.id ∧ (a r).1.descriptor = r.descriptor) :
    HasReplica i d (n.perform id a) := by
  obtain ⟨r, mem, rfl, rfl⟩ := h
  exact exists_mem_perform orderly.unique id same mem

theorem HasReplica.shift {i : ReplicaId} {d : Descriptor} (s : Shift n m)
    (h : Orderly n ∧ HasReplica i d n) : Orderly m ∧ HasReplica i d m := by
  refine ⟨h.1.shift s, ?_⟩
  obtain ⟨orderly, bears⟩ := h
  cases s with
  | takeIn b e id registry live tagged bound admitted =>
    obtain ⟨r, mem, same⟩ := bears
    have enlisted : HasReplica i d (n.enlist b e id registry) :=
      ⟨r, List.mem_append_left _ mem, same⟩
    exact enlisted.perform (orderly.enlist live admitted b e) id
      (Replica.activate_same b.platform b.runtime)
  | act id own =>
    exact bears.perform orderly id fun r => ⟨(own.passes r).id, (own.passes r).descriptor⟩
  | drain =>
    exact orderly.drain_keeps (P := HasReplica i d)
      (fun id orderly h => h.perform orderly id Replica.teardown_same) bears
  | _ => exact bears

theorem HasReplica.run {i : ReplicaId} {d : Descriptor} (h : HasReplica i d n) (orderly : Orderly n)
    (later : List Action) : HasReplica i d (n.run later) := by
  have all : Orderly (n.run later) ∧ HasReplica i d (n.run later) := by
    apply run_keeps_of_shift (P := fun n => Orderly n ∧ HasReplica i d n) HasReplica.shift
    · intro n id platform runtime h
      exact ⟨h.1.perform id _, h.2.perform h.1 id (Replica.activate_same platform runtime)⟩
    · intro n id h
      exact ⟨h.1.perform id _, h.2.perform h.1 id Replica.teardown_same⟩
    · intro n h
      exact ⟨h.1.step .abandon, h.2⟩
    · exact ⟨orderly, h⟩
  exact all.2

/-- Whatever happens, a replica has a tagged descriptor, and serves its URI without that one tag. A
snapshot says of the resource what the descriptor says, is there only while the replica is active,
and is renewed by all attributes that the replica takes from its stream. Of a URI with several tags
the last one is cut, and from one without a tag nothing is made at all. -/
theorem snapshots_untagged_once (actions : List Action) :
    let n := run {} actions
    (∀ r ∈ n.replicas, ∃ path, replicaUri? r.descriptor.uri = some path ∧
      (∀ s, r.snapshot = some s → r.lifecycle = .active ∧ s.uri = path ∧
        s.uri ++ "/hosting" = r.descriptor.uri ∧
        s.resourceTypes = r.descriptor.resourceTypes ∧ s.interfaces = r.descriptor.interfaces ∧
        s.revision = (heardBy r.id {} actions).length ∧
        (heardBy r.id {} actions).getLast? = some s.attributes) ∧
      (r.lifecycle = .active → r.snapshot = none → heardBy r.id {} actions = [])) ∧
    (∀ later, ∀ r ∈ n.replicas, ∀ r' ∈ (n.run later).replicas, r'.id = r.id →
      ∀ s s', r.snapshot = some s → r'.snapshot = some s' →
        s'.uri = s.uri ∧ s'.resourceTypes = s.resourceTypes ∧ s'.interfaces = s.interfaces ∧
        s'.revision = s.revision + (n.heardBy r.id later).length) ∧
    (∀ uri, isHostable uri = true ↔ ∃ path, replicaUri? uri = some path) ∧
    (∀ uri path, replicaUri? uri = some path ↔ path ++ "/hosting" = uri) ∧
    (∀ uri, isHostable uri = false ↔ replicaUri? uri = none) := by
  intro n
  have serves : PresentsTaken (fun id => heardBy id {} actions) n := presentsTaken_run actions
  have orderly : Orderly n := orderly_run actions
  refine ⟨?_, ?_, ?_, fun _ _ => replicaUri?_eq_some_iff, ?_⟩
  · intro r mem
    have presents := serves.presents r mem
    obtain ⟨path, served⟩ := Option.isSome_iff_exists.mp
      ((isHostable_eq_isSome r.descriptor.uri).symm.trans presents.tagged)
    refine ⟨path, served, ?_, ?_⟩
    · intro s shown
      obtain ⟨active, fits⟩ := presents.shown s shown
      have same : some s.uri = some path := (replicaUri?_eq_some_iff.mpr fits.uri).symm.trans served
      exact ⟨active, Option.some.inj same, fits.uri, fits.resourceTypes, fits.interfaces,
        fits.revision, fits.latest⟩
    · intro active hidden
      exact presents.unseen (by rw [active]; exact nofun) hidden
  · intro later r mem r' mem' same s s' shown shown'
    have reached : n.run later = run {} (actions ++ later) := List.foldl_append.symm
    have serves' : PresentsTaken (fun id => heardBy id {} (actions ++ later)) (n.run later) :=
      reached ▸ presentsTaken_run (actions ++ later)
    have orderly' : Orderly (n.run later) := reached ▸ orderly_run (actions ++ later)
    obtain ⟨x, there, id, descriptor⟩ :=
      HasReplica.run (i := r.id) (d := r.descriptor) ⟨r, mem, rfl, rfl⟩ orderly later
    have eq : x = r' := orderly'.eq_of_id there mem' (id.trans same.symm)
    subst eq
    obtain ⟨-, fits⟩ := (serves.presents r mem).shown s shown
    obtain ⟨-, fits'⟩ := (serves'.presents x there).shown s' shown'
    rw [descriptor] at fits'
    refine ⟨?_, ?_, ?_, ?_⟩
    · have served := replicaUri?_eq_some_iff.mpr fits.uri
      have served' := replicaUri?_eq_some_iff.mpr fits'.uri
      exact Option.some.inj (served'.symm.trans served)
    · rw [fits'.resourceTypes, fits.resourceTypes]
    · rw [fits'.interfaces, fits.interfaces]
    · rw [fits'.revision, fits.revision, heardBy_append, List.length_append, id]
  · intro uri
    rw [isHostable_eq_isSome, Option.isSome_iff_exists]
  · intro uri
    rw [isHostable_eq_isSome, Option.isSome_eq_false_iff, Option.isNone_iff_eq_none]

/-- A resource with two tags is replicated, and sends attributes twice. -/
def attributesSession : List Action :=
  [.attach 0 0 {},
   .start { subscribe := { outcome := .ok true }
            sweep := { candidates := [{ address := "n", uri := "/a/hosting/hosting" }] } },
   .turn ⟨1⟩ .origin (some .opens), .turn ⟨1⟩ .origin none, .push ⟨1⟩ (.attributes []),
   .push ⟨1⟩ (.attributes [("on", .boolean true)]), .turn ⟨1⟩ .origin none]

theorem snapshots_untagged_once_two_revisions :
    let n := run {} attributesSession
    ∃ r ∈ n.replicas, ∃ s, r.snapshot = some s ∧ r.lifecycle = .active ∧
      s.uri ++ "/hosting" = "/a/hosting/hosting" ∧ s.revision = 1 ∧
      ∃ r' ∈ (n.run [.turn ⟨1⟩ .origin none]).replicas, ∃ s', r'.id = r.id ∧
        r'.snapshot = some s' ∧ s'.uri = s.uri ∧ s'.revision = 2 := by
  intro n
  obtain ⟨r, mem, one, tagged, showing⟩ : ∃ r ∈ n.replicas, r.id = ⟨1⟩ ∧
      r.descriptor.uri = "/a/hosting/hosting" ∧ r.snapshot.isSome = true := by decide +kernel
  obtain ⟨r', mem', one', showing'⟩ : ∃ r ∈ (n.run [.turn ⟨1⟩ .origin none]).replicas,
      r.id = ⟨1⟩ ∧ r.snapshot.isSome = true := by decide +kernel
  have once : (heardBy ⟨1⟩ {} attributesSession).length = 1 := by decide +kernel
  have again : (n.heardBy ⟨1⟩ [.turn ⟨1⟩ .origin none]).length = 1 := by decide +kernel
  obtain ⟨s, shown⟩ := Option.isSome_iff_exists.mp showing
  obtain ⟨s', shown'⟩ := Option.isSome_iff_exists.mp showing'
  obtain ⟨served, renewed, -⟩ := snapshots_untagged_once attributesSession
  obtain ⟨path, -, fits, -⟩ := served r mem
  obtain ⟨active, -, uri, -, -, revision, -⟩ := fits s shown
  obtain ⟨same, -, -, revision'⟩ := renewed [.turn ⟨1⟩ .origin none] r mem r' mem'
    (one'.trans one.symm) s s' shown shown'
  rw [one, once] at revision
  rw [one, again, revision] at revision'
  exact ⟨r, mem, s, shown, active, uri.trans tagged, revision, r', mem', s', one'.trans one.symm,
    shown', same, revision'⟩

end ReplicaHosting.Node

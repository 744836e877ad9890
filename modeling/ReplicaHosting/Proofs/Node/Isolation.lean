import ReplicaHosting.Proofs.Node.Dedup
import ReplicaHosting.Proofs.Node.Follow

/-! Replicas do not get in each other's way. What a replica does reaches its node through its own
callback only, which takes out the entry that bears its own id or nothing; an entry under the same
key that is a later replica's stays. So two replicas may go on in either order. -/
namespace ReplicaHosting

namespace Registry

variable {r s : Registry}

theorem releasedBy_eq (distinct : r.Distinct) (live : Bool) (b : ReplicaId × Callback) :
    r.releasedBy live b =
      { r with entries := r.entries.filter fun e => !(live && b == (e.2, .release e.1)) } := by
  have nothing (untaken : ∀ e ∈ r.entries, (live && b == (e.2, .release e.1)) = false) :
      r = { r with entries := r.entries.filter fun e => !(live && b == (e.2, .release e.1)) } := by
    rw [List.filter_eq_self.mpr]
    intro e mem
    rw [untaken e mem]
    rfl
  obtain ⟨id, c⟩ := b
  cases c with
  | report => exact nothing fun e _ => by simp
  | release key =>
    cases live with
    | false => exact nothing fun _ _ => rfl
    | true =>
      by_cases there : (key, id) ∈ r.entries
      · simp only [releasedBy, if_true, remove?_of_mem distinct there, Option.getD_some]
        congr 1
        apply List.filter_congr
        intro e mem
        have own : e.1 = key → e.2 = id := by
          intro same
          rw [List.inj_on_of_nodup_map distinct mem there same]
        rw [Bool.eq_iff_iff]
        simp only [Bool.true_and, Bool.not_eq_true', beq_eq_false_iff_ne, ne_eq, Prod.mk.injEq,
          Callback.release.injEq]
        grind
      · have absent : r.find? key ≠ some id :=
          fun found => there ((find?_eq_some_iff distinct key id).mp found)
        simp only [releasedBy, if_true, remove?, if_neg absent, Option.getD_none]
        apply nothing
        rintro ⟨k, i⟩ mem
        simp only [Bool.true_and, beq_eq_false_iff_ne, ne_eq, Prod.mk.injEq,
          Callback.release.injEq]
        rintro ⟨rfl, rfl⟩
        exact there mem

theorem foldl_releasedBy_eq (distinct : r.Distinct) (live : Bool)
    (calls : List (ReplicaId × Callback)) :
    calls.foldl (releasedBy live) r =
      { r with entries := r.entries.filter fun e =>
          !(live && calls.contains (e.2, .release e.1)) } := by
  induction calls generalizing r with
  | nil => simp
  | cons b calls ih =>
    rw [List.foldl_cons, ih ((shrinks_releasedBy live r b).distinct distinct),
      releasedBy_eq distinct]
    simp only [List.filter_filter]
    congr 1
    apply List.filter_congr
    intro e _
    rw [List.contains_cons, Bool.beq_comm]
    cases live <;> simp [Bool.and_comm]

end Registry

def Effect.noted (live : Bool) (r : Registry) : Effect → List Notice
  | notice x => [x]
  | watch _ | opened | calledBack _ .report => []
  | calledBack id (.release key) =>
    if live then [if r.find? key = some id then .released id key else .alreadyReleased id] else []

namespace Node

def noted (live : Bool) (r : Registry) : List Effect → List Notice
  | [] => []
  | e :: es => e.noted live r ++ noted live (([e].filterMap Effect.callback?).foldl
      (Registry.releasedBy live) r) es

variable {n m k : Node} {i j : ReplicaId} {a b : Replica → Replica × List Effect}

theorem notices_apply (id : ReplicaId) (d : Descriptor) (n : Node) (e : Effect) :
    (n.apply id d e).notices = n.notices ++ e.noted n.live n.registry := by
  cases e with
  | notice x => rfl
  | watch platform => exact (List.append_nil _).symm
  | opened => exact (List.append_nil _).symm
  | calledBack ended c =>
    cases c with
    | report => exact (List.append_nil _).symm
    | release key =>
      simp only [apply, release, Effect.noted, Registry.remove?]
      cases n.live with
      | false => simp
      | true => by_cases found : n.registry.find? key = some ended <;> simp [found, say]

theorem notices_foldl_apply (id : ReplicaId) (d : Descriptor) (n : Node) (es : List Effect) :
    (es.foldl (apply id d) n).notices = n.notices ++ noted n.live n.registry es := by
  induction es generalizing n with
  | nil => exact (List.append_nil _).symm
  | cons e es ih =>
    have first := appliesEffects_apply id d n e
    rw [List.foldl_cons, ih, notices_apply, first.live, first.registry, List.append_assoc]
    rfl

/-- What is said of callbacks depends on the entries of those who make them. -/
theorem noted_congr {r s : Registry} (distinct : r.Distinct) (distinct' : s.Distinct) (live : Bool)
    (es : List Effect) (same : ∀ c ∈ es.filterMap Effect.callback?, ∀ key,
      (key, c.1) ∈ r.entries ↔ (key, c.1) ∈ s.entries) :
    noted live r es = noted live s es := by
  induction es generalizing r s with
  | nil => rfl
  | cons e es ih =>
    have here : e.noted live r = e.noted live s := by
      cases e with
      | calledBack id c =>
        cases c with
        | report => rfl
        | release key =>
          have found : r.find? key = some id ↔ s.find? key = some id := by
            rw [Registry.find?_eq_some_iff distinct, Registry.find?_eq_some_iff distinct']
            exact same _ List.mem_cons_self key
          simp only [Effect.noted, found]
      | _ => rfl
    rw [noted, noted, here]
    congr 1
    apply ih
    · exact (Registry.shrinks_foldl_releasedBy live r _).distinct distinct
    · exact (Registry.shrinks_foldl_releasedBy live s _).distinct distinct'
    · intro c mem key
      have before : c ∈ (e :: es).filterMap Effect.callback? := by
        rw [← List.singleton_append, List.filterMap_append]
        exact List.mem_append_right _ mem
      rw [Registry.foldl_releasedBy_eq distinct, Registry.foldl_releasedBy_eq distinct']
      simp only [List.mem_filter, same c before key]

/-- Two nodes are in one state, and their records say the same, if not in the same order. -/
structure Agree (n m : Node) : Prop where
  live : n.live = m.live
  binding : n.binding = m.binding
  registry : n.registry = m.registry
  held : n.held = m.held
  replicas : n.replicas = m.replicas
  shut : n.shut = m.shut
  subscriptions : n.subscriptions = m.subscriptions
  requests : n.requests = m.requests
  letGo : n.letGo = m.letGo
  streams : n.streams.Perm m.streams
  calls : n.calls.Perm m.calls
  notices : n.notices.Perm m.notices
  calledBack : n.calledBack.Perm m.calledBack

theorem agree_self (n : Node) : Agree n n :=
  ⟨rfl, rfl, rfl, rfl, rfl, rfl, rfl, rfl, rfl, .refl _, .refl _, .refl _, .refl _⟩

theorem perm_append_append_comm {α : Type} (as bs cs : List α) :
    (as ++ bs ++ cs).Perm (as ++ cs ++ bs) := by
  rw [List.append_assoc, List.append_assoc]
  exact List.perm_append_comm.append_left as

/-- What the effects of one replica make of its node, beside the replica. -/
structure TakesEffects (n : Node) (id : ReplicaId) (d : Descriptor) (es : List Effect)
    (m : Node) : Prop where
  acted : ReplicasActed n m
  logs : Logs id d n es m
  registry : m.registry =
    (es.filterMap Effect.callback?).foldl (Registry.releasedBy n.live) n.registry
  calledBack : m.calledBack = n.calledBack ++ (es.filterMap Effect.callback?).map Prod.fst
  notices : m.notices = n.notices ++ noted n.live n.registry es

theorem takesEffects_perform {r : Replica} (found : n.replica? i = some r)
    (a : Replica → Replica × List Effect) :
    TakesEffects n i r.descriptor (a r).2 (n.perform i a) := by
  have applied := appliesEffects_perform found a
  refine
    ⟨n.replicasActed_perform i a, logs_perform found a, applied.registry, applied.calledBack, ?_⟩
  rw [perform_of_found found]
  exact notices_foldl_apply i r.descriptor _ _

theorem TakesEffects.noted_of_other {d : Descriptor} {es fs : List Effect}
    (h : TakesEffects n i d es m) (distinct : n.registry.Distinct) (other : i ≠ j)
    (own : ∀ c ∈ es.filterMap Effect.callback?, c.1 = i)
    (own' : ∀ c ∈ fs.filterMap Effect.callback?, c.1 = j) :
    noted m.live m.registry fs = noted n.live n.registry fs := by
  rw [h.acted.live]
  apply noted_congr (h.acted.registry.distinct distinct) distinct
  intro c mem key
  have kept : (es.filterMap Effect.callback?).contains (c.1, .release key) = false := by
    rw [List.contains_eq_mem, decide_eq_false_iff_not]
    intro called
    exact other ((own _ called).symm.trans (own' c mem))
  rw [h.registry, Registry.foldl_releasedBy_eq distinct]
  simp only [List.mem_filter, kept, Bool.and_false, Bool.not_false, and_true]

theorem TakesEffects.comm {d d' : Descriptor} {es fs : List Effect} {x y : Node}
    (distinct : n.registry.Distinct) (other : i ≠ j)
    (own : ∀ c ∈ es.filterMap Effect.callback?, c.1 = i)
    (own' : ∀ c ∈ fs.filterMap Effect.callback?, c.1 = j)
    (first : TakesEffects n i d es m) (second : TakesEffects m j d' fs x)
    (first' : TakesEffects n j d' fs k) (second' : TakesEffects k i d es y)
    (replicas : x.replicas = y.replicas) : Agree x y := by
  have left := first.acted.trans second.acted
  have right := first'.acted.trans second'.acted
  constructor
  · exact left.live.trans right.live.symm
  · exact left.binding.trans right.binding.symm
  · rw [second.registry, second'.registry, first.registry, first'.registry, first.acted.live,
      first'.acted.live, ← List.foldl_append, ← List.foldl_append,
      Registry.foldl_releasedBy_eq distinct, Registry.foldl_releasedBy_eq distinct]
    simp only [List.contains_append, Bool.or_comm]
  · exact left.held.trans right.held.symm
  · exact replicas
  · exact left.shut.trans right.shut.symm
  · exact left.subscriptions.trans right.subscriptions.symm
  · exact (second.logs.requests.trans first.logs.requests).trans
      (second'.logs.requests.trans first'.logs.requests).symm
  · exact left.letGo.trans right.letGo.symm
  · rw [second.logs.streams, second'.logs.streams, first.logs.streams, first'.logs.streams]
    exact perm_append_append_comm _ _ _
  · rw [second.logs.calls, second'.logs.calls, first.logs.calls, first'.logs.calls]
    exact perm_append_append_comm _ _ _
  · have later := first.noted_of_other distinct other own own'
    have later' := first'.noted_of_other distinct (Ne.symm other) own' own
    rw [second.notices, second'.notices, first.notices, first'.notices, later, later']
    exact perm_append_append_comm _ _ _
  · rw [second.calledBack, second'.calledBack, first.calledBack, first'.calledBack]
    exact perm_append_append_comm _ _ _

theorem perform_comm (orderly : Orderly n) (other : i ≠ j) (own : Replica.KeepsIdentity a)
    (own' : Replica.KeepsIdentity b) :
    Agree ((n.perform i a).perform j b) ((n.perform j b).perform i a) := by
  have unique := orderly.unique
  have there := replica?_perform unique i own.id j
  have there' := replica?_perform unique j own'.id i
  simp only [if_neg other, if_neg (Ne.symm other), Option.map_id'] at there there'
  cases found : n.replica? i with
  | none =>
    rw [perform_of_absent found, perform_of_absent (there'.trans found)]
    exact agree_self _
  | some r =>
    cases found' : n.replica? j with
    | none =>
      rw [perform_of_absent found', perform_of_absent (there.trans found')]
      exact agree_self _
    | some s =>
      obtain ⟨-, same⟩ := mem_of_replica? found
      obtain ⟨-, same'⟩ := mem_of_replica? found'
      refine (takesEffects_perform found a).comm orderly.distinct other (fun c mem => ?_)
        (fun c mem => ?_) (takesEffects_perform (there.trans found') b)
        (takesEffects_perform found' b)
        (takesEffects_perform (there'.trans found) a) ?_
      · exact (own.calls r c mem).trans same
      · exact (own'.calls s c mem).trans same'
      · rw [replicas_perform (orderly.perform i a).unique j own'.id,
          replicas_perform unique i own.id,
          replicas_perform (orderly.perform j b).unique i own.id,
          replicas_perform unique j own'.id, List.map_map, List.map_map]
        apply List.map_congr_left
        intro x _
        by_cases self : x.id = i
        · simp [self, other, own.id]
        · by_cases self' : x.id = j <;> simp [self, self', Ne.symm other, own'.id]

theorem follow_comm (orderly : Orderly n) (other : i ≠ j) (moves moves' : List Move) :
    Agree ((n.follow i moves).follow j moves') ((n.follow j moves').follow i moves) := by
  have unique := orderly.unique
  have after := (orderly.perform i (Replica.follow moves)).unique
  have after' := (orderly.perform j (Replica.follow moves')).unique
  rw [follow_eq_perform unique, follow_eq_perform unique, follow_eq_perform after,
    follow_eq_perform after']
  exact perform_comm orderly other (Replica.keepsIdentity_follow moves)
    (Replica.keepsIdentity_follow moves')

/-- Only one replica has moved: its own state, its own entry, and what the record has of it. -/
structure Concerns (id : ReplicaId) (n m : Node) : Prop where
  live : m.live = n.live
  binding : m.binding = n.binding
  held : m.held = n.held
  shut : m.shut = n.shut
  stopping : m.registry.stopping = n.registry.stopping
  issued : m.registry.issued = n.registry.issued
  entries : m.registry.entries = n.registry.entries ∨
    m.registry.entries = n.registry.entries.filter fun e => e.2 ≠ id
  ids : m.replicas.map Replica.id = n.replicas.map Replica.id
  others : ∀ j ≠ id, m.replica? j = n.replica? j
  descriptor : (m.replica? id).map Replica.descriptor = (n.replica? id).map Replica.descriptor
  calls : ∃ cs, m.calls = n.calls ++ cs ∧ ∀ c ∈ cs, c.watched? = some id
  streams : ∃ k, m.streams = n.streams ++ List.replicate k id
  calledBack : ∃ k, m.calledBack = n.calledBack ++ List.replicate k id
  subscriptions : m.subscriptions = n.subscriptions
  requests : m.requests = n.requests
  letGo : m.letGo = n.letGo
  notices : n.notices <+: m.notices

theorem Keyed.nodup_ids (keyed : Keyed n) (orderly : Orderly n) : n.registry.ids.Nodup := by
  apply List.Nodup.map_on _ orderly.distinct.of_map
  intro e he f hf same
  obtain ⟨c, bound, r, mem, id, key⟩ := keyed e he
  obtain ⟨c', bound', s, mem', id', key'⟩ := keyed f hf
  cases bound.symm.trans bound'
  have eq : r = s := orderly.eq_of_id mem mem' (id.trans (same.trans id'.symm))
  exact Prod.ext (key.trans (eq ▸ key'.symm)) same

theorem entries_of_own {r : Registry} (distinct : r.Distinct) (ids : r.ids.Nodup) (live : Bool)
    {calls : List (ReplicaId × Callback)} (own : ∀ c ∈ calls, c.1 = i) :
    (calls.foldl (Registry.releasedBy live) r).entries = r.entries ∨
      (calls.foldl (Registry.releasedBy live) r).entries =
        r.entries.filter fun e => e.2 ≠ i := by
  rw [Registry.foldl_releasedBy_eq distinct]
  by_cases taken : ∃ e ∈ r.entries, live = true ∧ (e.2, Callback.release e.1) ∈ calls
  · obtain ⟨e, mem, up, called⟩ := taken
    right
    apply List.filter_congr
    intro f hf
    by_cases self : f.2 = i
    · have eq : f = e := List.inj_on_of_nodup_map ids hf mem (self.trans (own _ called).symm)
      subst eq
      rw [self] at called
      simp [up, called, self]
    · have uncalled : (f.2, Callback.release f.1) ∉ calls := fun c => self (own _ c)
      simp [self, uncalled]
  · left
    apply List.filter_eq_self.mpr
    intro e mem
    by_contra gone
    exact taken ⟨e, mem, by simpa using gone⟩

theorem concerns_self (id : ReplicaId) (n : Node) : Concerns id n n := by
  refine ⟨rfl, rfl, rfl, rfl, rfl, rfl, .inl rfl, rfl, fun _ _ => rfl, rfl, ⟨[], ?_, nofun⟩,
    ⟨0, ?_⟩, ⟨0, ?_⟩, rfl, rfl, rfl, List.prefix_refl _⟩
  · exact (List.append_nil _).symm
  · exact (List.append_nil _).symm
  · exact (List.append_nil _).symm

theorem concerns_perform (orderly : Orderly n) (keyed : Keyed n) (i : ReplicaId)
    (own : Replica.KeepsIdentity a) : Concerns i n (n.perform i a) := by
  have seen := replica?_perform orderly.unique i own.id
  cases found : n.replica? i with
  | none =>
    rw [perform_of_absent found]
    exact concerns_self i n
  | some r =>
    obtain ⟨acted, logs, registry, calledBack, -⟩ := takesEffects_perform found a
    obtain ⟨-, same⟩ := mem_of_replica? found
    have calls : ∀ c ∈ (a r).2.filterMap Effect.callback?, c.1 = i :=
      fun c mem => (own.calls r c mem).trans same
    refine ⟨acted.live, acted.binding, acted.held, acted.shut, acted.registry.stopping,
      acted.registry.issued, ?_, n.ids_perform i a, ?_, ?_, ⟨_, logs.calls, ?_⟩, ⟨_, logs.streams⟩,
      ⟨_, calledBack.trans (congrArg _ (List.eq_replicate_of_mem ?_))⟩, acted.subscriptions,
      logs.requests, acted.letGo, logs.notices⟩
    · rw [registry]
      exact entries_of_own orderly.distinct (keyed.nodup_ids orderly) n.live calls
    · intro j other
      simpa [other] using seen j
    · rw [seen i, found]
      simp [own.descriptor]
    · intro c mem
      obtain ⟨platform, -, rfl⟩ := List.mem_map.mp mem
      rfl
    · intro x mem
      obtain ⟨c, hc, rfl⟩ := List.mem_map.mp mem
      exact calls c hc

/-- In every state, and in the midst of a step as well, for every replica that was ever made:
however its task goes on, whatever its origin does meanwhile, and also if the task is dropped,
nothing changes but what concerns this replica. The one entry that may go is its own, also if a
later replica has come under its key. So when two replicas move on, it does not matter which of them
comes first. -/
theorem replicas_isolated (actions : List Action) (n : Node) (reached : Shifts (run {} actions) n) :
    (∀ i moves, Concerns i n (n.follow i moves)) ∧
    (∀ i j, i ≠ j → ∀ moves moves',
      Agree ((n.follow i moves).follow j moves') ((n.follow j moves').follow i moves)) := by
  obtain ⟨orderly, keyed⟩ := reached.keeps Keyed.shift (keyed_run actions)
  refine ⟨?_, fun i j other moves moves' => follow_comm orderly other moves moves'⟩
  intro i moves
  rw [follow_eq_perform orderly.unique]
  exact concerns_perform orderly keyed i (Replica.keepsIdentity_follow moves)

/-- A replica has asked its origin when the node is stopped, and another comes under its key. -/
def changeover : List Action :=
  [.attach 0 0 {},
   .start { subscribe := { outcome := .ok true }
            sweep := { candidates := [{ address := "n", uri := "/a/hosting" }] } },
   .turn ⟨1⟩ .origin none, .stop {},
   .start { subscribe := { outcome := .ok true }
            sweep := { candidates := [{ address := "n", uri := "/a/hosting" }] } }]

/-- The stream that the first one gets breaks, and the entry of the second one stays; the second one
hears of a fault, and its entry goes. -/
theorem replicas_isolated_changeover :
    let n := run {} changeover
    let broken : List Move := [.answer .opens, .turn .origin none, .endStream, .turn .origin none]
    let faulty : List Move := [.turn .origin (some .opens), .turn .origin none,
      .push (.fault "noise"), .turn .origin none]
    (n.follow ⟨1⟩ broken).registry.entries = [(⟨"n", "/a/hosting", none⟩, ⟨2⟩)] ∧
    (n.follow ⟨1⟩ broken).replica? ⟨2⟩ = n.replica? ⟨2⟩ ∧
    ((n.follow ⟨1⟩ broken).follow ⟨2⟩ faulty).registry.entries = [] ∧
    Agree ((n.follow ⟨1⟩ broken).follow ⟨2⟩ faulty) ((n.follow ⟨2⟩ faulty).follow ⟨1⟩ broken) := by
  intro n broken faulty
  have isolated := replicas_isolated changeover n (shifts_refl n)
  exact ⟨by decide +kernel, (isolated.1 ⟨1⟩ broken).others ⟨2⟩ (by decide), by decide +kernel,
    isolated.2 ⟨1⟩ ⟨2⟩ (by decide) broken faulty⟩

end Node

end ReplicaHosting

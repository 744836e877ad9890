import ReplicaHosting.Proofs.Node.Order

/-! The registry and the lives of the replicas never drift apart. A replica ends in one of three
ways: by itself, torn down with all others that are hosted, or with its runtime. The first and the
last go through its callback, which takes out the very entry it was made for; the second one empties
the registry. Actions behind the back of the node are left out, and so is the node that nobody
holds: they end replicas, or keep them going, without the registry. -/
namespace ReplicaHosting.Node

structure Aligned (n : Node) : Prop where
  live : n.live = true
  hosted : ∀ e ∈ n.registry.entries, ∃ r ∈ n.replicas, r.id = e.2 ∧ r.lifecycle = .active ∧
    r.callback = some (.release e.1) ∧ r.id ∉ n.calledBack
  gone : ∀ r ∈ n.replicas, r.id ∉ n.registry.ids → r.lifecycle = .terminated
  called : ∀ id ∈ n.calledBack, id ∈ n.replicas.map Replica.id

theorem mem_ids_iff {r : Registry} {id : ReplicaId} :
    id ∈ r.ids ↔ ∃ e ∈ r.entries, e.2 = id := List.mem_map

theorem Aligned.entry {n : Node} (h : Aligned n) (orderly : Orderly n) {r : Replica}
    (mem : r ∈ n.replicas) (ongoing : r.hasEnded = false) :
    ∃ key, (key, r.id) ∈ n.registry.entries ∧ r.callback = some (.release key) ∧
      r.id ∉ n.calledBack := by
  have registered : r.id ∈ n.registry.ids := by
    by_contra absent
    exact (Replica.hasEnded_eq_false_iff r).mp ongoing (h.gone r mem absent)
  obtain ⟨⟨key, id⟩, he, rfl⟩ := mem_ids_iff.mp registered
  obtain ⟨s, mem', same, -, callback, uncalled⟩ := h.hosted _ he
  have eq : s = r := orderly.eq_of_id mem' mem same
  rw [eq] at callback uncalled
  exact ⟨key, he, callback, uncalled⟩

theorem Aligned.active_iff {n : Node} (h : Aligned n) (orderly : Orderly n) {r : Replica}
    (mem : r ∈ n.replicas) : r.lifecycle = .active ↔ r.id ∈ n.registry.ids := by
  constructor
  · intro active
    by_contra absent
    rw [h.gone r mem absent] at active
    cases active
  · intro hosted
    obtain ⟨e, entry, own⟩ := mem_ids_iff.mp hosted
    obtain ⟨s, there, same, active, -⟩ := h.hosted e entry
    have eq : s = r := orderly.eq_of_id there mem (same.trans own)
    exact eq ▸ active

theorem Aligned.keep {n : Node} (h : Aligned n) (orderly : Orderly n) {r : Replica}
    (mem : r ∈ n.replicas) {a : Replica → Replica × List Effect} (same : ∀ x, (a x).1.id = x.id)
    (keeps : r.Keeps (a r)) : Aligned (n.perform r.id a) := by
  have applied := appliesEffects_perform (replica?_of_mem orderly.unique mem) a
  have replicas := replicas_perform orderly.unique r.id same
  have registry : (n.perform r.id a).registry = n.registry := by
    rw [applied.registry, keeps.calls]
    rfl
  have calledBack : (n.perform r.id a).calledBack = n.calledBack := by
    rw [applied.calledBack, keeps.calls]
    exact List.append_nil _
  constructor
  · rw [applied.live]
    exact h.live
  · intro e he
    rw [registry] at he
    obtain ⟨s, mem', id, active, callback, uncalled⟩ := h.hosted e he
    refine ⟨if s.id = r.id then (a s).1 else s, ?_, ?_⟩
    · rw [replicas]
      exact List.mem_map_of_mem mem'
    · rw [calledBack]
      split
      · rename_i self
        have eq : s = r := orderly.eq_of_id mem' mem self
        subst eq
        refine ⟨keeps.id.trans id, keeps.lifecycle.trans active, keeps.callback.trans callback, ?_⟩
        rw [keeps.id]
        exact uncalled
      · exact ⟨id, active, callback, uncalled⟩
  · intro x hx absent
    rw [replicas] at hx
    rw [registry] at absent
    obtain ⟨s, mem', rfl⟩ := List.mem_map.mp hx
    by_cases self : s.id = r.id
    · have eq : s = r := orderly.eq_of_id mem' mem self
      subst eq
      rw [if_pos rfl] at absent ⊢
      rw [keeps.id] at absent
      exact keeps.lifecycle.trans (h.gone s mem absent)
    · rw [if_neg self] at absent ⊢
      exact h.gone s mem' absent
  · intro id hid
    rw [calledBack] at hid
    rw [ids_perform]
    exact h.called id hid

theorem Aligned.released {n : Node} (h : Aligned n) (orderly : Orderly n) {r : Replica}
    (mem : r ∈ n.replicas) {key : DedupKey} (entry : (key, r.id) ∈ n.registry.entries)
    (callback : r.callback = some (.release key)) {a : Replica → Replica × List Effect}
    (ends : r.Ends (a r)) :
    (n.perform r.id a).registry.entries = n.registry.entries.filter (fun e => !(e.1 == key)) ∧
      (n.perform r.id a).calledBack = n.calledBack ++ [r.id] := by
  have applied := appliesEffects_perform (replica?_of_mem orderly.unique mem) a
  have calls : (a r).2.filterMap Effect.callback? = [(r.id, .release key)] := by
    rw [ends.calls, callback]
    rfl
  refine ⟨orderly.entries_of_released h.live mem entry calls, ?_⟩
  rw [applied.calledBack, calls]
  rfl

theorem Aligned.finish {n : Node} (h : Aligned n) (orderly : Orderly n) {r : Replica}
    (mem : r ∈ n.replicas) {a : Replica → Replica × List Effect} (same : ∀ x, (a x).1.id = x.id)
    (ends : r.Ends (a r)) : Aligned (n.perform r.id a) := by
  obtain ⟨key, entry, callback, uncalled⟩ := h.entry orderly mem ends.ongoing
  obtain ⟨entries, calledBack⟩ := h.released orderly mem entry callback ends
  have replicas := replicas_perform orderly.unique r.id same
  constructor
  · exact (n.onlyShrinks_perform r.id a).live.trans h.live
  · intro e he
    rw [entries] at he
    obtain ⟨he, other⟩ := List.mem_filter.mp he
    obtain ⟨s, mem', id, active, callback', uncalled'⟩ := h.hosted e he
    have different : s.id ≠ r.id := by
      intro self
      have eq : s = r := orderly.eq_of_id mem' mem self
      rw [eq, callback] at callback'
      cases callback'
      simp at other
    refine ⟨s, ?_, id, active, callback', ?_⟩
    · rw [replicas]
      exact List.mem_map.mpr ⟨s, mem', if_neg different⟩
    · rw [calledBack]
      intro called
      rcases List.mem_append.mp called with called | called
      · exact uncalled' called
      · exact different (List.mem_singleton.mp called)
  · intro x hx absent
    rw [replicas] at hx
    obtain ⟨s, mem', rfl⟩ := List.mem_map.mp hx
    by_cases self : s.id = r.id
    · have eq : s = r := orderly.eq_of_id mem' mem self
      subst eq
      rw [if_pos rfl]
      exact ends.lifecycle
    · rw [if_neg self] at absent ⊢
      apply h.gone s mem'
      intro registered
      obtain ⟨e, he, id⟩ := mem_ids_iff.mp registered
      -- the only entry that has been taken out is the one of the replica that has ended
      by_cases taken : e.1 = key
      · have eq : e = (key, r.id) := List.inj_on_of_nodup_map orderly.distinct he entry taken
        rw [eq] at id
        exact self id.symm
      · apply absent
        apply mem_ids_iff.mpr
        refine ⟨e, ?_, id⟩
        rw [entries]
        exact List.mem_filter.mpr ⟨he, by simpa using taken⟩
  · intro id hid
    rw [calledBack] at hid
    rw [ids_perform]
    rcases List.mem_append.mp hid with hid | hid
    · exact h.called id hid
    · rw [List.mem_singleton.mp hid]
      exact List.mem_map_of_mem mem

theorem Aligned.act {n : Node} (h : Aligned n) (orderly : Orderly n) (id : ReplicaId)
    {a : Replica → Replica × List Effect} (own : Replica.Act a) : Aligned (n.perform id a) := by
  cases found : n.replica? id with
  | none =>
    rw [perform_of_absent found]
    exact h
  | some r =>
    obtain ⟨mem, rfl⟩ := mem_of_replica? found
    rcases own.passes r with keeps | ends
    · exact h.keep orderly mem (fun x => (own.passes x).id) keeps
    · exact h.finish orderly mem (fun x => (own.passes x).id) ends

theorem entries_takeIn (n : Node) {b : Binding} {d : Descriptor} {id : ReplicaId}
    {registry : Registry}
    (admitted : n.registry.enroll (b.config.dedupKey d) = (.admitted id, registry)) :
    (n.takeIn b d id registry).registry.entries =
      n.registry.entries ++ [(b.config.dedupKey d, id)] := by
  obtain ⟨registry', -⟩ := (n.enlist b d id registry).calledBack_perform id
    (Replica.calls_activate b.platform b.runtime)
  rw [takeIn, registry']
  exact congrArg Registry.entries (Registry.enroll_admitted admitted).2.2.2

theorem Aligned.takeIn {n : Node} (h : Aligned n) (orderly : Orderly n) {b : Binding}
    {d : Descriptor} {id : ReplicaId} {registry : Registry}
    (admitted : n.registry.enroll (b.config.dedupKey d) = (.admitted id, registry)) :
    Aligned (n.takeIn b d id registry) := by
  have replicas := orderly.replicas_takeIn h.live admitted
  have fresh := orderly.fresh h.live
  have entries := n.entries_takeIn admitted
  have called : (n.takeIn b d id registry).calledBack = n.calledBack :=
    (calledBack_perform _ id (Replica.calls_activate b.platform b.runtime)).2
  obtain ⟨-, -, rfl, -⟩ := Registry.enroll_admitted admitted
  constructor
  · rw [Node.takeIn, (onlyShrinks_perform _ _ _).live]
    exact h.live
  · intro e he
    rw [entries] at he
    rw [replicas, called, Replica.activate_of_isFresh rfl]
    rcases List.mem_append.mp he with kept | new
    · obtain ⟨r, mem, rest⟩ := h.hosted e kept
      exact ⟨r, List.mem_append_left _ mem, rest⟩
    · -- nobody has borne the number of the newcomer before, so nobody has been called for it
      rw [List.mem_singleton.mp new]
      exact ⟨_, List.mem_append_right _ (List.mem_singleton.mpr rfl), rfl, rfl, rfl,
        fun early => fresh (h.called _ early)⟩
  · intro r mem absent
    simp only [Registry.ids, entries, List.map_append, List.mem_append, not_or] at absent
    rw [replicas] at mem
    rcases List.mem_append.mp mem with old | new
    · exact h.gone r old absent.1
    · rw [List.mem_singleton.mp new] at absent
      exact absurd (List.mem_singleton.mpr rfl) absent.2
  · intro x hx
    rw [called] at hx
    rw [replicas, List.map_append]
    exact List.mem_append_left _ (h.called x hx)

theorem Aligned.drain {n : Node} (h : Aligned n) (orderly : Orderly n) : Aligned n.drain := by
  have replicas : n.drain.replicas =
      n.replicas.map fun x => if x.id ∈ n.registry.ids then x.teardown.2.1 else x :=
    replicas_teardownAll (n := { n with registry := n.registry.clear }) orderly.unique _
  obtain ⟨registry, calledBack⟩ :=
    calledBack_teardownAll { n with registry := n.registry.clear } n.registry.ids
  constructor
  · rw [Node.drain, (onlyShrinks_teardownAll _ _).live]
    exact h.live
  · intro e he
    rw [Node.drain, registry] at he
    cases he
  · intro x hx _
    rw [replicas] at hx
    obtain ⟨r, mem, rfl⟩ := List.mem_map.mp hx
    by_cases hosted : r.id ∈ n.registry.ids
    · rw [if_pos hosted]
      exact r.lifecycle_teardown
    · rw [if_neg hosted]
      exact h.gone r mem hosted
  · intro x hx
    rw [Node.drain, calledBack] at hx
    rw [Node.drain, ids_teardownAll]
    exact h.called x hx

theorem Aligned.shift {n m : Node} (s : Shift n m) (h : Orderly n ∧ Aligned n) :
    Orderly m ∧ Aligned m := by
  refine ⟨h.1.shift s, ?_⟩
  obtain ⟨orderly, aligned⟩ := h
  cases s with
  | takeIn b d id registry live tagged bound admitted => exact aligned.takeIn orderly admitted
  | act id own => exact aligned.act orderly id own
  | drain => exact aligned.drain orderly
  | _ => exact ⟨aligned.live, aligned.hosted, aligned.gone, aligned.called⟩

theorem aligned_initial : Aligned {} := by
  constructor
  · rfl
  · intro e he
    cases he
  · intro r mem
    cases mem
  · intro id called
    cases called

theorem aligned_run {actions : List Action} (regular : ∀ a ∈ actions, a.isRegular = true) :
    Orderly (run {} actions) ∧ Aligned (run {} actions) := by
  apply (shifts_run {} actions regular).keeps Aligned.shift
  exact ⟨orderly_initial, aligned_initial⟩

theorem Orderly.entries_dropTask_takeIn {n : Node} (h : Orderly n) (live : n.live = true)
    {b : Binding} {d : Descriptor} {id : ReplicaId} {registry : Registry}
    (admitted : n.registry.enroll (b.config.dedupKey d) = (.admitted id, registry)) :
    ((n.takeIn b d id registry).perform id Replica.dropTask).registry.entries =
      n.registry.entries := by
  have live' : (n.takeIn b d id registry).live = true :=
    (onlyShrinks_perform _ id _).live.trans live
  have orderly : Orderly (n.takeIn b d id registry) := (h.enlist live admitted b d).perform id _
  have entries := n.entries_takeIn admitted
  have entry : (b.config.dedupKey d, id) ∈ (n.takeIn b d id registry).registry.entries :=
    entries ▸ List.mem_append_right _ (List.mem_singleton.mpr rfl)
  obtain ⟨r, mem, rfl, callback, ongoing⟩ : ∃ r ∈ (n.takeIn b d id registry).replicas,
      r.id = id ∧ r.callback = some (.release (b.config.dedupKey d)) ∧ r.hasEnded = false := by
    rw [h.replicas_takeIn live admitted, Replica.activate_of_isFresh rfl]
    exact ⟨_, List.mem_append_right _ (List.mem_singleton.mpr rfl), rfl, rfl, rfl⟩
  have calls : r.dropTask.2.filterMap Effect.callback? =
      [(r.id, .release (b.config.dedupKey d))] := by
    rw [(Replica.ends_dropTask ongoing).calls, callback]
    rfl
  have free := (Registry.find?_eq_none_iff _ _).mp (Registry.enroll_admitted admitted).2.1
  have others : ∀ e ∈ n.registry.entries, (!(e.1 == b.config.dedupKey d)) = true := by
    intro e he
    have different : e.1 ≠ b.config.dedupKey d :=
      fun same => free (same ▸ List.mem_map_of_mem he)
    simpa using different
  rw [orderly.entries_of_released live' mem entry calls, entries, List.filter_append,
    List.filter_eq_self.mpr others]
  simp

theorem Orderly.candidate_of_shut {n : Node} (h : Orderly n) {b : Binding}
    (bound : n.binding = some b) (off : b.runtime ∈ n.shut) (d : Descriptor) :
    (n.onCandidate d).registry.entries = n.registry.entries := by
  rcases onCandidate_cases d n with same | ⟨x, said⟩ |
    ⟨b', id, registry, live, -, bound', admitted, taken⟩
  · rw [same]
  · rw [said]
    rfl
  · cases bound.symm.trans bound'
    have fresh := h.replica?_enlist live admitted
    have off' : b.runtime ∈ (n.takeIn b d id registry).shut := by
      rw [Node.takeIn, (onlyShrinks_perform _ _ _).shut]
      exact off
    have lost : n.onCandidate d = (n.takeIn b d id registry).perform id Replica.dropTask := by
      rw [taken, Node.activate, fresh]
      exact if_pos ⟨rfl, off'⟩
    rw [lost]
    exact h.entries_dropTask_takeIn live admitted

/-- Between any two steps, whatever is hosted is active and has its callback for its own entry still
to make, and whatever has been hosted before is terminated. Candidates for a runtime that is shut
down leave nothing behind, wherever in a step they come. -/
theorem lifecycles_agree (actions : List Action)
    (regular : ∀ a ∈ actions, a.isRegular = true) :
    let n := run {} actions
    n.replicas.map Replica.id = ((List.range n.registry.issued).map fun k => ⟨k + 1⟩) ∧
    (∀ e ∈ n.registry.entries, ∃ r, n.replica? e.2 = some r ∧ r.lifecycle = .active ∧
      r.callback = some (.release e.1) ∧ e.2 ∉ n.calledBack) ∧
    (∀ r ∈ n.replicas, r.id ∉ n.registry.ids → r.lifecycle = .terminated) ∧
    (∀ m, Shifts n m → ∀ b, m.binding = some b → b.runtime ∈ m.shut →
      ∀ d, (m.onCandidate d).registry.entries = m.registry.entries) := by
  intro n
  obtain ⟨orderly, aligned⟩ : Orderly n ∧ Aligned n := aligned_run regular
  refine ⟨orderly.numbered aligned.live, ?_, aligned.gone, ?_⟩
  · intro e he
    obtain ⟨r, mem, same, active, callback, uncalled⟩ := aligned.hosted e he
    rw [← same]
    exact ⟨r, replica?_of_mem orderly.unique mem, active, callback, uncalled⟩
  · intro m shifts b bound off d
    obtain ⟨orderly', -⟩ := shifts.keeps Aligned.shift ⟨orderly, aligned⟩
    exact orderly'.candidate_of_shut bound off d

/-- A replica ends by a fault, and the next one comes under its key. -/
def succession : List Action :=
  [.attach 0 0 {},
   .start { subscribe := { outcome := .ok true }
            sweep := { candidates := [{ address := "n", uri := "/a/hosting" }] } },
   .turn ⟨1⟩ .origin (some .opens), .turn ⟨1⟩ .origin none, .push ⟨1⟩ (.fault "lost"),
   .turn ⟨1⟩ .origin none, .candidate 0 { address := "n", uri := "/a/hosting" }]

theorem lifecycles_agree_succession :
    (∀ a ∈ succession, a.isRegular = true) ∧
    (run {} succession).registry.entries = [(⟨"n", "/a/hosting", none⟩, ⟨2⟩)] ∧
    (run {} succession).calledBack = [⟨1⟩] ∧
    (∃ r, (run {} succession).replica? ⟨2⟩ = some r ∧ r.lifecycle = .active) ∧
    (∀ r ∈ (run {} succession).replicas, r.id ∉ (run {} succession).registry.ids →
      r.lifecycle = .terminated) := by
  have regular : ∀ a ∈ succession, a.isRegular = true := by decide
  have entries : (run {} succession).registry.entries = [(⟨"n", "/a/hosting", none⟩, ⟨2⟩)] := by
    decide +kernel
  have calledBack : (run {} succession).calledBack = [⟨1⟩] := by decide +kernel
  obtain ⟨-, hosted, gone, -⟩ := lifecycles_agree succession regular
  rw [entries] at hosted
  obtain ⟨r, found, active, -⟩ := hosted _ (List.mem_singleton.mpr rfl)
  exact ⟨regular, entries, calledBack, ⟨r, found, active⟩, gone⟩

end ReplicaHosting.Node

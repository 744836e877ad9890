import ReplicaHosting.Proofs.Node.Gathering

/-! What is left of a start whose subscription fails. Events may come in before the channel answers,
and by then the node is as open as it was before. What they bring is hosted, and nobody takes it
back. -/
namespace ReplicaHosting.Node

variable {n m : Node} {b : Binding}

section Heard

variable {P : Node → Prop} (said : ∀ {n : Node} (x : Notice), P n → P (n.say x))
  (called : ∀ {n : Node} (c : Call), P n → P (n.call c))
  (accepted : ∀ {n : Node}, P n → P { n with requests := n.requests + 1 })
  (taken : ∀ {n : Node} (d : Descriptor), P n → P (n.onCandidate d))

include said called accepted taken

theorem onPresence_keeps (h : P n) (x : Beacon) : P (n.onPresence x) := by
  have candidates (ds : List Descriptor) {n : Node} (h : P n) : P (n.onCandidates ds) := by
    induction ds generalizing n with
    | nil => exact h
    | cons d ds ih => exact ih (taken d h)
  unfold onPresence
  dsimp only
  split
  · exact h
  split
  · exact said _ h
  split
  · split
    · exact h
    · rename_i b _
      have asked : P (((n.say (.announcement x.event)).say
          (.discoveryRequested (some x.event.address) b.query)).call
          (.discover b.platform (some x.event.address) b.query b.config.connectivity)) :=
        called _ (said _ (said _ h))
      have heard : P ((n.say (.announcement x.event)).requestDiscovery (some x.event.address) b
          x.reply) := by
        unfold requestDiscovery
        dsimp only
        split
        · exact candidates _ asked
        · exact accepted (candidates _ asked)
      split
      · exact heard
      · exact said _ heard
  · exact said _ h
  · exact said _ h

theorem onBeacons_keeps (h : P n) (xs : List Beacon) : P (n.onBeacons xs) := by
  induction xs generalizing n with
  | nil => exact h
  | cons x xs ih => exact ih (onPresence_keeps said called accepted taken h x)

end Heard

theorem Orderly.beacons_of_shut (orderly : Orderly n) (bound : n.binding = some b)
    (off : b.runtime ∈ n.shut) (xs : List Beacon) :
    (n.onBeacons xs).registry.entries = n.registry.entries := by
  have kept : Orderly (n.onBeacons xs) ∧ (n.onBeacons xs).binding = some b ∧
      b.runtime ∈ (n.onBeacons xs).shut ∧
      (n.onBeacons xs).registry.entries = n.registry.entries := by
    apply onBeacons_keeps (P := fun m => Orderly m ∧ m.binding = some b ∧ b.runtime ∈ m.shut ∧
      m.registry.entries = n.registry.entries)
    · rintro m x ⟨books, rest⟩
      exact ⟨⟨books.unique, books.numbered, books.distinct⟩, rest⟩
    · rintro m c ⟨books, rest⟩
      exact ⟨⟨books.unique, books.numbered, books.distinct⟩, rest⟩
    · rintro m ⟨books, rest⟩
      exact ⟨⟨books.unique, books.numbered, books.distinct⟩, rest⟩
    · rintro m d ⟨books, bound, off, same⟩
      have reactions := reactions_onCandidate d m
      refine ⟨reactions.shifts.keeps Orderly.shift books, reactions.sameSession.binding.trans bound,
        ?_, (books.candidate_of_shut bound off d).trans same⟩
      rw [reactions.sameSession.shut]
      exact off
    · exact ⟨orderly, bound, off, rfl⟩
  exact kept.2.2.2

theorem Ready.entries_onBeacons (h : Ready b n) (books : Orderly n ∧ Keyed n) (xs : List Beacon) :
    n.registry.entries <+: (n.onBeacons xs).registry.entries ∧
      ((n.onBeacons xs).registry.entries = n.registry.entries ↔
        ∀ d ∈ xs.flatMap Beacon.brings, ¬ Welcomes n d) := by
  have reactions := reactions_onBeacons xs n
  have books' := reactions.books books
  obtain ⟨news, grown⟩ := reactions.grows books.1 h.up
  have entries : n.registry.entries <+: (n.onBeacons xs).registry.entries :=
    grown.entries ▸ List.prefix_append _ _
  have shown : n.shown <+: (n.onBeacons xs).shown := by
    rw [h.shown_onBeacons books xs]
    exact prefix_foldl_gather _ _
  have before := congrArg List.length (books.2.map_shown books.1 h.bound)
  have after := congrArg List.length
    (books'.2.map_shown books'.1 (h.of_sameSession reactions.sameSession).bound)
  simp only [List.length_map] at before after
  refine ⟨entries, ?_⟩
  have unmoved : (n.onBeacons xs).registry.entries = n.registry.entries ↔
      (n.onBeacons xs).shown = n.shown := by
    constructor
    · intro same
      exact (shown.eq_of_length (by rw [before, after, same])).symm
    · intro same
      exact (entries.eq_of_length (by rw [← before, ← after, same])).symm
  rw [unmoved, h.shown_onBeacons books xs, gathers, foldl_gather_eq_self_iff]
  simp only [h.welcomes_iff]

theorem entries_subscribing (live : n.live = true) (books : Orderly n ∧ Keyed n)
    (bound : n.binding = some b) (reply : SubscribeReply) :
    n.registry.entries <+: (n.subscribing b reply).registry.entries ∧
      ((n.subscribing b reply).registry.entries = n.registry.entries ↔
        b.runtime ∈ n.shut ∨ ∀ d ∈ reply.beacons.flatMap Beacon.brings, ¬ Welcomes n d) := by
  have calling := books.1.shift (shift_asking b n)
  cases closed : n.registry.stopping with
  | true =>
    -- a closed node takes notice of events and no more, and welcomes nobody
    have deaf (d : Descriptor) : ¬ Welcomes n d := fun welcome => by
      cases closed.symm.trans welcome.opened
    obtain ⟨xs, noted⟩ := addsNotices_onBeacons (n := n.call (asking b)) closed reply.beacons
    have same : (n.subscribing b reply).registry.entries = n.registry.entries := by
      rw [subscribing, noted]
      rfl
    exact ⟨same ▸ List.prefix_refl _, iff_of_true same (.inr fun d _ => deaf d)⟩
  | false =>
    by_cases off : b.runtime ∈ n.shut
    · have same : (n.subscribing b reply).registry.entries = n.registry.entries :=
        calling.beacons_of_shut bound off reply.beacons
      exact ⟨same ▸ List.prefix_refl _, iff_of_true same (.inl off)⟩
    · have ready : Ready b n := ⟨live, bound, closed, off⟩
      have asking : Ready b (n.call (asking b)) := ⟨live, bound, closed, off⟩
      have same (d : Descriptor) : Welcomes (n.call (Node.asking b)) d ↔ Welcomes n d :=
        (asking.welcomes_iff d).trans (ready.welcomes_iff d).symm
      obtain ⟨grown, unmoved⟩ := asking.entries_onBeacons ⟨calling, books.2⟩ reply.beacons
      simp only [same] at unmoved
      rw [or_iff_right off]
      exact ⟨grown, unmoved⟩

/-- A start whose subscription fails reports that failure and loses nothing that was hosted. It
leaves the registry empty or as it was exactly if no event that came in before the failure brought
a candidate that was welcome, or the runtime has been shut down, so that nobody stays. -/
theorem refused_start_grows (actions : List Action) :
    let n := run {} actions
    n.live = true → ∀ b, n.binding = some b →
      ∀ reply e, reply.subscribe.outcome = .error e →
        let m := (n.start reply).2
        (n.start reply).1 = some e ∧ n.registry.entries <+: m.registry.entries ∧
        (m.registry.entries = [] ∨ m.registry.entries = n.registry.entries ↔
          b.runtime ∈ n.shut ∨
            ∀ d ∈ reply.subscribe.beacons.flatMap Beacon.brings, ¬ Welcomes n d) := by
  intro n live b bound reply e failed
  have books : Orderly n ∧ Keyed n := keyed_run actions
  have start : n.start reply =
      (some e, (n.subscribing b reply.subscribe).say (.subscriptionFailed e)) := by
    simp only [Node.start, bound, failed]
    rfl
  obtain ⟨grown, unmoved⟩ := entries_subscribing live books bound reply.subscribe
  have lost : (n.subscribing b reply.subscribe).registry.entries = [] →
      (n.subscribing b reply.subscribe).registry.entries = n.registry.entries := by
    intro empty
    rw [empty] at grown ⊢
    exact (List.prefix_nil.mp grown).symm
  rw [start]
  exact ⟨rfl, grown, (or_iff_right_of_imp lost).trans unmoved⟩

/-- The channel delivers an announcement, discovery finds something for it, and then the
subscription fails. -/
def earlyCandidate : StartReply :=
  { subscribe := { beacons := [{ event := { result := .ok, address := "n" }
                                 reply :=
                                   { candidates := [{ address := "n", uri := "/a/hosting" }] } }]
                   outcome := .error (.platform 29 "adapter down") } }

theorem refused_start_grows_early_candidate :
    let n := run {} [.attach 0 0 {}]
    (n.start earlyCandidate).1 = some (.platform 29 "adapter down") ∧
      ∃ d ∈ earlyCandidate.subscribe.beacons.flatMap Beacon.brings, Welcomes n d := by
  intro n
  have live : n.live = true := by decide +kernel
  have bound : n.binding = some ⟨0, 0, {}, Config.discoveryQuery {}⟩ := by decide +kernel
  obtain ⟨outcome, -, unmoved⟩ :=
    refused_start_grows [.attach 0 0 {}] live _ bound earlyCandidate _ rfl
  refine ⟨outcome, ?_⟩
  by_contra unwelcome
  simp only [not_exists, not_and] at unwelcome
  rcases unmoved.mpr (.inr unwelcome) with empty | same
  · exact absurd empty (by decide +kernel)
  · exact absurd same (by decide +kernel)

/-- So such a start may leave one more replica behind than there was before. -/
theorem refused_start_admits :
    ¬ ∀ actions, (run {} actions).live = true →
      ∀ reply e, reply.subscribe.outcome = .error e →
        let n := run {} actions
        let m := (n.start reply).2
        m.registry.entries = [] ∨ m.registry.entries = n.registry.entries := by
  intro unmoved
  rcases unmoved [.attach 0 0 {}] (by decide +kernel) earlyCandidate _ rfl with empty | same
  · exact absurd empty (by decide +kernel)
  · exact absurd same (by decide +kernel)

end ReplicaHosting.Node

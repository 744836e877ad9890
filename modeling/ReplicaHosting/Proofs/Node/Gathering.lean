import Mathlib.Data.List.Dedup
import Mathlib.Data.List.Induction
import ReplicaHosting.Proofs.Node.Candidate
import ReplicaHosting.Proofs.Node.Follow

/-! What comes of many candidates in a row, as long as nobody who is hosted ends meanwhile. Of all
that are tagged the first one under each key is hosted, so the keys do not depend on the order in
which the candidates come, nor on how often one of them comes, nor on the callbacks they come
through. -/
namespace ReplicaHosting

section Gather

variable {α κ : Type} [DecidableEq κ] {key : α → κ} {p : α → Bool}

def gather (key : α → κ) (p : α → Bool) (seen : List α) (x : α) : List α :=
  if p x ∧ ∀ y ∈ seen, key y ≠ key x then seen ++ [x] else seen

/-- What has been gathered out of a list: the first of what is wanted under each key. -/
structure Gathered (key : α → κ) (p : α → Bool) (xs seen : List α) : Prop where
  distinct : (seen.map key).Nodup
  all : ∀ x ∈ xs, p x → key x ∈ seen.map key
  first : ∀ y ∈ seen, (xs.filter p).find? (fun x => key x == key y) = some y

theorem Gathered.mem_iff {xs seen : List α} (h : Gathered key p xs seen) (k : κ) :
    k ∈ seen.map key ↔ ∃ x ∈ xs.filter p, key x = k := by
  constructor
  · intro mem
    obtain ⟨y, there, rfl⟩ := List.mem_map.mp mem
    exact ⟨y, List.mem_of_find?_eq_some (h.first y there), rfl⟩
  · rintro ⟨x, mem, rfl⟩
    obtain ⟨mem, wanted⟩ := List.mem_filter.mp mem
    exact h.all x mem wanted

theorem Gathered.length_eq {xs seen : List α} (h : Gathered key p xs seen) :
    seen.length = ((xs.filter p).map key).dedup.length := by
  have same : (seen.map key).Perm ((xs.filter p).map key).dedup := by
    rw [List.perm_ext_iff_of_nodup h.distinct (List.nodup_dedup _)]
    intro k
    rw [h.mem_iff, List.mem_dedup, List.mem_map]
  simpa using same.length_eq

theorem Gathered.gather {xs seen : List α} (h : Gathered key p xs seen) (x : α) :
    Gathered key p (xs ++ [x]) (gather key p seen x) := by
  have old (y : α) (mem : y ∈ seen) :
      ((xs ++ [x]).filter p).find? (fun z => key z == key y) = some y := by
    rw [List.filter_append, List.find?_append, h.first y mem, Option.some_or]
  unfold ReplicaHosting.gather
  split
  · rename_i new
    obtain ⟨wanted, free⟩ := new
    have absent : key x ∉ seen.map key := by
      rw [List.mem_map]
      rintro ⟨y, mem, same⟩
      exact free y mem same
    refine ⟨?_, ?_, ?_⟩
    · rw [List.map_append, List.map_singleton, ← List.concat_eq_append]
      exact h.distinct.concat absent
    · intro z mem wanted
      rw [List.map_append]
      rcases List.mem_append.mp mem with before | last
      · exact List.mem_append_left _ (h.all z before wanted)
      · rw [List.mem_singleton.mp last]
        exact List.mem_append_right _ (List.mem_singleton.mpr rfl)
    · intro y mem
      rcases List.mem_append.mp mem with before | last
      · exact old y before
      · rw [List.mem_singleton.mp last]
        have unseen : (xs.filter p).find? (fun z => key z == key x) = none := by
          rw [List.find?_eq_none]
          intro z there same
          obtain ⟨there, wanted⟩ := List.mem_filter.mp there
          exact absent (beq_iff_eq.mp same ▸ h.all z there wanted)
        rw [List.filter_append, List.find?_append, unseen]
        simp [wanted]
  · rename_i known
    refine ⟨h.distinct, ?_, old⟩
    intro z mem wanted
    rcases List.mem_append.mp mem with before | last
    · exact h.all z before wanted
    · rw [List.mem_singleton.mp last] at wanted ⊢
      by_contra absent
      apply known
      refine ⟨wanted, ?_⟩
      intro y there same
      exact absent (same ▸ List.mem_map_of_mem there)

theorem gathered_foldl (key : α → κ) (p : α → Bool) (xs : List α) :
    Gathered key p xs (xs.foldl (gather key p) []) := by
  induction xs using List.reverseRecOn with
  | nil => exact ⟨List.nodup_nil, nofun, nofun⟩
  | append_singleton xs x ih =>
    rw [List.foldl_append]
    exact ih.gather x

theorem prefix_foldl_gather (seen xs : List α) : seen <+: xs.foldl (gather key p) seen := by
  induction xs generalizing seen with
  | nil => exact List.prefix_refl seen
  | cons x xs ih =>
    have first : seen <+: gather key p seen x := by
      unfold gather
      split
      · exact List.prefix_append seen [x]
      · exact List.prefix_refl seen
    exact first.trans (ih _)

theorem foldl_gather_eq_self_iff (seen xs : List α) :
    xs.foldl (gather key p) seen = seen ↔ ∀ x ∈ xs, ¬ (p x ∧ ∀ y ∈ seen, key y ≠ key x) := by
  induction xs with
  | nil => simp
  | cons x xs ih =>
    rw [List.forall_mem_cons, ← ih, List.foldl_cons]
    by_cases new : p x ∧ ∀ y ∈ seen, key y ≠ key x
    · have added : gather key p seen x = seen ++ [x] := if_pos new
      have grown : seen ++ [x] <+: xs.foldl (gather key p) (seen ++ [x]) :=
        prefix_foldl_gather _ xs
      rw [added]
      constructor
      · intro same
        rw [same] at grown
        exact absurd grown.length_le (by simp)
      · exact fun both => absurd new both.1
    · have kept : gather key p seen x = seen := if_neg new
      rw [kept]
      exact (and_iff_right new).symm

end Gather

def Beacon.brings (x : Beacon) : List Descriptor :=
  if x.event.result.classify = .announcing then x.reply.candidates else []

namespace Node

variable {n m : Node} {b : Binding}

/-- A node under a binding that takes candidates in, and whose replicas run. -/
structure Ready (b : Binding) (n : Node) : Prop where
  live : n.live = true
  bound : n.binding = some b
  opened : n.registry.stopping = false
  running : b.runtime ∉ n.shut

theorem Ready.of_sameSession (h : Ready b n) (s : SameSession n m) : Ready b m :=
  ⟨s.live.trans h.live, s.binding.trans h.bound, s.stopping.trans h.opened, by
    rw [s.shut]
    exact h.running⟩

theorem Ready.up (h : Ready b n) : RuntimeUp n := by
  intro b' bound
  cases h.bound.symm.trans bound
  exact h.running

def shown (n : Node) : List Descriptor := n.hosted.map Replica.descriptor

def gathers (b : Binding) (n : Node) (ds : List Descriptor) : List Descriptor :=
  ds.foldl (gather b.config.dedupKey Descriptor.isHostable) n.shown

theorem Ready.welcomes_iff (h : Ready b n) (d : Descriptor) :
    Welcomes n d ↔
      d.isHostable = true ∧ ∀ e ∈ n.shown, b.config.dedupKey e ≠ b.config.dedupKey d := by
  simp only [shown, List.mem_map, forall_exists_index, and_imp, forall_apply_eq_imp_iff₂, ne_eq,
    Config.dedupKey_eq_iff, Descriptor.isHostable, isHostable_iff]
  constructor
  · rintro ⟨tagged, -, b', bound, wanted⟩
    cases h.bound.symm.trans bound
    exact ⟨tagged, wanted⟩
  · rintro ⟨tagged, wanted⟩
    exact ⟨tagged, h.opened, b, h.bound, wanted⟩

theorem Ready.shown_onCandidate (h : Ready b n) (books : Orderly n ∧ Keyed n) (d : Descriptor) :
    (n.onCandidate d).shown = n.gathers b [d] := by
  have welcomes := h.welcomes_iff d
  change _ = gather b.config.dedupKey Descriptor.isHostable n.shown d
  unfold gather
  by_cases welcome : Welcomes n d
  · obtain ⟨r, taken⟩ := onCandidate_takesIn books.1 books.2 h.live h.up welcome
    rw [if_pos (welcomes.mp welcome), shown, taken.hosted, List.map_append, List.map_singleton,
      taken.descriptor]
    rfl
  · obtain ⟨xs, noted⟩ := onCandidate_addsNotices books.1 books.2 welcome
    rw [if_neg fun wanted => welcome (welcomes.mpr wanted), noted]
    rfl

theorem Reactions.books (h : Reactions n m) (books : Orderly n ∧ Keyed n) : Orderly m ∧ Keyed m :=
  h.shifts.keeps Keyed.shift books

theorem Ready.shown_onCandidates (h : Ready b n) (books : Orderly n ∧ Keyed n)
    (ds : List Descriptor) : (n.onCandidates ds).shown = n.gathers b ds := by
  induction ds generalizing n with
  | nil => rfl
  | cons d ds ih =>
    have reactions := reactions_onCandidate d n
    have rest := ih (h.of_sameSession reactions.sameSession) (reactions.books books)
    rw [gathers, h.shown_onCandidate books d] at rest
    exact rest

theorem Ready.shown_requestDiscovery (h : Ready b n) (books : Orderly n ∧ Keyed n)
    (host : Option String) (reply : DiscoveryReply) :
    (n.requestDiscovery host b reply).shown = n.gathers b reply.candidates := by
  have asking : Reactions n ((n.say (.discoveryRequested host b.query)).call
      (.discover b.platform host b.query b.config.connectivity)) :=
    (Reaction.say n _).once.tail (Reaction.ask _ b host)
  have delivered := (h.of_sameSession asking.sameSession).shown_onCandidates (asking.books books)
    reply.candidates
  unfold requestDiscovery
  dsimp only
  split
  · exact delivered
  · exact delivered

theorem Ready.shown_onPresence (h : Ready b n) (books : Orderly n ∧ Keyed n) (x : Beacon) :
    (n.onPresence x).shown = n.gathers b x.brings := by
  have told : Reactions n (n.say (.announcement x.event)) := (Reaction.say n _).once
  have asked := (h.of_sameSession told.sameSession).shown_requestDiscovery (told.books books)
    (some x.event.address) x.reply
  unfold onPresence Beacon.brings
  simp only [h.live, h.opened, h.bound, Bool.not_true, Bool.false_eq_true, if_false]
  cases x.event.result.classify with
  | departure => rfl
  | ignored => rfl
  | announcing =>
    dsimp only
    split
    · exact asked
    · exact asked

theorem Ready.shown_onBeacons (h : Ready b n) (books : Orderly n ∧ Keyed n) (xs : List Beacon) :
    (n.onBeacons xs).shown = n.gathers b (xs.flatMap Beacon.brings) := by
  induction xs generalizing n with
  | nil => rfl
  | cons x xs ih =>
    have reactions := reactions_onPresence x n
    have rest := ih (h.of_sameSession reactions.sameSession) (reactions.books books)
    rw [gathers, h.shown_onPresence books x, gathers, ← List.foldl_append] at rest
    exact rest

theorem shown_perform (unique : (n.replicas.map Replica.id).Nodup) (id : ReplicaId)
    {act : Replica → Replica × List Effect}
    (keep : ∀ r, (act r).1.id = r.id ∧ (act r).1.descriptor = r.descriptor)
    (registry : (n.perform id act).registry = n.registry) :
    (n.perform id act).shown = n.shown := by
  have found := replica?_perform (n := n) unique id fun r => (keep r).1
  simp only [shown, hosted, List.map_filterMap, registry, found, Option.map_map]
  congr 1
  funext j
  congr 1
  funext r
  rw [Function.comp_apply]
  split
  · exact (keep r).2
  · rfl

def ended (n : Node) : List ReplicaId := (n.replicas.filter Replica.hasEnded).map Replica.id

theorem mem_ended {id : ReplicaId} :
    id ∈ n.ended ↔ ∃ r ∈ n.replicas, r.hasEnded = true ∧ r.id = id := by
  simp only [ended, List.mem_map, List.mem_filter, and_assoc]

theorem ended_activate (unique : (n.replicas.map Replica.id).Nodup) (id : ReplicaId)
    (platform runtime : Nat) :
    (n.perform id fun r => (r.activate platform runtime).2).ended = n.ended := by
  have keep (r : Replica) := (Replica.activate_same platform runtime r).1
  have finished (r : Replica) : (r.activate platform runtime).2.1.hasEnded = r.hasEnded := by
    cases fresh : r.isFresh with
    | true =>
      rw [Replica.activate_of_isFresh fresh, Replica.hasEnded, Replica.hasEnded,
        (Replica.isFresh_eq_true_iff r).mp fresh]
      rfl
    | false => rw [Replica.activate_of_not_isFresh fresh]
  rw [ended, replicas_perform unique id keep, List.filter_map, List.map_map]
  congr 1
  · funext r
    rw [Function.comp_apply]
    split
    · exact keep r
    · rfl
  · congr 1
    funext r
    rw [Function.comp_apply]
    split
    · exact finished r
    · rfl

theorem Orderly.shown_act (orderly : Orderly n) (id : ReplicaId)
    {act : Replica → Replica × List Effect} (passes : ∀ r, Replica.Passes r (act r))
    (lasting : (n.perform id act).ended = n.ended) : (n.perform id act).shown = n.shown := by
  have keep (r : Replica) := And.intro (passes r).id (passes r).descriptor
  apply shown_perform orderly.unique id keep
  cases found : n.replica? id with
  | none => rw [perform_of_absent found]
  | some r =>
    obtain ⟨mem, rfl⟩ := mem_of_replica? found
    rcases passes r with keeps | ends
    · rw [(appliesEffects_perform found act).registry, keeps.calls]
      rfl
    · -- this is ruled out: the replica would be among those that have ended, and it was not before
      have after : r.id ∈ (n.perform r.id act).ended := by
        rw [mem_ended, replicas_perform orderly.unique r.id fun r => (keep r).1]
        exact ⟨_, List.mem_map_of_mem mem, by simpa using ends.hasEnded, by simp [ends.id]⟩
      obtain ⟨s, there, finished, same⟩ := mem_ended.mp (lasting ▸ after)
      rw [orderly.eq_of_id there mem same, ends.ongoing] at finished
      cases finished

theorem Orderly.shown_activate (orderly : Orderly n) (id : ReplicaId) (platform runtime : Nat)
    (lasting : (n.activate id platform runtime).ended = n.ended) :
    (n.activate id platform runtime).shown = n.shown := by
  have started := shown_perform orderly.unique id (Replica.activate_same platform runtime)
    (calledBack_perform n id (Replica.calls_activate platform runtime)).1
  have ended := ended_activate orderly.unique id platform runtime
  unfold activate at lasting ⊢
  dsimp only at lasting ⊢
  split
  · rename_i lost
    -- the activation itself ends nobody, so the loss of the task would have to
    rw [if_pos lost, ← ended] at lasting
    rw [(orderly.perform id _).shown_act id Replica.passes_dropTask lasting, started]
  · exact started

theorem Orderly.shown_teardown (orderly : Orderly n) (id : ReplicaId) :
    (n.teardown id).shown = n.shown :=
  shown_perform orderly.unique id Replica.teardown_same
    (calledBack_perform n id Replica.calls_teardown).1

def delivers (n : Node) : Action → List Descriptor
  | .candidate callback d => if callback < n.discoveryCallbacks then [d] else []
  | .presence callback x =>
    if callback < n.presenceCallbacks ∧ n.live ∧ n.binding.isSome ∧ !n.registry.stopping then
      x.brings
    else []
  | _ => []

def deliveredBy (n : Node) : List Action → List Descriptor
  | [] => []
  | a :: later => n.delivers a ++ (n.step a).deliveredBy later

theorem Ready.shown_step (h : Ready b n) (books : Orderly n ∧ Keyed n) {a : Action}
    (minor : a.isMinor = true) (lasting : (n.step a).ended = n.ended) :
    (n.step a).shown = n.gathers b (n.delivers a) := by
  cases a with
  | candidate callback d =>
    simp only [step, delivers]
    split
    · exact h.shown_onCandidate books d
    · rfl
  | presence callback x =>
    simp only [step, delivers, h.live, h.bound, h.opened, Option.isSome_some, Bool.not_false,
      and_self, and_true]
    split
    · exact h.shown_onPresence books x
    · rfl
  | turn id pick reply => exact books.1.shown_act id (Replica.passes_turn pick reply) lasting
  | answer id x => exact books.1.shown_act id (Replica.Act.answer x).passes lasting
  | push id e => exact books.1.shown_act id (Replica.Act.push e).passes lasting
  | endStream id => exact books.1.shown_act id Replica.Act.endStream.passes lasting
  | activate id platform runtime => exact books.1.shown_activate id platform runtime lasting
  | teardown id => exact books.1.shown_teardown id
  | _ => cases minor

/-- Nobody ends in the course of some actions. -/
def NobodyEnds (n : Node) (later : List Action) : Prop :=
  ∀ k ≤ later.length, (n.run (later.take k)).ended = n.ended

instance (n : Node) (later : List Action) : Decidable (n.NobodyEnds later) :=
  inferInstanceAs (Decidable (∀ k ≤ later.length, (n.run (later.take k)).ended = n.ended))

theorem NobodyEnds.uncons {a : Action} {later : List Action} (h : n.NobodyEnds (a :: later)) :
    (n.step a).ended = n.ended ∧ (n.step a).NobodyEnds later := by
  have first : (n.step a).ended = n.ended := h 1 (Nat.succ_le_succ (Nat.zero_le _))
  refine ⟨first, ?_⟩
  intro k le
  exact (h (k + 1) (Nat.succ_le_succ le)).trans first.symm

theorem Ready.shown_run (h : Ready b n) (books : Orderly n ∧ Keyed n) {later : List Action}
    (minor : ∀ a ∈ later, a.isMinor = true) (lasting : n.NobodyEnds later) :
    (n.run later).shown = n.gathers b (n.deliveredBy later) := by
  induction later generalizing n with
  | nil => rfl
  | cons a later ih =>
    obtain ⟨first, lasts⟩ := lasting.uncons
    have minor' := minor a List.mem_cons_self
    have rest := ih (h.of_sameSession (n.sameSession_of_minor minor')) (Keyed.step books a)
      (fun x mem => minor x (List.mem_cons_of_mem a mem)) lasts
    rw [gathers, h.shown_step books minor' first, gathers, ← List.foldl_append] at rest
    exact rest

theorem Keyed.map_shown (h : Keyed n) (orderly : Orderly n) (bound : n.binding = some b) :
    n.shown.map b.config.dedupKey = n.registry.entries.map Prod.fst := by
  have keys : n.hosted.map (fun r => b.config.dedupKey r.descriptor) =
      n.registry.entries.map Prod.fst := map_filterMap_lookup (h.lookup orderly bound)
  rw [← keys, shown, List.map_map]
  rfl

theorem Keyed.run (books : Orderly n ∧ Keyed n) (later : List Action) :
    Orderly (n.run later) ∧ Keyed (n.run later) :=
  run_keeps (P := fun n => Orderly n ∧ Keyed n) (fun _ a h => Keyed.step h a) books later

theorem Ready.run (h : Ready b n) {later : List Action} (minor : ∀ a ∈ later, a.isMinor = true) :
    Ready b (n.run later) := by
  induction later generalizing n with
  | nil => exact h
  | cons a later ih =>
    have first := n.sameSession_of_minor (minor a List.mem_cons_self)
    exact ih (h.of_sameSession first) fun x mem => minor x (List.mem_cons_of_mem a mem)

theorem Ready.gathered (h : Ready b n) (books : Orderly n ∧ Keyed n)
    (empty : n.registry.entries = []) {later : List Action}
    (minor : ∀ a ∈ later, a.isMinor = true) (lasting : n.NobodyEnds later) :
    Gathered b.config.dedupKey Descriptor.isHostable (n.deliveredBy later) (n.run later).shown := by
  have nobody : n.shown = [] := by
    simp [shown, hosted, Registry.ids, empty]
  rw [h.shown_run books minor lasting, gathers, nobody]
  exact gathered_foldl _ _ _

/-- On an open node with an empty registry, whatever comes through callbacks and whatever replicas
do, as long as none of them ends: the keys of the registry are those of the tagged candidates that
have been delivered, each of them once and for the first one delivered under it. So another course
of things in which the same candidates are delivered, in any order and any number of times, leads
to the same keys. -/
theorem hosted_of_candidates (actions : List Action) :
    ∀ n, Shifts (run {} actions) n → ∀ b, Ready b n → n.registry.entries = [] →
      ∀ later, (∀ a ∈ later, a.isMinor = true) → n.NobodyEnds later →
        let m := n.run later
        let tagged := (n.deliveredBy later).filter fun d => "/hosting".toList <:+ d.uri.toList
        (∀ key, key ∈ m.registry.entries.map Prod.fst ↔
          ∃ d ∈ tagged, b.config.dedupKey d = key) ∧
        m.registry.size = (tagged.map b.config.dedupKey).dedup.length ∧
        (∀ e ∈ m.registry.entries, ∃ r, m.replica? e.2 = some r ∧
          tagged.find? (fun d => b.config.dedupKey d == e.1) = some r.descriptor) ∧
        ∀ again, (∀ a ∈ again, a.isMinor = true) → n.NobodyEnds again →
          (∀ d, d ∈ n.deliveredBy again ↔ d ∈ n.deliveredBy later) →
          ∀ key, key ∈ (n.run again).registry.entries.map Prod.fst ↔
            key ∈ m.registry.entries.map Prod.fst := by
  intro n reached b ready empty later minor lasting m tagged
  have books : Orderly n ∧ Keyed n := reached.keeps Keyed.shift (keyed_run actions)
  have tags : (fun d : Descriptor => decide ("/hosting".toList <:+ d.uri.toList)) =
      Descriptor.isHostable := by
    funext d
    rw [Descriptor.isHostable, isHostable, Bool.eq_iff_iff, List.isSuffixOf_iff_suffix,
      decide_eq_true_iff]
    rfl
  have keys {moves : List Action} (minor : ∀ a ∈ moves, a.isMinor = true)
      (lasting : n.NobodyEnds moves) (key : DedupKey) :
      key ∈ (n.run moves).registry.entries.map Prod.fst ↔
        ∃ d ∈ (n.deliveredBy moves).filter Descriptor.isHostable, b.config.dedupKey d = key := by
    obtain ⟨orderly, keyed⟩ := Keyed.run books moves
    rw [← keyed.map_shown orderly (ready.run minor).bound]
    exact (ready.gathered books empty minor lasting).mem_iff key
  obtain ⟨orderly, keyed⟩ : Orderly m ∧ Keyed m := Keyed.run books later
  have bound := (ready.run minor).bound
  have gathered := ready.gathered books empty minor lasting
  have shown := keyed.map_shown orderly bound
  simp only [tagged, tags]
  refine ⟨keys minor lasting, ?_, ?_, ?_⟩
  · have size := congrArg List.length shown
    rw [List.length_map, List.length_map, gathered.length_eq] at size
    exact size.symm
  · intro e mem
    obtain ⟨r, found, key⟩ := keyed.lookup orderly bound e mem
    have hosted : r ∈ m.hosted := List.mem_filterMap.mpr ⟨e.2, List.mem_map_of_mem mem, found⟩
    refine ⟨r, found, ?_⟩
    rw [key]
    exact gathered.first r.descriptor (List.mem_map_of_mem hosted)
  · intro again minor' lasting' same key
    rw [keys minor' lasting', keys minor lasting]
    simp only [List.mem_filter, same]

def opened : List Action := [.attach 0 0 {}, .start { subscribe := { outcome := .ok true } }]

/-- Two resources, one of them seen twice and one that is not tagged, through three callbacks; in
the midst of this a replica starts to work. -/
def mixed : List Action :=
  [.candidate 0 { address := "n", uri := "/a/hosting" },
   .turn ⟨1⟩ .origin none,
   .presence 0 { event := { result := .ok, address := "n" }
                 reply := { candidates :=
                  [{ address := "n", uri := "/a/hosting", observable := true },
                   { address := "n", uri := "/b/hosting" }] } },
   .candidate 1 { address := "n", uri := "/c" }]

def shuffled : List Action :=
  [.candidate 0 { address := "n", uri := "/b/hosting" },
   .candidate 0 { address := "n", uri := "/c" },
   .candidate 0 { address := "n", uri := "/a/hosting", observable := true },
   .candidate 0 { address := "n", uri := "/b/hosting" },
   .candidate 0 { address := "n", uri := "/a/hosting" }]

theorem hosted_of_candidates_mixed :
    let n := run {} opened
    (n.run mixed).registry.size = 2 ∧
      (∀ e ∈ (n.run mixed).registry.entries, e.1 = ⟨"n", "/a/hosting", none⟩ →
        ∃ r, (n.run mixed).replica? e.2 = some r ∧ r.descriptor.observable = false) ∧
      ∀ key, key ∈ (n.run shuffled).registry.entries.map Prod.fst ↔
        key ∈ (n.run mixed).registry.entries.map Prod.fst := by
  intro n
  have ready : Ready ⟨0, 0, {}, Config.discoveryQuery {}⟩ n :=
    ⟨by decide +kernel, by decide +kernel, by decide +kernel, by decide +kernel⟩
  obtain ⟨-, size, first, same⟩ := hosted_of_candidates opened n (shifts_refl n) _ ready
    (by decide +kernel) mixed (by decide) (by decide +kernel)
  refine ⟨size.trans (by decide +kernel), ?_, ?_⟩
  · rintro ⟨-, id⟩ mem rfl
    obtain ⟨r, found, descriptor⟩ := first _ mem
    have earliest : ((n.deliveredBy mixed).filter fun d => "/hosting".toList <:+ d.uri.toList).find?
        (fun d => Config.dedupKey {} d == ⟨"n", "/a/hosting", none⟩) =
          some { address := "n", uri := "/a/hosting" } := by decide +kernel
    have own := Option.some.inj (earliest.symm.trans descriptor)
    exact ⟨r, found, by rw [← own]⟩
  · have delivered : (∀ d ∈ n.deliveredBy shuffled, d ∈ n.deliveredBy mixed) ∧
        ∀ d ∈ n.deliveredBy mixed, d ∈ n.deliveredBy shuffled := by decide +kernel
    apply same shuffled (by decide) (by decide +kernel)
    intro d
    exact ⟨delivered.1 d, delivered.2 d⟩

end Node

end ReplicaHosting

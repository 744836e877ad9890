import Mathlib.Data.List.Nodup
import Mathlib.Data.List.Perm.Basic
import ReplicaHosting.Registry.Ledger
import ReplicaHosting.Proofs.Registry.Entries

/-! The books of a registry balance. Whoever has been admitted is still present or has been given
back once, by one removal or by one drain; and the registry answers every question as the list of
those present does. The entries follow that list in order, so what a removal and a drain do to the
one they do to the other: both are a giving back, of one or of all. -/
namespace ReplicaHosting

theorem eraseReps_of_nodup {α : Type} [BEq α] [LawfulBEq α] {l : List α} (distinct : l.Nodup) :
    l.eraseReps = l := by
  have loop (a : α) (as seen : List α) (distinct : (a :: as).Nodup) :
      List.eraseRepsBy.loop (· == ·) a as seen = seen.reverse ++ a :: as := by
    induction as generalizing a seen with
    | nil => simp [List.eraseRepsBy.loop]
    | cons b bs ih =>
      obtain ⟨absent, rest⟩ := List.nodup_cons.mp distinct
      have different : (a == b) = false := by
        simp only [beq_eq_false_iff_ne]
        intro same
        exact absent (same ▸ List.mem_cons_self)
      simp [List.eraseRepsBy.loop, different, ih b (a :: seen) rest]
  cases l with
  | nil => rfl
  | cons a as => exact loop a as [] distinct

theorem ReplicaId.perm_sorted {ids : List ReplicaId} (distinct : ids.Nodup) :
    (ReplicaId.sorted ids).Perm ids := by
  have perm := List.mergeSort_perm ids fun i j => decide (i.number ≤ j.number)
  rw [sorted, eraseReps_of_nodup (perm.nodup_iff.mpr distinct)]
  exact perm

namespace Shelf

/-- Something is built for an admission, once and with its id, and for nothing else. -/
theorem enrollMade_eq (key : DedupKey) (maker : Maker) (s : Shelf) :
    s.enrollMade key maker = match s.registry.enroll key with
      | (.admitted id, registry) =>
        ([id], .admitted (maker.make id), { registry, replicas := s.replicas ++ [maker.make id] })
      | (.alreadyHosted id, registry) => ([], .alreadyHosted id, { s with registry })
      | (.stopping, registry) => ([], .stopping, { s with registry }) := by
  have unused : s.replicas ++ [] = s.replicas := List.append_nil _
  unfold enrollMade Registry.enrollWith
  rcases s.registry.enroll key with ⟨answer, registry⟩
  cases answer with
  | admitted id => rfl
  | alreadyHosted id => exact congrArg (fun rs => ([], _, Shelf.mk registry rs)) unused
  | stopping => exact congrArg (fun rs => ([], _, Shelf.mk registry rs)) unused

end Shelf

namespace Ledger

structure Sound (l : Ledger) : Prop where
  replicas : l.shelf.replicas = l.admitted.map Prod.snd
  built : l.built = l.admitted.map fun a => a.2.id
  issued : ∀ a ∈ l.admitted, a.2.id.number ≤ l.shelf.registry.issued
  unique : (l.admitted.map fun a => a.2.id).Nodup
  distinct : l.shelf.registry.Distinct
  entries : l.shelf.registry.entries = l.present.map fun a => (a.1, a.2.id)
  known : ∀ r ∈ l.gone, r ∈ l.admitted.map Prod.snd
  once : (l.gone.map Replica.id).Nodup

variable {l m : Ledger}

theorem mem_present_iff {a : DedupKey × Replica} :
    a ∈ l.present ↔ a ∈ l.admitted ∧ a.2.id ∉ l.gone.map Replica.id := by
  simp [present]

theorem Sound.ids (h : Sound l) : l.shelf.registry.ids = l.present.map fun a => a.2.id := by
  simp only [Registry.ids, h.entries, List.map_map, Function.comp_def]

theorem Sound.keys (h : Sound l) :
    l.shelf.registry.entries.map Prod.fst = l.present.map Prod.fst := by
  simp only [h.entries, List.map_map, Function.comp_def]

theorem Sound.present_unique (h : Sound l) : (l.present.map fun a => a.2.id).Nodup :=
  h.unique.sublist (List.filter_sublist.map _)

theorem Sound.ids_nodup (h : Sound l) : l.shelf.registry.ids.Nodup := h.ids ▸ h.present_unique

theorem Sound.replica? (h : Sound l) {a : DedupKey × Replica} (mem : a ∈ l.admitted) :
    l.shelf.replica? a.2.id = some a.2 := by
  have unique : (l.shelf.replicas.map Replica.id).Nodup := by
    rw [h.replicas, List.map_map]
    exact h.unique
  exact find?_eq_some_of_mem unique (h.replicas ▸ List.mem_map_of_mem mem)

theorem Sound.hosted (h : Sound l) : l.shelf.hosted.Perm (l.present.map Prod.snd) := by
  have found : (l.present.map fun a => a.2.id).filterMap (l.shelf.replica? ·) =
      l.present.map Prod.snd := by
    rw [List.filterMap_map, ← List.filterMap_eq_map]
    apply List.filterMap_congr
    intro a mem
    exact h.replica? (mem_present_iff.mp mem).1
  have perm := (ReplicaId.perm_sorted h.ids_nodup).filterMap (l.shelf.replica? ·)
  rw [h.ids, found] at perm
  rw [Shelf.hosted, Shelf.replicasOf, h.ids]
  exact perm

/-- Some of those present are given back, each of them once, and their entries are taken out. -/
structure GivesBack (l : Ledger) (rs : List Replica) (m : Ledger) : Prop where
  replicas : m.shelf.replicas = l.shelf.replicas
  admitted : m.admitted = l.admitted
  built : m.built = l.built
  issued : m.shelf.registry.issued = l.shelf.registry.issued
  gone : m.gone.Perm (l.gone ++ rs)
  own : ∀ r ∈ rs, r ∈ l.present.map Prod.snd
  each : (rs.map Replica.id).Nodup
  entries : m.shelf.registry.entries =
    l.shelf.registry.entries.filter fun e => !(rs.map Replica.id).contains e.2

theorem GivesBack.present {rs : List Replica} (back : GivesBack l rs m) :
    m.present = l.present.filter fun a => !(rs.map Replica.id).contains a.2.id := by
  have ids := back.gone.map Replica.id
  rw [List.map_append] at ids
  rw [Ledger.present, Ledger.present, back.admitted, List.filter_filter]
  apply List.filter_congr
  intro a _
  rw [ids.contains_eq, List.contains_append]
  cases List.contains (l.gone.map Replica.id) a.2.id <;> simp

theorem Sound.giveBack (h : Sound l) {rs : List Replica} (back : GivesBack l rs m) : Sound m := by
  constructor
  · rw [back.replicas, back.admitted]
    exact h.replicas
  · rw [back.built, back.admitted]
    exact h.built
  · rw [back.issued, back.admitted]
    exact h.issued
  · rw [back.admitted]
    exact h.unique
  · unfold Registry.Distinct
    rw [back.entries]
    exact h.distinct.sublist (List.filter_sublist.map _)
  · rw [back.entries, back.present, h.entries, List.filter_map]
    rfl
  · intro r mem
    rw [back.admitted]
    rcases List.mem_append.mp (back.gone.mem_iff.mp mem) with before | now
    · exact h.known r before
    · obtain ⟨a, still, rfl⟩ := List.mem_map.mp (back.own r now)
      exact List.mem_map_of_mem (mem_present_iff.mp still).1
  · rw [(back.gone.map Replica.id).nodup_iff, List.map_append, List.nodup_append]
    refine ⟨h.once, back.each, ?_⟩
    intro i before j now same
    obtain ⟨r, mem, rfl⟩ := List.mem_map.mp now
    obtain ⟨a, still, rfl⟩ := List.mem_map.mp (back.own r mem)
    exact (mem_present_iff.mp still).2 (same ▸ before)

theorem Sound.admit (h : Sound l) {key : DedupKey} (maker : Maker) {id : ReplicaId}
    {registry : Registry} (admitted : l.shelf.registry.enroll key = (.admitted id, registry)) :
    Sound { l with shelf := { registry, replicas := l.shelf.replicas ++ [maker.make id] }
                   admitted := l.admitted ++ [(key, maker.make id)]
                   built := l.built ++ [id] } := by
  have distinct := Registry.distinct_enroll admitted h.distinct
  obtain ⟨-, -, rfl, rfl⟩ := Registry.enroll_admitted admitted
  have bears := maker.id_make ⟨l.shelf.registry.issued + 1⟩
  have fresh : (maker.make ⟨l.shelf.registry.issued + 1⟩).id ∉ l.admitted.map fun a => a.2.id := by
    rw [bears]
    intro mem
    obtain ⟨a, ha, same⟩ := List.mem_map.mp mem
    have below := h.issued a ha
    rw [same] at below
    exact Nat.not_succ_le_self _ below
  have unreturned : (maker.make ⟨l.shelf.registry.issued + 1⟩).id ∉ l.gone.map Replica.id := by
    intro mem
    obtain ⟨r, back, same⟩ := List.mem_map.mp mem
    obtain ⟨a, ha, rfl⟩ := List.mem_map.mp (h.known r back)
    exact fresh (List.mem_map.mpr ⟨a, ha, same⟩)
  have present (r : Registry) (rs : List Replica) (ids : List ReplicaId) :
      Ledger.present { l with
        shelf := { registry := r, replicas := rs }
        admitted := l.admitted ++ [(key, maker.make ⟨l.shelf.registry.issued + 1⟩)]
        built := ids } =
      l.present ++ [(key, maker.make ⟨l.shelf.registry.issued + 1⟩)] := by
    simp only [Ledger.present, List.filter_append]
    congr 1
    exact List.filter_eq_self.mpr (by simpa [gone] using unreturned)
  constructor
  · simp [h.replicas]
  · simp [h.built, bears]
  · intro a mem
    rcases List.mem_append.mp mem with old | new
    · exact Nat.le_succ_of_le (h.issued a old)
    · rw [List.mem_singleton.mp new]
      exact Nat.le_of_eq (congrArg ReplicaId.number bears)
  · simp only [List.map_append, List.map_cons, List.map_nil]
    exact List.nodup_append.mpr ⟨h.unique, List.nodup_singleton _, by
      intro i old j new same
      exact fresh (List.mem_singleton.mp new ▸ same ▸ old)⟩
  · exact distinct
  · rw [present]
    simp [h.entries, bears]
  · intro r back
    rw [List.map_append]
    exact List.mem_append_left _ (h.known r back)
  · exact h.once

theorem Sound.find? (h : Sound l) (key : DedupKey) (id : ReplicaId) :
    l.shelf.registry.find? key = some id ↔ ∃ r, (key, r) ∈ l.present ∧ r.id = id := by
  rw [Registry.find?_eq_some_iff h.distinct, h.entries]
  constructor
  · intro mem
    obtain ⟨⟨k, r⟩, still, same⟩ := List.mem_map.mp mem
    cases same
    exact ⟨r, still, rfl⟩
  · rintro ⟨r, still, rfl⟩
    exact List.mem_map.mpr ⟨(key, r), still, rfl⟩

theorem Sound.remove_cases (h : Sound l) (key : DedupKey) (id : ReplicaId) :
    (l.shelf.remove key id = (none, l.shelf) ∧ ∀ r, (key, r) ∈ l.present → r.id ≠ id) ∨
    ∃ r, (key, r) ∈ l.present ∧ r.id = id ∧
      l.shelf.remove key id = (some r, { l.shelf with
        registry := { l.shelf.registry with
          entries := l.shelf.registry.entries.filter fun e => !(e.1 == key) } }) := by
  by_cases found : l.shelf.registry.find? key = some id
  · obtain ⟨r, still, rfl⟩ := (h.find? key id).mp found
    have mem := (Registry.find?_eq_some_iff h.distinct key r.id).mp found
    refine .inr ⟨r, still, rfl, ?_⟩
    simp only [Shelf.remove, Registry.remove?_of_mem h.distinct mem]
    exact congrArg (·, _) (h.replica? (mem_present_iff.mp still).1)
  · refine .inl ⟨by simp [Shelf.remove, Registry.remove?, found], ?_⟩
    intro r still same
    exact found ((h.find? key id).mpr ⟨r, still, same⟩)

theorem Sound.serve_remove_cases (h : Sound l) (key : DedupKey) (id : ReplicaId) :
    (l.serve (.remove key id) = l ∧ ∀ r, (key, r) ∈ l.present → r.id ≠ id) ∨
    ∃ r, r.id = id ∧ GivesBack l [r] (l.serve (.remove key id)) := by
  rcases h.remove_cases key id with ⟨nobody, other⟩ | ⟨r, still, rfl, back⟩
  · exact .inl ⟨by simp [Ledger.serve, nobody], other⟩
  · have mem : (key, r.id) ∈ l.shelf.registry.entries :=
      (Registry.find?_eq_some_iff h.distinct key r.id).mp ((h.find? key r.id).mpr ⟨r, still, rfl⟩)
    refine .inr ⟨r, rfl, ?_⟩
    simp only [serve, back]
    refine ⟨rfl, rfl, rfl, rfl, ?_, ?_, List.nodup_singleton _, ?_⟩
    · simp only [gone, Option.toList_some, List.append_assoc]
      exact List.perm_append_comm.append_left l.removed
    · intro s hs
      rw [List.mem_singleton.mp hs]
      exact List.mem_map_of_mem still
    · apply List.filter_congr
      intro e he
      -- an entry has this key exactly if it has this id, since neither is there twice
      have same : e.1 = key ↔ e.2 = r.id := by
        constructor
        · intro same
          rw [List.inj_on_of_nodup_map h.distinct he mem same]
        · intro same
          rw [List.inj_on_of_nodup_map h.ids_nodup he mem same]
      rw [Bool.eq_iff_iff]
      simp [same]

theorem Sound.remove (h : Sound l) (key : DedupKey) (id : ReplicaId) :
    Sound (l.serve (.remove key id)) := by
  rcases h.serve_remove_cases key id with ⟨same, -⟩ | ⟨r, -, back⟩
  · rw [same]
    exact h
  · exact h.giveBack back

theorem Sound.givesBack_drain (h : Sound l) : GivesBack l l.shelf.hosted (l.serve .drain) := by
  have hosted := h.hosted
  simp only [serve, Shelf.drain]
  refine ⟨rfl, rfl, rfl, rfl, ?_, ?_, ?_, ?_⟩
  · simp [gone]
  · intro r mem
    exact hosted.mem_iff.mp mem
  · rw [(hosted.map Replica.id).nodup_iff, List.map_map]
    exact h.present_unique
  · refine (List.filter_eq_nil_iff.mpr ?_).symm
    intro e he
    have still : e.2 ∈ l.shelf.hosted.map Replica.id := by
      rw [(hosted.map Replica.id).mem_iff, List.map_map]
      exact h.ids ▸ List.mem_map_of_mem he
    simpa using still

theorem Sound.serve (h : Sound l) (e : Errand) : Sound (l.serve e) := by
  cases e with
  | enroll key maker =>
    simp only [Ledger.serve, Shelf.enrollMade_eq]
    cases answer : l.shelf.registry.enroll key with
    | mk a registry =>
      cases a with
      | admitted id => exact h.admit maker answer
      | alreadyHosted id | stopping =>
        rw [Registry.enroll_refused answer nofun]
        simpa using h
  | remove key id => exact h.remove key id
  | close => exact ⟨h.replicas, h.built, h.issued, h.unique, h.distinct, h.entries, h.known, h.once⟩
  | reopen =>
    exact ⟨h.replicas, h.built, h.issued, h.unique, h.distinct, h.entries, h.known, h.once⟩
  | drain => exact h.giveBack h.givesBack_drain

theorem sound_run (errands : List Errand) : Sound (run {} errands) := by
  have all (l : Ledger) (h : Sound l) : Sound (l.run errands) := by
    induction errands generalizing l with
    | nil => exact h
    | cons e errands ih => exact ih _ (h.serve e)
  apply all
  constructor
  · rfl
  · rfl
  · intro a mem
    cases mem
  · exact List.nodup_nil
  · exact List.nodup_nil
  · rfl
  · intro r mem
    cases mem
  · exact List.nodup_nil

theorem Sound.parts (h : Sound l) :
    (l.present.map Prod.snd ++ l.gone).Perm (l.admitted.map Prod.snd) := by
  have distinct : (l.present.map Prod.snd ++ l.gone).Nodup := by
    apply List.Nodup.of_map Replica.id
    simp only [List.map_append, List.map_map, Function.comp_def]
    rw [List.nodup_append]
    refine ⟨h.present_unique, h.once, ?_⟩
    intro i still j back same
    obtain ⟨a, mem, rfl⟩ := List.mem_map.mp still
    exact (mem_present_iff.mp mem).2 (same ▸ back)
  have unique : (l.admitted.map Prod.snd).Nodup := by
    apply List.Nodup.of_map Replica.id
    rw [List.map_map]
    exact h.unique
  rw [List.perm_ext_iff_of_nodup distinct unique]
  intro r
  constructor
  · intro mem
    rcases List.mem_append.mp mem with still | back
    · obtain ⟨a, ha, rfl⟩ := List.mem_map.mp still
      exact List.mem_map_of_mem (mem_present_iff.mp ha).1
    · exact h.known r back
  · intro mem
    obtain ⟨a, ha, rfl⟩ := List.mem_map.mp mem
    by_cases back : a.2.id ∈ l.gone.map Replica.id
    · -- who bears this id and has been given back is this very replica
      obtain ⟨s, hs, same⟩ := List.mem_map.mp back
      obtain ⟨b, hb, rfl⟩ := List.mem_map.mp (h.known s hs)
      rw [← List.inj_on_of_nodup_map h.unique hb ha same]
      exact List.mem_append_right _ hs
    · exact List.mem_append_left _ (List.mem_map_of_mem (mem_present_iff.mpr ⟨ha, back⟩))

/-- Whoever is present is given back by the removal that names key and id, and by no other one; a
drain gives back all who are present. They are not present any more after that. -/
theorem present_given_back (errands : List Errand) :
    let l := run {} errands
    (∀ key id r, (l.shelf.remove key id).1 = some r ↔ (key, r) ∈ l.present ∧ r.id = id) ∧
    (∀ key r, (key, r) ∉ (l.serve (.remove key r.id)).present) ∧
    l.shelf.drain.1.Perm (l.present.map Prod.snd) ∧ (l.serve .drain).present = [] := by
  intro l
  have h : Sound l := sound_run errands
  refine ⟨?_, ?_, h.hosted, ?_⟩
  · intro key id r
    rcases h.remove_cases key id with ⟨nobody, other⟩ | ⟨s, still, rfl, back⟩
    · rw [nobody]
      exact ⟨nofun, fun named => absurd named.2 (other r named.1)⟩
    · rw [back, Option.some.injEq]
      constructor
      · rintro rfl
        exact ⟨still, rfl⟩
      · rintro ⟨mem, same⟩
        exact congrArg Prod.snd (List.inj_on_of_nodup_map h.present_unique still mem same.symm)
  · intro key r still
    rcases h.serve_remove_cases key r.id with ⟨same, other⟩ | ⟨s, named, back⟩
    · rw [same] at still
      exact other r still rfl
    · rw [back.present] at still
      simp [named] at still
  · have emptied : (l.serve .drain).shelf.registry.entries = [] := rfl
    rw [(h.giveBack h.givesBack_drain).entries] at emptied
    exact List.map_eq_nil_iff.mp emptied

/-- What is answered to the question for a place, and what has been built for it, if those present
decide on it. -/
def Answers (l : Ledger) (key : DedupKey) (maker : Maker) :
    List ReplicaId × Admission Replica → Prop
  | (built, .admitted r) =>
    built = [r.id] ∧ (∃ id, r = maker.make id) ∧ l.shelf.registry.stopping = false ∧
      key ∉ l.present.map Prod.fst
  | (built, .alreadyHosted id) =>
    built = [] ∧ l.shelf.registry.stopping = false ∧ ∃ r, (key, r) ∈ l.present ∧ r.id = id
  | (built, .stopping) => built = [] ∧ l.shelf.registry.stopping = true

theorem Sound.answers (h : Sound l) (key : DedupKey) (maker : Maker) :
    let (built, answer, _) := l.shelf.enrollMade key maker
    Answers l key maker (built, answer) := by
  rw [Shelf.enrollMade_eq]
  unfold Registry.enroll
  cases closed : l.shelf.registry.stopping with
  | true => exact ⟨rfl, closed⟩
  | false =>
    cases found : l.shelf.registry.find? key with
    | none =>
      have free := (Registry.find?_eq_none_iff _ key).mp found
      exact ⟨congrArg (· :: []) (maker.id_make _).symm, ⟨_, rfl⟩, closed, h.keys ▸ free⟩
    | some id => exact ⟨rfl, closed, (h.find? key id).mp found⟩

/-- Whatever a registry is asked for from the beginning: those still present, those removed and
those drained are together all who have been admitted, each of them once, and nothing has been built
but for these. Under each key there is one who is present at most, and size, emptiness, lookups and
the replicas the registry names are those of the ones present; who finds a key taken is told by
whom. -/
theorem nothing_lost (errands : List Errand) :
    let l := run {} errands
    (l.present.map Prod.snd ++ l.removed ++ l.drained.flatten).Perm (l.admitted.map Prod.snd) ∧
    (l.admitted.map fun a => a.2.id).Nodup ∧
    l.built = (l.admitted.map fun a => a.2.id) ∧
    (∀ key maker, let (built, answer, _) := l.shelf.enrollMade key maker
      Answers l key maker (built, answer)) ∧
    (l.present.map Prod.fst).Nodup ∧
    (∀ key, l.shelf.registry.contains key = true ↔ key ∈ l.present.map Prod.fst) ∧
    l.shelf.registry.size = l.present.length ∧
    (l.shelf.registry.isEmpty = true ↔ l.present = []) ∧
    l.shelf.hosted.Perm (l.present.map Prod.snd) := by
  intro l
  have h : Sound l := sound_run errands
  have parts := h.parts
  rw [gone, ← List.append_assoc] at parts
  refine ⟨parts, h.unique, h.built, h.answers, h.keys ▸ h.distinct, ?_, ?_, ?_, h.hosted⟩
  · intro key
    rw [← h.keys, ← not_iff_not, ← Registry.find?_eq_none_iff]
    simp [Registry.contains]
  · rw [Registry.size, h.entries, List.length_map]
  · rw [Registry.isEmpty, h.entries, List.isEmpty_iff, List.map_eq_nil_iff]

end Ledger

end ReplicaHosting

import Mathlib.Data.List.Nodup
import ReplicaHosting.Registry

/-! The entries of a registry as a set of pairs. With distinct keys, looking up a key is membership,
and every operation changes the entries by one pair or by all of them. -/
namespace ReplicaHosting

theorem find?_eq_some_of_mem {α β : Type} [BEq β] [LawfulBEq β] {f : α → β} {l : List α}
    (distinct : (l.map f).Nodup) {a : α} (mem : a ∈ l) :
    l.find? (fun x => f x == f a) = some a := by
  cases found : l.find? (fun x => f x == f a) with
  | none => exact absurd (beq_self_eq_true (f a)) (List.find?_eq_none.mp found a mem)
  | some b =>
    have same : f b = f a := by simpa using List.find?_some found
    rw [List.inj_on_of_nodup_map distinct (List.mem_of_find?_eq_some found) mem same]

namespace Registry

def Distinct (r : Registry) : Prop := (r.entries.map Prod.fst).Nodup

theorem find?_eq_some_iff {r : Registry} (distinct : r.Distinct) (key : DedupKey)
    (id : ReplicaId) : r.find? key = some id ↔ (key, id) ∈ r.entries := by
  constructor
  · intro h
    obtain ⟨e, found, rfl⟩ := Option.map_eq_some_iff.mp h
    have same : e.1 = key := by simpa using List.find?_some found
    have mem := List.mem_of_find?_eq_some found
    rw [← same]
    exact mem
  · intro mem
    have found := find?_eq_some_of_mem distinct mem
    simp only [find?, found, Option.map_some]

theorem find?_eq_none_iff (r : Registry) (key : DedupKey) :
    r.find? key = none ↔ key ∉ r.entries.map Prod.fst := by
  rw [find?, Option.map_eq_none_iff, List.find?_eq_none]
  constructor
  · intro h mem
    obtain ⟨e, he, same⟩ := List.mem_map.mp mem
    exact h e he (beq_iff_eq.mpr same)
  · intro absent e he same
    exact absent (List.mem_map.mpr ⟨e, he, beq_iff_eq.mp same⟩)

theorem enroll_admitted {r s : Registry} {key : DedupKey} {id : ReplicaId}
    (h : r.enroll key = (.admitted id, s)) :
    r.stopping = false ∧ r.find? key = none ∧ id = ⟨r.issued + 1⟩ ∧
      s = { r with entries := r.entries ++ [(key, id)], issued := r.issued + 1 } := by
  unfold enroll at h
  split at h
  · cases h
  · rename_i open_
    split at h
    · cases h
    · rename_i free
      cases h
      exact ⟨by simpa using open_, free, rfl, rfl⟩

theorem distinct_enroll {r s : Registry} {key : DedupKey} {id : ReplicaId}
    (h : r.enroll key = (.admitted id, s)) (distinct : r.Distinct) : s.Distinct := by
  obtain ⟨-, free, -, rfl⟩ := enroll_admitted h
  have absent := (r.find?_eq_none_iff key).mp free
  unfold Distinct
  rw [List.map_append, List.nodup_append]
  refine ⟨distinct, List.nodup_singleton _, ?_⟩
  intro k hk l hl same
  rw [same, List.mem_singleton.mp hl] at hk
  exact absent hk

theorem enroll_refused {r s : Registry} {key : DedupKey} {a : Admission ReplicaId}
    (h : r.enroll key = (a, s)) (refused : ∀ id, a ≠ .admitted id) : s = r := by
  unfold enroll at h
  split at h
  · cases h
    rfl
  · split at h
    · cases h
      rfl
    · cases h
      exact absurd rfl (refused _)

theorem remove?_of_mem {r : Registry} (distinct : r.Distinct) {key : DedupKey} {id : ReplicaId}
    (mem : (key, id) ∈ r.entries) :
    r.remove? key id = some { r with entries := r.entries.filter fun e => !(e.1 == key) } := by
  rw [remove?, if_pos ((find?_eq_some_iff distinct key id).mpr mem)]

structure Shrinks (r s : Registry) : Prop where
  issued : s.issued = r.issued
  stopping : s.stopping = r.stopping
  entries : s.entries.Sublist r.entries

theorem shrinks_self (r : Registry) : Shrinks r r := ⟨rfl, rfl, List.Sublist.refl _⟩

theorem Shrinks.trans {r s t : Registry} (first : Shrinks r s) (second : Shrinks s t) :
    Shrinks r t :=
  ⟨second.issued.trans first.issued, second.stopping.trans first.stopping,
    second.entries.trans first.entries⟩

theorem Shrinks.distinct {r s : Registry} (h : Shrinks r s) (distinct : r.Distinct) :
    s.Distinct := (h.entries.map Prod.fst).nodup distinct

theorem shrinks_remove? (r : Registry) (key : DedupKey) (id : ReplicaId) :
    Shrinks r ((r.remove? key id).getD r) := by
  unfold remove?
  split
  · exact ⟨rfl, rfl, List.filter_sublist⟩
  · exact shrinks_self r

end Registry

end ReplicaHosting

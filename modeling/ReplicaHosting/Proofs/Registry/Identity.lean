import Mathlib.Data.List.Basic
import ReplicaHosting.Registry.Run
import ReplicaHosting.Proofs.Registry.Entries

/-! Ids are given out once, in the order of the admissions, and nothing that happens to a registry
takes one back. So whoever keeps the id of an entry that is gone can do no harm with it: no later
entry bears it, under its old key or any other. -/
namespace ReplicaHosting.Registry

/-- A request is admitted under the next number and adds an entry, or no number is used up and
entries are lost at most. -/
theorem serve_cases (r : Registry) (q : Request) :
    (∃ key, r.admits? q = some ⟨r.issued + 1⟩ ∧ (r.serve q).issued = r.issued + 1 ∧
      (r.serve q).entries = r.entries ++ [(key, ⟨r.issued + 1⟩)]) ∨
    (r.admits? q = none ∧ (r.serve q).issued = r.issued ∧
      (r.serve q).entries.Sublist r.entries) := by
  cases q with
  | enroll key =>
    cases answer : r.enroll key with
    | mk a s =>
      cases a with
      | admitted id =>
        obtain ⟨-, -, rfl, rfl⟩ := enroll_admitted answer
        refine .inl ⟨key, ?_, ?_, ?_⟩
        · simp only [admits?, answer]
        · simp only [serve, answer]
        · simp only [serve, answer]
      | alreadyHosted _ | stopping =>
        have same := enroll_refused answer nofun
        subst same
        refine .inr ⟨?_, ?_, ?_⟩
        · simp only [admits?, answer]
        · simp only [serve, answer]
        · simp only [serve, answer, List.Sublist.refl]
  | remove key id =>
    have shrinks := shrinks_remove? r key id
    exact .inr ⟨rfl, shrinks.issued, shrinks.entries⟩
  | close => exact .inr ⟨rfl, rfl, List.Sublist.refl _⟩
  | reopen => exact .inr ⟨rfl, rfl, List.Sublist.refl _⟩
  | drain => exact .inr ⟨rfl, rfl, List.nil_sublist _⟩

theorem issued_serve (r : Registry) (q : Request) :
    (r.serve q).issued = r.issued + (r.admits? q).toList.length := by
  rcases r.serve_cases q with ⟨key, admitted, issued, -⟩ | ⟨refused, issued, -⟩
  · rw [issued, admitted]
    rfl
  · rw [issued, refused]
    rfl

theorem issued_run (r : Registry) (qs : List Request) :
    (r.run qs).issued = r.issued + (r.admissions qs).length := by
  induction qs generalizing r with
  | nil => rfl
  | cons q qs ih =>
    have rest := ih (r.serve q)
    have first := r.issued_serve q
    have split : (r.admissions (q :: qs)).length =
        (r.admits? q).toList.length + ((r.serve q).admissions qs).length := List.length_append
    change ((r.serve q).run qs).issued = _
    omega

theorem admissions_eq (r : Registry) (qs : List Request) :
    r.admissions qs =
      (List.range (r.admissions qs).length).map fun k => ⟨r.issued + (k + 1)⟩ := by
  induction qs generalizing r with
  | nil => rfl
  | cons q qs ih =>
    have rest := ih (r.serve q)
    rcases r.serve_cases q with ⟨key, admitted, issued, -⟩ | ⟨refused, issued, -⟩
    · have first : r.admissions (q :: qs) = ⟨r.issued + 1⟩ :: (r.serve q).admissions qs := by
        simp only [admissions, admitted, Option.toList_some, List.singleton_append]
      have shifted (k : Nat) : r.issued + 1 + (k + 1) = r.issued + (k + 1 + 1) := by omega
      rw [first, List.length_cons, List.range_succ_eq_map, List.map_cons, List.map_map]
      congr 1
      rw [rest, issued]
      simp only [List.length_map, List.length_range, Function.comp_def, Nat.succ_eq_add_one,
        shifted]
    · have first : r.admissions (q :: qs) = (r.serve q).admissions qs := by
        simp only [admissions, refused, Option.toList_none, List.nil_append]
      rw [issued] at rest
      rw [first]
      exact rest

theorem mem_ids_serve {r : Registry} {q : Request} {id : ReplicaId} (mem : id ∈ (r.serve q).ids) :
    id ∈ r.ids ∨ id = ⟨r.issued + 1⟩ := by
  unfold ids at mem
  rcases r.serve_cases q with ⟨key, -, -, entries⟩ | ⟨-, -, entries⟩
  · rw [entries, List.map_append] at mem
    rcases List.mem_append.mp mem with old | new
    · exact .inl old
    · exact .inr (List.mem_singleton.mp new)
  · exact .inl ((entries.map Prod.snd).subset mem)

theorem absent_run {r : Registry} {id : ReplicaId} (used : id.number ≤ r.issued)
    (absent : id ∉ r.ids) (qs : List Request) : id ∉ (r.run qs).ids := by
  induction qs generalizing r with
  | nil => exact absent
  | cons q qs ih =>
    apply ih (r := r.serve q)
    · have issued := r.issued_serve q
      omega
    · intro mem
      rcases mem_ids_serve mem with old | new
      · exact absent old
      · rw [new] at used
        exact Nat.not_succ_le_self r.issued used

theorem remove?_of_absent {r : Registry} {id : ReplicaId} (absent : id ∉ r.ids) (key : DedupKey) :
    r.remove? key id = none := by
  unfold remove?
  rw [if_neg]
  intro found
  obtain ⟨e, mem, same⟩ := Option.map_eq_some_iff.mp found
  exact absent (List.mem_map.mpr ⟨e, List.mem_of_find?_eq_some mem, same⟩)

/-- The ids that a registry gives out are the numbers from one on, one for each admission, whatever
is removed, drained, closed or reopened in between; as long as there are fewer than 2^64 admissions
a counter of 64 bits holds them all. Once an id is no longer kept, removing it again finds nothing
and changes nothing, whoever has come under its key since. -/
theorem ids_never_reused (requests : List Request) :
    let r := run {} requests
    let given := admissions {} requests
    given = (List.range given.length).map (fun k => ⟨k + 1⟩) ∧
    r.issued = given.length ∧
    (∀ q, r.admits? q = none → (r.serve q).issued = r.issued) ∧
    (∀ id ∈ given, id ∉ r.ids → ∀ later key,
      let s := r.run later
      id ∉ s.ids ∧ s.remove? key id = none ∧ s.serve (.remove key id) = s) := by
  intro r given
  have numbers : given = (List.range given.length).map (fun k => ⟨k + 1⟩) := by
    have eq := admissions_eq {} requests
    simp only [Nat.zero_add] at eq
    exact eq
  have issued : r.issued = given.length := by
    have count := issued_run {} requests
    rw [count]
    exact Nat.zero_add _
  refine ⟨numbers, issued, ?_, ?_⟩
  · intro q refused
    rw [r.issued_serve q, refused]
    rfl
  · intro id mem gone later key s
    have used : id.number ≤ r.issued := by
      rw [numbers] at mem
      obtain ⟨k, below, rfl⟩ := List.mem_map.mp mem
      rw [issued]
      exact List.mem_range.mp below
    have absent : id ∉ s.ids := absent_run used gone later
    have removed := remove?_of_absent absent key
    exact ⟨absent, removed, by simp only [serve, removed, Option.getD_none]⟩

/-- An entry is removed and its key is taken by the next one, after a pause. -/
theorem ids_never_reused_by_successor :
    let key : DedupKey := ⟨"n", "/a/hosting", none⟩
    let r := run {} [.enroll key, .enroll key, .remove key ⟨1⟩]
    let s := r.run [.close, .enroll key, .drain, .reopen, .enroll key]
    admissions {} [.enroll key, .enroll key, .remove key ⟨1⟩] = [⟨1⟩] ∧ r.ids = [] ∧
      s.find? key = some ⟨2⟩ ∧ s.remove? key ⟨1⟩ = none := by
  intro key r s
  have given : admissions {} [.enroll key, .enroll key, .remove key ⟨1⟩] = [⟨1⟩] := by decide
  have gone : r.ids = [] := by decide
  have stale := (ids_never_reused [.enroll key, .enroll key, .remove key ⟨1⟩]).2.2.2 ⟨1⟩
    (given ▸ List.mem_singleton.mpr rfl) (gone ▸ List.not_mem_nil)
    [.close, .enroll key, .drain, .reopen, .enroll key] key
  exact ⟨given, gone, by decide, stale.2.1⟩

end ReplicaHosting.Registry

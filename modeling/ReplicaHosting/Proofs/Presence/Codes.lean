import ReplicaHosting.Presence
import ReplicaHosting.Proofs.Registry.Entries

/-! Result codes there and back. The table has one row for each code and one for each result with a
name, so the two searches undo each other, except on a number that the table has a name for and that
comes without it. -/
namespace ReplicaHosting.PresenceResult

variable {c : Int32} {r : PresenceResult}

def codes : List Int32 := table.map Prod.fst

/-- A number with a name, posing as unknown. -/
def Shadows (r : PresenceResult) : Prop := ∃ n ∈ codes, r = unknown n

/-! ## The table -/

theorem codes_ascending : codes.Pairwise (· < ·) := by decide

theorem codes_distinct : codes.Nodup :=
  codes_ascending.imp fun less => Int32.ne_of_lt less

theorem named_distinct : named.Nodup := by decide

theorem mem_named_or_unknown (r : PresenceResult) : r ∈ named ∨ ∃ n, r = unknown n := by
  cases r with
  | unknown n => exact .inr ⟨n, rfl⟩
  | _ => exact .inl (by decide)

theorem unknown_not_mem_named (n : Int32) : unknown n ∉ named := by
  simp [named, table]

theorem mem_codes_of_mem (row : (c, r) ∈ table) : c ∈ codes :=
  List.mem_map_of_mem (f := Prod.fst) row

theorem mem_named_of_mem (row : (c, r) ∈ table) : r ∈ named :=
  List.mem_map_of_mem (f := Prod.snd) row

/-! ## The two searches -/

theorem ofCode_of_mem (row : (c, r) ∈ table) : ofCode c = r := by
  have found := find?_eq_some_of_mem codes_distinct row
  simp only [ofCode, found]

theorem mem_table_ofCode (listed : c ∈ codes) : (c, ofCode c) ∈ table := by
  obtain ⟨⟨_, r⟩, row, rfl⟩ := List.mem_map.mp listed
  rw [ofCode_of_mem row]
  exact row

theorem ofCode_of_not_mem (unlisted : c ∉ codes) : ofCode c = unknown c := by
  have missing : table.find? (fun row => row.1 == c) = none := by
    rw [List.find?_eq_none]
    intro row mem same
    exact unlisted (beq_iff_eq.mp same ▸ mem_codes_of_mem mem)
  simp only [ofCode, missing]

theorem code_of_mem (row : (c, r) ∈ table) : r.code = c := by
  have found := find?_eq_some_of_mem named_distinct row
  cases r with
  | unknown n => exact absurd (mem_named_of_mem row) (unknown_not_mem_named n)
  | _ => simp only [code, found]

theorem mem_table_code (listed : r ∈ named) : (r.code, r) ∈ table := by
  obtain ⟨⟨c, _⟩, row, rfl⟩ := List.mem_map.mp listed
  rw [code_of_mem row]
  exact row

/-- Only a number has no row, and a number is its own code: the search for a row never fails. -/
theorem find?_row_eq_none_iff :
    table.find? (fun row => row.2 == r) = none ↔ ∃ n, r = unknown n := by
  rw [List.find?_eq_none]
  constructor
  · intro missing
    refine (mem_named_or_unknown r).resolve_left ?_
    intro listed
    exact missing (r.code, r) (mem_table_code listed) (beq_self_eq_true r)
  · rintro ⟨n, rfl⟩ row mem same
    exact unknown_not_mem_named n (beq_iff_eq.mp same ▸ mem_named_of_mem mem)

theorem code_eq_iff : r.code = c ↔ r = unknown c ∨ (c, r) ∈ table := by
  constructor
  · rintro rfl
    rcases mem_named_or_unknown r with listed | ⟨n, rfl⟩
    · exact .inr (mem_table_code listed)
    · exact .inl rfl
  · rintro (rfl | row)
    · rfl
    · exact code_of_mem row

/-! ## One after the other -/

theorem code_ofCode (c : Int32) : (ofCode c).code = c := by
  by_cases listed : c ∈ codes
  · exact code_of_mem (mem_table_ofCode listed)
  · rw [ofCode_of_not_mem listed, code]

theorem ofCode_injective : Function.Injective ofCode := Function.LeftInverse.injective code_ofCode

theorem shadows_unknown_iff {n : Int32} : (unknown n).Shadows ↔ n ∈ codes := by
  constructor
  · rintro ⟨m, listed, same⟩
    cases same
    exact listed
  · intro listed
    exact ⟨n, listed, rfl⟩

theorem not_shadows_of_mem_named (listed : r ∈ named) : ¬ r.Shadows := by
  rintro ⟨n, -, rfl⟩
  exact unknown_not_mem_named n listed

theorem ofCode_code_iff : ofCode r.code = r ↔ ¬ r.Shadows := by
  rcases mem_named_or_unknown r with named | ⟨n, rfl⟩
  · exact iff_of_true (ofCode_of_mem (mem_table_code named)) (not_shadows_of_mem_named named)
  · rw [shadows_unknown_iff, code]
    constructor
    · intro same listed
      have row := mem_table_ofCode listed
      rw [same] at row
      exact unknown_not_mem_named n (mem_named_of_mem row)
    · exact ofCode_of_not_mem

/-- Every code is that of the result that it stands for, and of no other but the number itself. A
result comes back from its code, with all that it means to a node, unless it is a number with a name
that is given as unknown; that one means nothing. No result is without a code. -/
theorem codes_consistent :
    (∀ c, (ofCode c).code = c) ∧ Function.Injective ofCode ∧
    ∀ r : PresenceResult,
      (ofCode r.code = r ↔ ¬ r.Shadows) ∧
      (∀ c, r.code = c ↔ r = unknown c ∨ (c, r) ∈ table) ∧
      (table.find? (fun row => row.2 == r) = none ↔ ∃ n, r = unknown n) ∧
      (r.code = -1 ↔ r = unknown (-1)) ∧
      (¬ r.Shadows → (ofCode r.code).classify = r.classify) ∧
      (r.Shadows → r.classify = .ignored) := by
  refine ⟨code_ofCode, ofCode_injective, ?_⟩
  intro r
  refine ⟨ofCode_code_iff, fun c => code_eq_iff, find?_row_eq_none_iff, ?_, ?_, ?_⟩
  · rw [code_eq_iff]
    refine or_iff_left ?_
    intro row
    exact absurd (mem_codes_of_mem row) (by decide)
  · intro own
    rw [ofCode_code_iff.mpr own]
  · rintro ⟨n, -, rfl⟩
    rfl

/-- The code of a timeout tells of a departure; the bare number does not. -/
theorem codes_consistent_timeout :
    ¬ timeout.Shadows ∧ (ofCode timeout.code).classify = .departure ∧
    (unknown 30).Shadows ∧ ofCode (unknown 30).code ≠ unknown 30 ∧
    (unknown 30).classify = .ignored := by
  obtain ⟨-, -, consistent⟩ := codes_consistent
  obtain ⟨-, -, -, -, alike, -⟩ := consistent timeout
  obtain ⟨back, -, -, -, -, ignored⟩ := consistent (unknown 30)
  have own : ¬ timeout.Shadows := by
    rintro ⟨n, -, same⟩
    cases same
  have posing : (unknown 30).Shadows := ⟨30, by decide, rfl⟩
  exact ⟨own, alike own, posing, fun same => back.mp same posing, ignored posing⟩

end ReplicaHosting.PresenceResult

import ReplicaHosting.Proofs.Descriptor.Drafting

/-! Which objects are descriptors. An object is read as a descriptor if no field has two members,
address and URI have one, and each member that belongs to a field is of the kind of this field. The
order of the members does not count, and neither do those that belong to no field. -/
namespace ReplicaHosting

namespace Descriptor

variable {members others : List (String × Json.Value)} {d : Descriptor} {f : Field} {v : Json.Value}

/-- The members of an object make a descriptor, in any order and whatever else is among them. -/
structure AreDescriptor (members : List (String × Json.Value)) : Prop where
  once : ∀ f : Field, (members.map Prod.fst).count f.key ≤ 1
  address : ∃ s, ("address", .text s) ∈ members
  uri : ∃ s, ("uri", .text s) ∈ members
  resourceTypes : ∀ v, ("resource_types", v) ∈ members →
    ∃ xs : List String, v = .array (xs.map .text)
  interfaces : ∀ v, ("interfaces", v) ∈ members →
    ∃ xs : List String, v = .array (xs.map .text)
  observable : ∀ v, ("observable", v) ∈ members → ∃ b, v = .boolean b
  instanceId : ∀ v, ("instance_id", v) ∈ members → v = .null ∨ ∃ s, v = .text s

structure Agrees (d : Descriptor) (members : List (String × Json.Value)) : Prop where
  address : ("address", .text d.address) ∈ members
  uri : ("uri", .text d.uri) ∈ members
  resourceTypes : ("resource_types", .array (d.resourceTypes.map .text)) ∈ members ∨
    (∀ v, ("resource_types", v) ∉ members) ∧ d.resourceTypes = []
  interfaces : ("interfaces", .array (d.interfaces.map .text)) ∈ members ∨
    (∀ v, ("interfaces", v) ∉ members) ∧ d.interfaces = []
  observable : ("observable", .boolean d.observable) ∈ members ∨
    (∀ v, ("observable", v) ∉ members) ∧ d.observable = false
  instanceId : ("instance_id", .ofOptional d.instanceId) ∈ members ∨
    (∀ v, ("instance_id", v) ∉ members) ∧ d.instanceId = none

def owned (members : List (String × Json.Value)) : List (String × Json.Value) :=
  members.filter fun m => (Field.ofKey? m.1).isSome

theorem mem_given : v ∈ given f members ↔ (f.key, v) ∈ members := by
  simp [given]

theorem given_eq_nil_iff : given f members = [] ↔ ∀ v, (f.key, v) ∉ members := by
  simp only [List.eq_nil_iff_forall_not_mem, mem_given]

theorem length_given (f : Field) (members : List (String × Json.Value)) :
    (given f members).length = (members.map Prod.fst).count f.key := by
  rw [given, List.length_map, List.count_eq_countP, List.countP_map, List.countP_eq_length_filter]
  rfl

theorem given_owned (f : Field) (members : List (String × Json.Value)) :
    given f (owned members) = given f members := by
  rw [given, given, owned, List.filter_filter]
  congr 2
  funext m
  cases own : m.1 == f.key with
  | false => rfl
  | true => rw [beq_iff_eq.mp own, f.ofKey?_key]; rfl

/-- A field is given at most once, in its own kind, and not left out where it has no default. -/
def IsGiven (f : Field) (members : List (String × Json.Value)) : Prop :=
  (∃ a, given f members = [f.toValue a]) ∨ given f members = [] ∧ f.default? ≠ none

theorem exists_ofMembers_iff :
    (∃ d, ofMembers members = .ok d) ↔ ∀ f, IsGiven f members := by
  simp only [ofMembers_eq_ok_iff]
  constructor
  · rintro ⟨d, each⟩ f
    rcases each f with once | ⟨absent, default⟩
    · exact .inl ⟨d.get f, once⟩
    · refine .inr ⟨absent, ?_⟩
      rw [default]
      exact Option.some_ne_none _
  · intro each
    have found (f : Field) : ∃ a : f.Kind, given f members = [f.toValue a] ∨
        given f members = [] ∧ f.default? = some a := by
      rcases each f with ⟨a, once⟩ | ⟨absent, optional⟩
      · exact ⟨a, .inl once⟩
      · obtain ⟨a, default⟩ := Option.ne_none_iff_exists'.mp optional
        exact ⟨a, .inr ⟨absent, default⟩⟩
    obtain ⟨p, each⟩ := Classical.axiomOfChoice found
    let d : Descriptor :=
      { address := p .address
        uri := p .uri
        resourceTypes := p .resourceTypes
        interfaces := p .interfaces
        observable := p .observable
        instanceId := p .instanceId }
    have own (f : Field) : d.get f = p f := by cases f <;> rfl
    exact ⟨d, fun f => by rw [own]; exact each f⟩

theorem isGiven_of_once (once : (members.map Prod.fst).count f.key ≤ 1)
    (kind : ∀ v, (f.key, v) ∈ members → ∃ a, v = f.toValue a)
    (default : given f members = [] → f.default? ≠ none) : IsGiven f members := by
  rw [← length_given] at once
  cases came : given f members with
  | nil => exact .inr ⟨came, default came⟩
  | cons v rest =>
    obtain ⟨a, rfl⟩ := kind v (mem_given.mp (came ▸ List.mem_cons_self))
    cases rest with
    | nil => exact .inl ⟨a, came⟩
    | cons w rest => simp [came] at once

theorem isGiven_of_mem {a : f.Kind} (once : (members.map Prod.fst).count f.key ≤ 1)
    (own : (f.key, f.toValue a) ∈ members) : IsGiven f members := by
  rw [← length_given] at once
  obtain ⟨v, came⟩ := List.length_eq_one_iff.mp
    (Nat.le_antisymm once (List.length_pos_of_mem (mem_given.mpr own)))
  have same : f.toValue a = v := List.mem_singleton.mp (came ▸ mem_given.mpr own)
  exact .inl ⟨a, by rw [came, same]⟩

namespace IsGiven

variable (given : IsGiven f members)

include given

theorem once : (members.map Prod.fst).count f.key ≤ 1 := by
  rw [← length_given]
  rcases given with ⟨a, once⟩ | ⟨absent, -⟩
  · rw [once]
    exact Nat.le_refl 1
  · rw [absent]
    exact Nat.zero_le 1

theorem kind (mem : (f.key, v) ∈ members) : ∃ a, v = f.toValue a := by
  rcases given with ⟨a, once⟩ | ⟨absent, -⟩
  · exact ⟨a, List.mem_singleton.mp (once ▸ mem_given.mpr mem)⟩
  · exact absurd mem (given_eq_nil_iff.mp absent v)

theorem exists_mem (required : f.default? = none) : ∃ a, (f.key, f.toValue a) ∈ members := by
  rcases given with ⟨a, once⟩ | ⟨-, optional⟩
  · exact ⟨a, mem_given.mp (once ▸ List.mem_singleton_self _)⟩
  · exact absurd required optional

end IsGiven

theorem areDescriptor_iff : AreDescriptor members ↔ ∀ f, IsGiven f members := by
  constructor
  · intro shape f
    cases f with
    | address =>
      obtain ⟨s, own⟩ := shape.address
      exact isGiven_of_mem (shape.once .address) own
    | uri =>
      obtain ⟨s, own⟩ := shape.uri
      exact isGiven_of_mem (shape.once .uri) own
    | resourceTypes =>
      exact isGiven_of_once (shape.once _) shape.resourceTypes fun _ => Option.some_ne_none _
    | interfaces =>
      exact isGiven_of_once (shape.once _) shape.interfaces fun _ => Option.some_ne_none _
    | observable =>
      exact isGiven_of_once (shape.once _) shape.observable fun _ => Option.some_ne_none _
    | instanceId =>
      refine isGiven_of_once (shape.once _) (fun v own => ?_) fun _ => Option.some_ne_none _
      rcases shape.instanceId v own with rfl | ⟨s, rfl⟩
      · exact ⟨none, rfl⟩
      · exact ⟨some s, rfl⟩
  · intro each
    refine ⟨fun f => (each f).once, (each .address).exists_mem rfl, (each .uri).exists_mem rfl,
      fun _ => (each .resourceTypes).kind, fun _ => (each .interfaces).kind,
      fun _ => (each .observable).kind, fun v own => ?_⟩
    obtain ⟨s, rfl⟩ := (each .instanceId).kind own
    cases s with
    | none => exact .inl rfl
    | some s => exact .inr ⟨s, rfl⟩

theorem agrees_of_given
    (each : ∀ f, given f members = [f.toValue (d.get f)] ∨
      given f members = [] ∧ f.default? = some (d.get f)) : d.Agrees members := by
  have required {f : Field} (none : f.default? = none) :
      (f.key, f.toValue (d.get f)) ∈ members := by
    rcases each f with once | ⟨-, default⟩
    · exact mem_given.mp (once ▸ List.mem_singleton_self _)
    · rw [none] at default
      cases default
  have optional {f : Field} {a : f.Kind} (some : f.default? = some a) :
      (f.key, f.toValue (d.get f)) ∈ members ∨ (∀ v, (f.key, v) ∉ members) ∧ d.get f = a := by
    rcases each f with once | ⟨absent, default⟩
    · exact .inl (mem_given.mp (once ▸ List.mem_singleton_self _))
    · rw [some] at default
      exact .inr ⟨given_eq_nil_iff.mp absent, (Option.some.inj default).symm⟩
  exact
    { address := required (f := .address) rfl
      uri := required (f := .uri) rfl
      resourceTypes := optional (f := .resourceTypes) rfl
      interfaces := optional (f := .interfaces) rfl
      observable := optional (f := .observable) rfl
      instanceId := optional (f := .instanceId) rfl }

theorem given_perm (same : (owned members).Perm (owned others)) (f : Field) :
    (given f members).Perm (given f others) := by
  rw [← given_owned f members, ← given_owned f others]
  exact (same.filter _).map _

/-- The text of an object is read exactly if its members make a descriptor: no field is given twice,
address and URI are given as texts, and what else is given is of the kind of its field. Each field
then has the value that is given, or its default. Otherwise there is an error. Neither the order of
the members counts nor what belongs to no field. -/
theorem ofMembers_exact (members : List (String × Json.Value)) :
    ((∃ d, ofMembers members = .ok d) ↔ AreDescriptor members) ∧
    (¬AreDescriptor members → ∃ e, ofMembers members = .error e) ∧
    (∀ d, ofMembers members = .ok d → d.Agrees members) ∧
    (∀ others, (owned members).Perm (owned others) →
      (ofMembers members).toOption = (ofMembers others).toOption) := by
  have accepted : (∃ d, ofMembers members = .ok d) ↔ AreDescriptor members :=
    exists_ofMembers_iff.trans areDescriptor_iff.symm
  refine ⟨accepted, fun other => ?_, fun d read => agrees_of_given (ofMembers_eq_ok_iff.mp read),
    fun others same => Option.ext fun d => ?_⟩
  · cases came : ofMembers members with
    | error e => exact ⟨e, rfl⟩
    | ok d => exact absurd (accepted.mp ⟨d, came⟩) other
  · have singleton (f : Field) (v : Json.Value) : given f members = [v] ↔ given f others = [v] := by
      rw [← List.perm_singleton, ← List.perm_singleton, (given_perm same f).congr_left]
    have empty (f : Field) : given f members = [] ↔ given f others = [] := by
      rw [← List.perm_nil, ← List.perm_nil, (given_perm same f).congr_left]
    rw [toOption_eq_some_iff, toOption_eq_some_iff, ofMembers_eq_ok_iff,
      ofMembers_eq_ok_iff]
    simp only [singleton, empty]

end Descriptor

end ReplicaHosting

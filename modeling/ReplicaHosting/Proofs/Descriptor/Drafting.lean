import ReplicaHosting.Proofs.Descriptor.RoundTrip
import ReplicaHosting.Proofs.Json.Wanted

/-! Reading a printed object as a descriptor. Its members are taken one after the other into a
draft, which in the end holds of each field what the members give for it. Those that belong to no
field are passed over. -/
namespace ReplicaHosting

namespace Descriptor

variable {d : Descriptor} {f g : Field} {v : Json.Value}

/-! ## What a field holds -/

namespace Field

def Kind : Field → Type
  | address | uri => String
  | resourceTypes | interfaces => List String
  | observable => Bool
  | instanceId => Option String

def toValue : (f : Field) → f.Kind → Json.Value
  | address, s => .text s
  | uri, s => .text s
  | resourceTypes, xs => .array (xs.map .text)
  | interfaces, xs => .array (xs.map .text)
  | observable, b => .boolean b
  | instanceId, s => .ofOptional s

def ofValue? : (f : Field) → Json.Value → Option f.Kind
  | address => Json.Value.text?
  | uri => Json.Value.text?
  | resourceTypes => Json.Value.texts?
  | interfaces => Json.Value.texts?
  | observable => Json.Value.flag?
  | instanceId => Json.Value.optionalText?

theorem ofValue?_eq_some_iff {a : f.Kind} : f.ofValue? v = some a ↔ v = f.toValue a := by
  cases f with
  | address => exact Json.Value.text?_eq_some_iff
  | uri => exact Json.Value.text?_eq_some_iff
  | resourceTypes => exact Json.Value.texts?_eq_some_iff
  | interfaces => exact Json.Value.texts?_eq_some_iff
  | observable => exact Json.Value.flag?_eq_some_iff
  | instanceId => exact Json.Value.optionalText?_eq_some_iff

theorem ofValue?_toValue (a : f.Kind) : f.ofValue? (f.toValue a) = some a :=
  ofValue?_eq_some_iff.mpr rfl

theorem toValue_inj {a b : f.Kind} (same : f.toValue a = f.toValue b) : a = b := by
  rw [← ofValue?_eq_some_iff, ofValue?_toValue] at same
  exact Option.some.inj same

def read : (f : Field) → List Char → Json.Reading f.Kind
  | address => Json.readString .text
  | uri => Json.readString .text
  | resourceTypes => Json.readList
  | interfaces => Json.readList
  | observable => Json.readBoolean
  | instanceId => Json.readOptional

theorem read_render (f : Field) (v : Json.Value) (r : List Char) :
    (f.read (v.render ++ r)).toOption = (f.ofValue? v).map (·, r) := by
  cases f with
  | address => exact Json.readString_render .text v r
  | uri => exact Json.readString_render .text v r
  | resourceTypes => exact Json.readList_render v r
  | interfaces => exact Json.readList_render v r
  | observable => exact Json.readBoolean_render v r
  | instanceId => exact Json.readOptional_render v r

def default? : (f : Field) → Option f.Kind
  | address | uri => none
  | resourceTypes | interfaces => some []
  | observable => some false
  | instanceId => some none

end Field

def get (d : Descriptor) : (f : Field) → f.Kind
  | .address => d.address
  | .uri => d.uri
  | .resourceTypes => d.resourceTypes
  | .interfaces => d.interfaces
  | .observable => d.observable
  | .instanceId => d.instanceId

/-! ## Drafts -/

namespace Draft

variable {x y : Draft}

def get? (x : Draft) : (f : Field) → Option f.Kind
  | .address => x.address
  | .uri => x.uri
  | .resourceTypes => x.resourceTypes
  | .interfaces => x.interfaces
  | .observable => x.observable
  | .instanceId => x.instanceId

def set (x : Draft) : (f : Field) → f.Kind → Draft
  | .address, s => { x with address := some s }
  | .uri, s => { x with uri := some s }
  | .resourceTypes, xs => { x with resourceTypes := some xs }
  | .interfaces, xs => { x with interfaces := some xs }
  | .observable, b => { x with observable := some b }
  | .instanceId, s => { x with instanceId := some s }

theorem get?_set (x : Draft) (f : Field) (a : f.Kind) : (x.set f a).get? f = some a := by
  cases f <;> rfl

theorem get?_set_other (other : g ≠ f) (x : Draft) (a : f.Kind) :
    (x.set f a).get? g = x.get? g := by
  cases f <;> cases g <;> first | rfl | exact absurd rfl other

def ofFields (p : (f : Field) → Option f.Kind) : Draft :=
  { address := p .address
    uri := p .uri
    resourceTypes := p .resourceTypes
    interfaces := p .interfaces
    observable := p .observable
    instanceId := p .instanceId }

theorem get?_ofFields (p : (f : Field) → Option f.Kind) (f : Field) :
    (ofFields p).get? f = p f := by
  cases f <;> rfl

theorem ext_of_get? (same : ∀ f, x.get? f = y.get? f) : x = y := by
  cases x with
  | mk address uri types interfaces observable instanceId =>
  cases y with
  | mk address' uri' types' interfaces' observable' instanceId' =>
  congr
  · exact same .address
  · exact same .uri
  · exact same .resourceTypes
  · exact same .interfaces
  · exact same .observable
  · exact same .instanceId

theorem has_eq (x : Draft) (f : Field) : x.has f = (x.get? f).isSome := by
  cases f <;> rfl

theorem take_eq (x : Draft) (f : Field) (s : List Char) :
    x.take f s = (f.read s).map fun y => (x.set f y.1, y.2) := by
  cases f with
  | address => simp only [take, Field.read]; cases Json.readString .text s <;> rfl
  | uri => simp only [take, Field.read]; cases Json.readString .text s <;> rfl
  | resourceTypes => simp only [take, Field.read]; cases Json.readList s <;> rfl
  | interfaces => simp only [take, Field.read]; cases Json.readList s <;> rfl
  | observable => simp only [take, Field.read]; cases Json.readBoolean s <;> rfl
  | instanceId => simp only [take, Field.read]; cases Json.readOptional s <;> rfl

def accept? (x : Draft) (m : String × Json.Value) : Option Draft :=
  match Field.ofKey? m.1 with
  | none => some x
  | some f => if x.has f then none else (f.ofValue? m.2).map (x.set f)

theorem take_render (x : Draft) (f : Field) (v : Json.Value) (r : List Char) :
    (x.take f (v.render ++ r)).toOption = (f.ofValue? v).map fun a => (x.set f a, r) := by
  have read := f.read_render v r
  rw [take_eq]
  cases kind : f.ofValue? v with
  | none =>
    obtain ⟨e, refused⟩ := eq_error_of_toOption (read.trans (by rw [kind]; rfl))
    rw [refused]
    rfl
  | some a =>
    rw [toOption_eq_some_iff.mp (read.trans (by rw [kind]; rfl))]
    rfl

end Draft

theorem readMember_render (x : Draft) (name : String) (v : Json.Value) {r : List Char}
    (closed : Json.IsBehindValue r) :
    (readMember x (Json.memberTail name v.render ++ r)).toOption =
      (x.accept? (name, v)).map (·, r) := by
  have text : Json.memberTail name v.render ++ r =
      name.toList.flatMap Json.escape ++ '\x22' :: ':' :: (v.render ++ r) := by
    simp [Json.memberTail]
  have colon : Json.afterColon (':' :: (v.render ++ r)) = .ok (v.render ++ r) := rfl
  simp only [readMember, text, Json.readText_escape, bind, Except.bind, String.ofList_toList, colon,
    Draft.accept?]
  cases owner : Field.ofKey? name with
  | none =>
    have skipped := Json.skipValue_render v [] closed
    rw [Json.skipAfter] at skipped
    rw [skipped]
    rfl
  | some f =>
    cases met : x.has f with
    | true =>
      simp only [met, if_true]
      rfl
    | false =>
      simp only [met, Bool.false_eq_true, if_false]
      rw [x.take_render f v r, Option.map_map]
      rfl

theorem readMembers_member {s r : List Char} {first : Bool} {name : String} {v : Json.Value}
    (more : Json.nextMember first s = .ok (true, Json.memberTail name v.render ++ r))
    (closed : Json.IsBehindValue r) (fuel : Nat) (x : Draft) :
    (readMembers (fuel + 1) first x s).toOption =
      (x.accept? (name, v)).bind fun y => (readMembers fuel false y r).toOption := by
  have member := readMember_render x name v closed
  rw [readMembers, more]
  cases taken : x.accept? (name, v) with
  | none =>
    obtain ⟨e, refused⟩ := eq_error_of_toOption (member.trans (by rw [taken]; rfl))
    simp only [refused]
    rfl
  | some y =>
    simp only [toOption_eq_some_iff.mp (member.trans (by rw [taken]; rfl))]
    rfl

theorem readMembers_later_render (members : List (String × Json.Value)) (x : Draft) {fuel : Nat}
    (enough : members.length < fuel) (r : List Char) :
    (readMembers fuel false x (Json.laterMembers members ++ '\x7d' :: r)).toOption =
      (members.foldlM Draft.accept? x).map (·, r) := by
  obtain ⟨fuel, rfl⟩ := Nat.exists_eq_succ_of_ne_zero (Nat.ne_zero_of_lt enough)
  induction members generalizing x fuel with
  | nil => rfl
  | cons m members ih =>
    obtain ⟨fuel, rfl⟩ := Nat.exists_eq_succ_of_ne_zero
      (Nat.ne_zero_of_lt (Nat.lt_of_succ_lt_succ enough))
    obtain ⟨name, v⟩ := m
    rw [Json.laterMembers_cons, Json.renderMember_eq, List.cons_append,
      readMembers_member (Json.nextMember_later _) (Json.isBehindValue_laterMembers members r),
      List.foldlM_cons]
    cases x.accept? (name, v) with
    | none => rfl
    | some y => exact ih y fuel (Nat.lt_of_succ_lt_succ enough)

theorem length_le_laterMembers_render (members : List (String × Json.Value)) :
    members.length ≤ (Json.laterMembers members).length := by
  induction members with
  | nil => exact Nat.le_refl 0
  | cons m members ih =>
    simp only [Json.laterMembers, Json.renderMembers, List.flatMap_cons, List.length_append,
      List.length_cons] at ih ⊢
    omega

theorem readMembers_render {members : List (String × Json.Value)} {s : List Char}
    (text : (Json.Value.object members).render = '\x7b' :: s) :
    (readMembers (s.length + 1) true {} s).toOption =
      (members.foldlM Draft.accept? {}).map (·, []) := by
  cases members with
  | nil =>
    cases (List.cons.inj text).2
    rfl
  | cons m members =>
    obtain ⟨name, v⟩ := m
    rw [← List.append_nil (Json.Value.render _), Json.render_object_cons, Json.renderMember_eq,
      List.cons_append] at text
    cases (List.cons.inj text).2
    have enough := length_le_laterMembers_render members
    rw [readMembers_member (Json.nextMember_first _) (Json.isBehindValue_laterMembers members []),
      List.foldlM_cons]
    cases Draft.accept? {} (name, v) with
    | none => rfl
    | some y =>
      refine readMembers_later_render members y ?_ []
      simp only [List.length_cons, List.length_append]
      omega

def ofMembers (members : List (String × Json.Value)) : Except Json.DecodeError Descriptor :=
  parse (String.ofList (Json.Value.object members).render)

theorem toOption_ofMembers (members : List (String × Json.Value)) :
    (ofMembers members).toOption =
      (members.foldlM Draft.accept? {}).bind fun x => x.finish.toOption := by
  obtain ⟨s, text⟩ : ∃ s, (Json.Value.object members).render = '\x7b' :: s := by
    rw [Json.Value.render]
    exact ⟨_, rfl⟩
  have opened : read ('\x7b' :: s) =
      (readMembers (s.length + 1) true {} s).bind fun y =>
        y.1.finish.bind fun e => .ok (e, y.2) := rfl
  have came := readMembers_render text
  simp only [ofMembers, parse, Json.whole, String.toList_ofList, text, opened]
  cases drafted : members.foldlM Draft.accept? {} with
  | none =>
    obtain ⟨e, refused⟩ := eq_error_of_toOption (came.trans (by rw [drafted]; rfl))
    rw [refused]
    rfl
  | some x =>
    rw [toOption_eq_some_iff.mp (came.trans (by rw [drafted]; rfl))]
    simp only [Except.bind, bind, Option.bind_some]
    cases x.finish <;> rfl

/-! ## Members -/

theorem Field.ofKey?_eq_some_iff {k : String} : ofKey? k = some f ↔ k = f.key :=
  find?_word_iff ofKey?_key

theorem Field.key_inj (same : f.key = g.key) : f = g := word_inj ofKey?_key same

def given (f : Field) (members : List (String × Json.Value)) : List Json.Value :=
  (members.filter fun m => m.1 == f.key).map Prod.snd

theorem given_cons_own (f : Field) (v : Json.Value) (members : List (String × Json.Value)) :
    given f ((f.key, v) :: members) = v :: given f members := by
  simp [given]

theorem given_cons_other {name : String} (other : name ≠ f.key) (v : Json.Value)
    (members : List (String × Json.Value)) :
    given f ((name, v) :: members) = given f members := by
  simp [given, other]

namespace Draft

variable {x y : Draft}

def values (x : Draft) (f : Field) : List Json.Value := ((x.get? f).map f.toValue).toList

theorem values_eq_nil_iff : x.values f = [] ↔ x.get? f = none := by
  rw [values, Option.toList_eq_nil_iff, Option.map_eq_none_iff]

theorem values_eq_singleton_iff {a : f.Kind} :
    x.values f = [f.toValue a] ↔ x.get? f = some a := by
  rw [values, Option.toList_eq_singleton_iff, Option.map_eq_some_iff]
  constructor
  · rintro ⟨b, own, same⟩
    rw [own, Field.toValue_inj same]
  · intro own
    exact ⟨a, own, rfl⟩

theorem ext_of_values (same : ∀ f, x.values f = y.values f) : x = y := by
  refine ext_of_get? fun f => ?_
  cases own : y.get? f with
  | none => rw [← values_eq_nil_iff, same f, values_eq_nil_iff, own]
  | some a => rw [← values_eq_singleton_iff, same f, values_eq_singleton_iff, own]

theorem length_values_le (x : Draft) (f : Field) : (x.values f).length ≤ 1 := by
  rw [values]
  cases (x.get? f).map f.toValue <;> simp

theorem ofValue?_of_mem_values (mem : v ∈ x.values f) : f.ofValue? v ≠ none := by
  obtain ⟨a, -, rfl⟩ := Option.map_eq_some_iff.mp (Option.mem_toList.mp mem)
  rw [Field.ofValue?_toValue]
  exact Option.some_ne_none a

theorem values_set {a : f.Kind} (kind : f.ofValue? v = some a) (x : Draft) :
    (x.set f a).values f = [v] := by
  rw [values, get?_set, Field.ofValue?_eq_some_iff.mp kind]
  rfl

theorem values_set_other (other : g ≠ f) (x : Draft) (a : f.Kind) :
    (x.set f a).values g = x.values g := by
  rw [values, get?_set_other other, values]

theorem values_set_append {a : f.Kind} (free : x.values f = []) (kind : f.ofValue? v = some a)
    (members : List (String × Json.Value)) (g : Field) :
    (x.set f a).values g ++ given g members = x.values g ++ given g ((f.key, v) :: members) := by
  by_cases own : g = f
  · rw [own, free, values_set kind, given_cons_own]
    rfl
  · have other : f.key ≠ g.key := fun same => own (Field.key_inj same).symm
    rw [values_set_other own, given_cons_other other]

theorem accept?_own_iff : x.accept? (f.key, v) = some y ↔
    x.values f = [] ∧ ∃ a, f.ofValue? v = some a ∧ x.set f a = y := by
  simp only [accept?, f.ofKey?_key, has_eq, values_eq_nil_iff, ← Option.map_eq_some_iff]
  cases x.get? f <;> simp

theorem accept?_unknown {name : String} (unknown : Field.ofKey? name = none) (x : Draft)
    (v : Json.Value) : x.accept? (name, v) = some x := by
  rw [accept?, unknown]

/-- After some members a draft holds of each field what it has held before, and then what the
members give for it. -/
theorem foldlM_accept?_iff {members : List (String × Json.Value)} :
    members.foldlM accept? x = some y ↔ ∀ f, y.values f = x.values f ++ given f members := by
  induction members generalizing x with
  | nil =>
    constructor
    · rintro ⟨⟩ f
      exact (List.append_nil _).symm
    · intro same
      rw [ext_of_values fun f => (same f).trans (List.append_nil _)]
      rfl
  | cons m members ih =>
    obtain ⟨name, v⟩ := m
    rw [List.foldlM_cons]
    cases owner : Field.ofKey? name with
    | none =>
      have unknown (f : Field) : name ≠ f.key := by
        rintro rfl
        rw [f.ofKey?_key] at owner
        cases owner
      simp only [given_cons_other (unknown _), accept?_unknown owner]
      exact ih
    | some f =>
      obtain rfl := Field.ofKey?_eq_some_iff.mp owner
      rw [Option.bind_eq_bind, Option.bind_eq_some_iff]
      constructor
      · rintro ⟨z, accepted, rest⟩ g
        obtain ⟨free, a, kind, rfl⟩ := accept?_own_iff.mp accepted
        rw [ih.mp rest g, values_set_append free kind]
      · intro sum
        -- The sum for this field is the one value of its member, so there is no room for another.
        have own := sum f
        rw [given_cons_own] at own
        have free : x.values f = [] := by
          have short := y.length_values_le f
          rw [own, List.length_append, List.length_cons] at short
          exact List.length_eq_zero_iff.mp (by omega)
        have mem : v ∈ y.values f := by simp [own]
        obtain ⟨a, kind⟩ := Option.ne_none_iff_exists'.mp (ofValue?_of_mem_values mem)
        refine ⟨x.set f a, accept?_own_iff.mpr ⟨free, a, kind, rfl⟩, ih.mpr fun g => ?_⟩
        rw [sum g, values_set_append free kind]

end Draft

theorem getD_eq_iff {α : Type} {o : Option α} {a b : α} :
    o.getD b = a ↔ o = some a ∨ o = none ∧ some b = some a := by
  cases o <;> simp

theorem Draft.finish_eq_ok_iff {x : Draft} :
    x.finish = .ok d ↔
      ∀ f, x.get? f = some (d.get f) ∨ x.get? f = none ∧ f.default? = some (d.get f) := by
  constructor
  · intro whole
    unfold Draft.finish at whole
    split at whole
    · cases whole
    · cases whole
    · rename_i address uri
      cases whole
      intro f
      cases f with
      | address => exact .inl address
      | uri => exact .inl uri
      | _ => exact getD_eq_iff.mp rfl
  · intro whole
    have address : x.address = some d.address := (whole .address).resolve_right (by
      rintro ⟨-, ⟨⟩⟩)
    have uri : x.uri = some d.uri := (whole .uri).resolve_right (by
      rintro ⟨-, ⟨⟩⟩)
    have types : x.resourceTypes.getD [] = d.resourceTypes := getD_eq_iff.mpr (whole .resourceTypes)
    have interfaces : x.interfaces.getD [] = d.interfaces := getD_eq_iff.mpr (whole .interfaces)
    have observable : x.observable.getD false = d.observable := getD_eq_iff.mpr (whole .observable)
    have instanceId : x.instanceId.getD none = d.instanceId := getD_eq_iff.mpr (whole .instanceId)
    simp only [Draft.finish, address, uri, types, interfaces, observable, instanceId]

/-- An object is read as this descriptor if its members give each field once, or not at all where
the descriptor has the default. -/
theorem ofMembers_eq_ok_iff {members : List (String × Json.Value)} :
    ofMembers members = .ok d ↔
      ∀ f, given f members = [f.toValue (d.get f)] ∨
        given f members = [] ∧ f.default? = some (d.get f) := by
  have read := toOption_ofMembers members
  have empty (f : Field) : Draft.values {} f = [] := by cases f <;> rfl
  constructor
  · intro parsed f
    rw [parsed] at read
    obtain ⟨x, drafted, whole⟩ := Option.bind_eq_some_iff.mp read.symm
    have held := Draft.foldlM_accept?_iff.mp drafted f
    rw [empty, List.nil_append] at held
    rw [← held, Draft.values_eq_singleton_iff, Draft.values_eq_nil_iff]
    exact Draft.finish_eq_ok_iff.mp (toOption_eq_some_iff.mp whole) f
  · intro each
    let x := Draft.ofFields fun f => if (given f members).isEmpty then none else some (d.get f)
    have drafted : members.foldlM Draft.accept? {} = some x := by
      refine Draft.foldlM_accept?_iff.mpr fun f => ?_
      rw [empty, List.nil_append]
      rcases each f with once | ⟨absent, -⟩
      · rw [once, Draft.values_eq_singleton_iff, Draft.get?_ofFields, once]
        rfl
      · rw [absent, Draft.values_eq_nil_iff, Draft.get?_ofFields, absent]
        rfl
    have whole : x.finish = .ok d := by
      refine Draft.finish_eq_ok_iff.mpr fun f => ?_
      rw [Draft.get?_ofFields]
      rcases each f with once | ⟨absent, default⟩
      · rw [once]
        exact .inl rfl
      · rw [absent]
        exact .inr ⟨rfl, default⟩
    rw [drafted, Option.bind_some, whole] at read
    exact toOption_eq_some_iff.mp read

end Descriptor

end ReplicaHosting

import ReplicaHosting.Descriptor.Json
import ReplicaHosting.Proofs.Json.Printed

/-! A descriptor is read back from its own text: nothing of it is lost, and no default stands in for
a value that was there. Members are read one at a time, each into its own place of the draft, so
that the draft is the descriptor in the end. -/
namespace ReplicaHosting

namespace Json

def memberTail (name : String) (value : List Char) : List Char :=
  name.toList.flatMap escape ++ '\x22' :: ':' :: value

theorem renderMember_eq (name : String) (value : List Char) :
    renderMember name value = '\x22' :: memberTail name value := by
  simp [renderMember, renderText, memberTail]

theorem renderItems_texts (xs : List String) :
    renderItems (xs.map .text) = xs.map renderText := by
  induction xs with
  | nil => rfl
  | cons x xs ih => rw [List.map_cons, renderItems, ih, Value.render, List.map_cons]

theorem nextMember_first (r : List Char) : nextMember true ('\x22' :: r) = .ok (true, r) := rfl

theorem nextMember_later (r : List Char) : nextMember false (',' :: '\x22' :: r) = .ok (true, r) :=
  rfl

end Json

namespace Descriptor

def printed (d : Descriptor) : Field → List Char
  | .address => Json.renderText d.address
  | .uri => Json.renderText d.uri
  | .resourceTypes => Json.bracketed (d.resourceTypes.map Json.renderText)
  | .interfaces => Json.bracketed (d.interfaces.map Json.renderText)
  | .observable => Json.renderBool d.observable
  | .instanceId => match d.instanceId with
    | none => "null".toList
    | some i => Json.renderText i

theorem render_eq (d : Descriptor) :
    d.render = String.ofList
      (Json.braced (Field.all.map fun f => Json.renderMember f.key (d.printed f))) := rfl

def Draft.fill (d : Descriptor) (x : Draft) : Field → Draft
  | .address => { x with address := some d.address }
  | .uri => { x with uri := some d.uri }
  | .resourceTypes => { x with resourceTypes := some d.resourceTypes }
  | .interfaces => { x with interfaces := some d.interfaces }
  | .observable => { x with observable := some d.observable }
  | .instanceId => { x with instanceId := some d.instanceId }

theorem Draft.has_fill (d : Descriptor) (x : Draft) (f g : Field) :
    (x.fill d f).has g = (g == f || x.has g) := by
  cases f <;> cases g <;> rfl

theorem Draft.take_printed (d : Descriptor) (x : Draft) (f : Field) (r : List Char) :
    x.take f (d.printed f ++ r) = .ok (x.fill d f, r) := by
  cases f with
  | address => simp only [take, printed, Json.readString_renderText, fill]
  | uri => simp only [take, printed, Json.readString_renderText, fill]
  | resourceTypes => simp only [take, printed, Json.readList_bracketed, fill]
  | interfaces => simp only [take, printed, Json.readList_bracketed, fill]
  | observable => simp only [take, printed, Json.readBoolean_renderBool, fill]
  | instanceId =>
    cases given : d.instanceId with
    | none => simp only [take, printed, given, Json.readOptional_null, fill]
    | some i => simp only [take, printed, given, Json.readOptional_renderText, fill]

theorem Field.ofKey?_key (f : Field) : ofKey? f.key = some f := by
  cases f <;> decide

theorem readMember_printed {x : Draft} {f : Field} (free : x.has f = false) (d : Descriptor)
    (r : List Char) :
    readMember x (Json.memberTail f.key (d.printed f) ++ r) = .ok (x.fill d f, r) := by
  have name : Json.memberTail f.key (d.printed f) ++ r =
      f.key.toList.flatMap Json.escape ++ '\x22' :: ':' :: (d.printed f ++ r) := by
    simp [Json.memberTail]
  have colon : Json.afterColon (':' :: (d.printed f ++ r)) = .ok (d.printed f ++ r) := rfl
  simp only [readMember, name, Json.readText_escape, bind, Except.bind, String.ofList_toList,
    Field.ofKey?_key, free, colon, Draft.take_printed]
  rfl

def laterMembers (d : Descriptor) (fs : List Field) : List Char :=
  fs.flatMap fun f => ',' :: '\x22' :: Json.memberTail f.key (d.printed f)

theorem readMembers_later (d : Descriptor) {fs : List Field} (distinct : fs.Nodup) {x : Draft}
    (free : ∀ f ∈ fs, x.has f = false) {fuel : Nat} (enough : fs.length < fuel) (r : List Char) :
    readMembers fuel false x (d.laterMembers fs ++ '\x7d' :: r) =
      .ok (fs.foldl (Draft.fill d) x, r) := by
  induction fs generalizing x fuel with
  | nil =>
    obtain ⟨fuel, rfl⟩ := Nat.exists_eq_succ_of_ne_zero (Nat.ne_zero_of_lt enough)
    rfl
  | cons f fs ih =>
    obtain ⟨fuel, rfl⟩ := Nat.exists_eq_succ_of_ne_zero (Nat.ne_zero_of_lt enough)
    obtain ⟨other, distinct⟩ := List.nodup_cons.mp distinct
    have rest : ∀ g ∈ fs, (x.fill d f).has g = false := by
      intro g mem
      have different : g ≠ f := fun same => other (same ▸ mem)
      simp [Draft.has_fill, different, free g (List.mem_cons_of_mem f mem)]
    have front : d.laterMembers (f :: fs) ++ '\x7d' :: r =
        ',' :: '\x22' :: (Json.memberTail f.key (d.printed f) ++
          (d.laterMembers fs ++ '\x7d' :: r)) := by
      simp [laterMembers]
    rw [front, readMembers, Json.nextMember_later]
    dsimp only
    rw [readMember_printed (free f List.mem_cons_self)]
    exact ih distinct rest (Nat.lt_of_succ_lt_succ enough)

theorem length_le_laterMembers (d : Descriptor) (fs : List Field) :
    fs.length ≤ (d.laterMembers fs).length := by
  induction fs with
  | nil => exact Nat.le_refl 0
  | cons f fs ih =>
    rw [laterMembers, List.flatMap_cons, List.length_append, List.length_cons, List.length_cons]
    exact Nat.le_trans (Nat.succ_le_succ ih) (by rw [laterMembers]; omega)

theorem read_of_readMembers {x : Draft} {d : Descriptor} {s r : List Char}
    (members : readMembers (s.length + 1) true {} s = .ok (x, r)) (whole : x.finish = .ok d) :
    read ('\x7b' :: s) = .ok (d, r) := by
  have opened : read ('\x7b' :: s) =
      (readMembers (s.length + 1) true {} s).bind fun y =>
        y.1.finish.bind fun e => .ok (e, y.2) := rfl
  rw [opened, members]
  simp only [Except.bind, whole]

theorem read_render (d : Descriptor) (r : List Char) :
    read (d.render.toList ++ r) = .ok (d, r) := by
  let later : List Field := [.uri, .resourceTypes, .interfaces, .observable, .instanceId]
  let behind : List Char := d.laterMembers later ++ '\x7d' :: r
  let s : List Char := Json.memberTail Field.address.key (d.printed .address) ++ behind
  have text : d.render.toList ++ r = '\x7b' :: '\x22' :: s := by
    simp [render_eq, Json.braced, Field.all, Json.commaSeparated_cons, Json.renderMember_eq, s,
      behind, later, laterMembers]
  have free : ∀ f ∈ later, (Draft.fill d {} .address).has f = false := by
    intro f mem
    rw [Draft.has_fill]
    revert f
    decide
  have enough : later.length < s.length + 1 := by
    have length := d.length_le_laterMembers later
    simp only [s, behind, List.length_append]
    omega
  have members : readMembers (('\x22' :: s).length + 1) true {} ('\x22' :: s) =
      .ok (Field.all.foldl (Draft.fill d) {}, r) := by
    rw [List.length_cons, readMembers, Json.nextMember_first]
    dsimp only
    rw [readMember_printed (f := .address) rfl]
    exact readMembers_later d (by decide) free enough r
  rw [text]
  exact read_of_readMembers members rfl

def object (d : Descriptor) : Json.Value :=
  .object
    [("address", .text d.address),
     ("uri", .text d.uri),
     ("resource_types", .array (d.resourceTypes.map .text)),
     ("interfaces", .array (d.interfaces.map .text)),
     ("observable", .boolean d.observable),
     ("instance_id", match d.instanceId with
       | none => .null
       | some i => .text i)]

theorem render_eq_object (d : Descriptor) : d.render = String.ofList d.object.render := by
  cases given : d.instanceId with
  | none =>
    simp only [render, object, given, Json.Value.render, Json.renderMembers,
      Json.renderItems_texts]
  | some i =>
    simp only [render, object, given, Json.Value.render, Json.renderMembers,
      Json.renderItems_texts]

/-- A descriptor is written as the compact text of an object with its fields in the order of the
type. Whatever they hold, this text is read back as just this descriptor. -/
theorem parse_render (d : Descriptor) :
    d.render = String.ofList d.object.render ∧ Descriptor.parse d.render = .ok d := by
  refine ⟨d.render_eq_object, ?_⟩
  have all := read_render d []
  rw [List.append_nil] at all
  simp only [parse, Json.whole, all, bind, Except.bind]
  rfl

end Descriptor

end ReplicaHosting

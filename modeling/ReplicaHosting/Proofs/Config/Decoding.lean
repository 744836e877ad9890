import ReplicaHosting.Config.Toml
import ReplicaHosting.Proofs.Toml.Lines

/-! Configurations from documents of lines. The lines override the defaults, each the field that its
key names, and what comes out has to be valid. -/
namespace ReplicaHosting

theorem Connectivity.ofWord?_word (x : Connectivity) : ofWord? x.word = some x := by
  cases x <;> decide

theorem Connectivity.ofWord?_eq_some_iff {w : String} {x : Connectivity} :
    ofWord? w = some x ↔ w = x.word := find?_word_iff ofWord?_word

theorem Connectivity.mem_words {w : String} : w ∈ all.map word ↔ ∃ x, ofWord? w = some x :=
  mem_words_iff ofWord?_word

theorem DedupPolicy.ofWord?_word (x : DedupPolicy) : ofWord? x.word = some x := by
  cases x <;> decide

theorem DedupPolicy.ofWord?_eq_some_iff {w : String} {x : DedupPolicy} :
    ofWord? w = some x ↔ w = x.word := find?_word_iff ofWord?_word

theorem DedupPolicy.mem_words {w : String} : w ∈ all.map word ↔ ∃ x, ofWord? w = some x :=
  mem_words_iff ofWord?_word

namespace Config

variable {c d : Config} {f g : Field} {v : String}

/-! ## Fields as words -/

theorem Field.ofKey?_key (f : Field) : ofKey? f.key = some f := by
  cases f <;> decide

theorem Field.ofKey?_eq_some_iff {k : String} : ofKey? k = some f ↔ k = f.key :=
  find?_word_iff ofKey?_key

theorem Field.key_inj (same : f.key = g.key) : f = g := word_inj ofKey?_key same

def word (c : Config) : Field → String
  | .presenceAddress => c.presenceAddress
  | .discoveryUri => c.discoveryUri
  | .resourceType => c.resourceType
  | .connectivity => c.connectivity.word
  | .dedupPolicy => c.dedupPolicy.word

theorem ext_of_word (same : ∀ f, c.word f = d.word f) : c = d := by
  have connectivity : c.connectivity = d.connectivity :=
    word_inj Connectivity.ofWord?_word (same .connectivity)
  have policy : c.dedupPolicy = d.dedupPolicy :=
    word_inj DedupPolicy.ofWord?_word (same .dedupPolicy)
  cases c with
  | mk address uri type connectivity policy =>
  cases d with
  | mk address' uri' type' connectivity' policy' =>
  congr
  · exact same .presenceAddress
  · exact same .discoveryUri
  · exact same .resourceType

def Field.Admits (v : String) : Field → Prop
  | presenceAddress | discoveryUri | resourceType => True
  | connectivity => v ∈ Connectivity.all.map Connectivity.word
  | dedupPolicy => v ∈ DedupPolicy.all.map DedupPolicy.word

def put? (c : Config) (v : String) : Field → Option Config
  | .presenceAddress => some { c with presenceAddress := v }
  | .discoveryUri => some { c with discoveryUri := v }
  | .resourceType => some { c with resourceType := v }
  | .connectivity => (Connectivity.ofWord? v).map fun x => { c with connectivity := x }
  | .dedupPolicy => (DedupPolicy.ofWord? v).map fun x => { c with dedupPolicy := x }

theorem put?_eq_some (taken : c.put? v f = some d) :
    d.word f = v ∧ ∀ g, g ≠ f → d.word g = c.word g := by
  cases f with
  | connectivity =>
    obtain ⟨x, found, rfl⟩ := Option.map_eq_some_iff.mp taken
    refine ⟨(Connectivity.ofWord?_eq_some_iff.mp found).symm, ?_⟩
    intro g other
    cases g <;> first | rfl | exact absurd rfl other
  | dedupPolicy =>
    obtain ⟨x, found, rfl⟩ := Option.map_eq_some_iff.mp taken
    refine ⟨(DedupPolicy.ofWord?_eq_some_iff.mp found).symm, ?_⟩
    intro g other
    cases g <;> first | rfl | exact absurd rfl other
  | _ =>
    cases taken
    refine ⟨rfl, ?_⟩
    intro g other
    cases g <;> first | rfl | exact absurd rfl other

theorem exists_put?_iff (c : Config) : (∃ d, c.put? v f = some d) ↔ f.Admits v := by
  cases f with
  | connectivity =>
    rw [Field.Admits, Connectivity.mem_words, put?]
    cases Connectivity.ofWord? v <;> simp
  | dedupPolicy =>
    rw [Field.Admits, DedupPolicy.mem_words, put?]
    cases DedupPolicy.ofWord? v <;> simp
  | _ => exact ⟨fun _ => trivial, fun _ => ⟨_, rfl⟩⟩

theorem toOption_set (c : Config) (key : Toml.Key) (v : String) (place : Toml.Stretch) :
    (c.set key (.scalar (.text v) place)).toOption = (Field.ofKey? key.name).bind (c.put? v) := by
  rw [set]
  cases Field.ofKey? key.name with
  | none => rfl
  | some f =>
    cases f with
    | connectivity =>
      simp only [variant, Option.bind_some, put?]
      cases Connectivity.ofWord? v <;> rfl
    | dedupPolicy =>
      simp only [variant, Option.bind_some, put?]
      cases DedupPolicy.ofWord? v <;> rfl
    | _ => rfl

/-! ## Lines one after the other -/

variable {l : Toml.Line} {ls : List Toml.Line}

def assign? (c : Config) (l : Toml.Line) : Option Config :=
  (Field.ofKey? l.key).bind (c.put? l.value)

def given? (f : Field) (ls : List Toml.Line) : Option String :=
  (ls.find? fun l => l.key == f.key).map Toml.Line.value

theorem toOption_foldlM_set {es : List (Toml.Key × Toml.Item)} (same : Toml.Render es ls)
    (c : Config) :
    (es.foldlM (fun (c : Config) e => c.set e.1 e.2) c).toOption = ls.foldlM assign? c := by
  induction ls generalizing es c with
  | nil =>
    rw [List.map_eq_nil_iff.mp same]
    rfl
  | cons l ls ih =>
    obtain ⟨e, es, rfl, told, same⟩ := List.map_eq_cons_iff.mp same
    obtain ⟨place, value⟩ := Toml.eq_text_of_content told
    have set := toOption_set c e.1 l.value place
    rw [List.foldlM_cons, List.foldlM_cons, assign?, ← Toml.name_of_content told, ← set, value]
    cases c.set e.1 (.scalar (.text l.value) place) with
    | error x => rfl
    | ok d => exact ih same d

theorem toOption_ofTable {es : List (Toml.Key × Toml.Item)} (same : Toml.Render es ls) :
    (ofTable { entries := es }).toOption = ls.foldlM assign? {} :=
  toOption_foldlM_set same {}

theorem given?_cons_own (own : l.key = f.key) (ls : List Toml.Line) :
    given? f (l :: ls) = some l.value := by
  simp [given?, own]

theorem given?_cons_other (other : l.key ≠ f.key) (ls : List Toml.Line) :
    given? f (l :: ls) = given? f ls := by
  simp [given?, other]

theorem given?_of_not_mem (absent : f.key ∉ ls.map Toml.Line.key) : given? f ls = none := by
  rw [given?, Option.map_eq_none_iff, List.find?_eq_none]
  intro l mem own
  exact absent (List.mem_map.mpr ⟨l, mem, beq_iff_eq.mp own⟩)

theorem given?_assigned (distinct : ((l :: ls).map Toml.Line.key).Nodup) (own : l.key = f.key)
    (set : c.put? l.value f = some d) (g : Field) :
    (given? g ls).getD (d.word g) = (given? g (l :: ls)).getD (c.word g) := by
  obtain ⟨word, others⟩ := put?_eq_some set
  by_cases same : g = f
  · subst same
    have absent := (List.nodup_cons.mp distinct).1
    rw [own] at absent
    rw [given?_cons_own own, given?_of_not_mem absent, word]
    rfl
  · have other : l.key ≠ g.key := fun h => same (Field.key_inj (h.symm.trans own))
    rw [given?_cons_other other, others g same]

theorem foldlM_assign?_eq_some_iff (distinct : (ls.map Toml.Line.key).Nodup) :
    ls.foldlM assign? c = some d ↔
      (∀ l ∈ ls, ∃ f : Field, l.key = f.key ∧ f.Admits l.value) ∧
        ∀ f, d.word f = (given? f ls).getD (c.word f) := by
  induction ls generalizing c with
  | nil =>
    constructor
    · rintro ⟨⟩
      exact ⟨by simp, fun f => rfl⟩
    · rintro ⟨-, words⟩
      rw [ext_of_word words]
      rfl
  | cons l ls ih =>
    have rest := (List.nodup_cons.mp distinct).2
    rw [List.foldlM_cons, Option.bind_eq_bind, Option.bind_eq_some_iff]
    constructor
    · rintro ⟨z, assigned, later⟩
      obtain ⟨f, owner, set⟩ := Option.bind_eq_some_iff.mp assigned
      have own := Field.ofKey?_eq_some_iff.mp owner
      obtain ⟨each, words⟩ := (ih rest).mp later
      refine ⟨List.forall_mem_cons.mpr ⟨⟨f, own, (exists_put?_iff c).mp ⟨z, set⟩⟩, each⟩, ?_⟩
      intro g
      rw [words g, given?_assigned distinct own set]
    · rintro ⟨each, words⟩
      obtain ⟨⟨f, own, admits⟩, each⟩ := List.forall_mem_cons.mp each
      obtain ⟨z, set⟩ := (exists_put?_iff c).mpr admits
      refine ⟨z, Option.bind_eq_some_iff.mpr ⟨f, Field.ofKey?_eq_some_iff.mpr own, set⟩, ?_⟩
      refine (ih rest).mpr ⟨each, fun g => ?_⟩
      rw [words g, given?_assigned distinct own set]

/-! ## Documents -/

/-- The lines can be taken for a configuration: no key is there twice, all keys are those of fields,
and a scope or a policy is given by one of its words. -/
structure AreFields (ls : List Toml.Line) : Prop where
  distinct : (ls.map Toml.Line.key).Nodup
  known : ∀ l ∈ ls, l.key ∈ Field.all.map Field.key
  connectivity : ∀ l ∈ ls, l.key = "connectivity" →
    l.value ∈ Connectivity.all.map Connectivity.word
  dedupPolicy : ∀ l ∈ ls, l.key = "dedup_policy" → l.value ∈ DedupPolicy.all.map DedupPolicy.word

def overridden (ls : List Toml.Line) : Config :=
  let default : Config := {}
  { presenceAddress := (given? .presenceAddress ls).getD default.presenceAddress
    discoveryUri := (given? .discoveryUri ls).getD default.discoveryUri
    resourceType := (given? .resourceType ls).getD default.resourceType
    connectivity :=
      ((given? .connectivity ls).bind Connectivity.ofWord?).getD default.connectivity
    dedupPolicy := ((given? .dedupPolicy ls).bind DedupPolicy.ofWord?).getD default.dedupPolicy }

theorem areFields_iff : AreFields ls ↔
    (ls.map Toml.Line.key).Nodup ∧ ∀ l ∈ ls, ∃ f : Field, l.key = f.key ∧ f.Admits l.value := by
  constructor
  · intro shape
    refine ⟨shape.distinct, fun l mem => ?_⟩
    obtain ⟨f, -, own⟩ := List.mem_map.mp (shape.known l mem)
    refine ⟨f, own.symm, ?_⟩
    cases f with
    | connectivity => exact shape.connectivity l mem own.symm
    | dedupPolicy => exact shape.dedupPolicy l mem own.symm
    | _ => trivial
  · rintro ⟨distinct, each⟩
    have admits {f : Field} {l : Toml.Line} (mem : l ∈ ls) (own : l.key = f.key) :
        f.Admits l.value := by
      obtain ⟨g, own', admits⟩ := each l mem
      rwa [Field.key_inj (own.symm.trans own')]
    refine ⟨distinct, fun l mem => ?_, fun l mem => admits (f := .connectivity) mem,
      fun l mem => admits (f := .dedupPolicy) mem⟩
    obtain ⟨f, own, -⟩ := each l mem
    exact List.mem_map.mpr ⟨f, List.mem_of_find?_eq_some f.ofKey?_key, own.symm⟩

theorem exists_line (given : given? f ls = some v) : ∃ l ∈ ls, l.key = f.key ∧ l.value = v := by
  obtain ⟨l, found, value⟩ := Option.map_eq_some_iff.mp given
  have own := List.find?_some found
  exact ⟨l, List.mem_of_find?_eq_some found, beq_iff_eq.mp own, value⟩

theorem word_overridden (shape : AreFields ls) (f : Field) :
    (overridden ls).word f = (given? f ls).getD (word {} f) := by
  cases f with
  | connectivity =>
    cases given : given? .connectivity ls with
    | none => simp only [overridden, word, given]; rfl
    | some v =>
      obtain ⟨l, mem, own, rfl⟩ := exists_line given
      obtain ⟨x, found⟩ := Connectivity.mem_words.mp (shape.connectivity l mem own)
      simp only [overridden, word, given, Option.bind_some, found, Option.getD_some]
      exact (Connectivity.ofWord?_eq_some_iff.mp found).symm
  | dedupPolicy =>
    cases given : given? .dedupPolicy ls with
    | none => simp only [overridden, word, given]; rfl
    | some v =>
      obtain ⟨l, mem, own, rfl⟩ := exists_line given
      obtain ⟨x, found⟩ := DedupPolicy.mem_words.mp (shape.dedupPolicy l mem own)
      simp only [overridden, word, given, Option.bind_some, found, Option.getD_some]
      exact (DedupPolicy.ofWord?_eq_some_iff.mp found).symm
  | _ => rfl

theorem ofToml_eq_ok_iff {document : String} : ofToml document = .ok c ↔
    ∃ t, Toml.parse? document.toList = some t ∧ ofTable t = .ok c ∧ c.validate = .ok () := by
  have validated (d : Config) :
      (d.validate.map fun _ => d) = .ok c ↔ d = c ∧ d.validate = .ok () := by
    cases d.validate <;> simp [Except.map]
  rw [ofToml]
  cases Toml.parse? document.toList with
  | none => simp
  | some t =>
    cases set : ofTable t with
    | error x => simp [set]
    | ok d =>
      simp only [validated, Option.some.injEq, exists_eq_left', set, Except.ok.injEq]
      constructor
      · rintro ⟨rfl, valid⟩
        exact ⟨rfl, valid⟩
      · rintro ⟨rfl, valid⟩
        exact ⟨rfl, valid⟩

theorem invalid_of_ofToml {document : String} {e : Failure} (refused : ofToml document = .error e) :
    ∃ what, e = .invalidArgument what := by
  unfold ofToml at refused
  dsimp only at refused
  split at refused
  · cases refused
    exact ⟨_, rfl⟩
  · split at refused
    · cases refused
      exact ⟨_, rfl⟩
    · rename_i c _
      unfold validate at refused
      cases fault : c.fault? with
      | none =>
        rw [fault] at refused
        cases refused
      | some f =>
        rw [fault] at refused
        cases refused
        exact ⟨_, rfl⟩

theorem ofToml_linesText (ended : Bool) (ls : List Toml.Line) :
    ofToml (String.ofList (Toml.linesText ended ls)) = .ok c ↔
      (ls.map Toml.Line.key).Nodup ∧ ls.foldlM assign? {} = some c ∧ c.validate = .ok () := by
  obtain ⟨es, same, parsed⟩ := Toml.parse?_linesText ended ls
  have set := toOption_ofTable same
  rw [ofToml_eq_ok_iff, String.toList_ofList, parsed, ← set, toOption_eq_some_iff]
  by_cases distinct : (ls.map Toml.Line.key).Nodup
  · simp [distinct]
  · simp [distinct]

theorem ofToml_linesText_iff (ended : Bool) (ls : List Toml.Line) :
    ofToml (String.ofList (Toml.linesText ended ls)) = .ok c ↔
      AreFields ls ∧ c = overridden ls ∧ c.validate = .ok () := by
  rw [ofToml_linesText]
  constructor
  · rintro ⟨distinct, set, valid⟩
    obtain ⟨each, words⟩ := (foldlM_assign?_eq_some_iff distinct).mp set
    have shape := areFields_iff.mpr ⟨distinct, each⟩
    refine ⟨shape, ext_of_word fun f => ?_, valid⟩
    rw [words f, word_overridden shape]
  · rintro ⟨shape, rfl, valid⟩
    refine ⟨shape.distinct, (foldlM_assign?_eq_some_iff shape.distinct).mpr ⟨?_, ?_⟩, valid⟩
    · exact (areFields_iff.mp shape).2
    · exact word_overridden shape

/-! ## Writing -/

theorem admits_word (c : Config) (f : Field) : f.Admits (c.word f) := by
  cases f with
  | connectivity => exact Connectivity.mem_words.mpr ⟨_, Connectivity.ofWord?_word _⟩
  | dedupPolicy => exact DedupPolicy.mem_words.mpr ⟨_, DedupPolicy.ofWord?_word _⟩
  | _ => trivial

/-- The lines are some fields of a configuration, among them all that are not as by default. -/
structure Writes (c : Config) (fs : List Field) (ls : List Toml.Line) : Prop where
  lines : ls.map (fun l => (l.key, l.value)) = fs.map fun f => (f.key, c.word f)
  distinct : fs.Nodup
  enough : ∀ f, f ∉ fs → c.word f = word {} f

namespace Writes

variable {fs : List Field} (written : Writes c fs ls)

include written

theorem keys : ls.map Toml.Line.key = fs.map Field.key := by
  have firsts := congrArg (List.map Prod.fst) written.lines
  simpa [Function.comp_def] using firsts

theorem exists_field (mem : l ∈ ls) : ∃ f ∈ fs, l.key = f.key ∧ l.value = c.word f := by
  have line : (l.key, l.value) ∈ fs.map fun f => (f.key, c.word f) :=
    written.lines ▸ List.mem_map.mpr ⟨l, mem, rfl⟩
  obtain ⟨f, mem', same⟩ := List.mem_map.mp line
  obtain ⟨key, value⟩ := Prod.mk.inj same
  exact ⟨f, mem', key.symm, value.symm⟩

theorem word_eq (f : Field) : c.word f = (given? f ls).getD (word {} f) := by
  cases given : given? f ls with
  | none =>
    refine written.enough f fun mem => ?_
    have key : f.key ∈ ls.map Toml.Line.key := written.keys ▸ List.mem_map.mpr ⟨f, mem, rfl⟩
    obtain ⟨l, line, own⟩ := List.mem_map.mp key
    have other := List.find?_eq_none.mp (Option.map_eq_none_iff.mp given) l line
    exact other (beq_iff_eq.mpr own)
  | some v =>
    obtain ⟨l, line, own, rfl⟩ := exists_line given
    obtain ⟨g, -, own', value⟩ := written.exists_field line
    rw [value, Field.key_inj (own.symm.trans own')]
    rfl

theorem areFields : AreFields ls := by
  refine areFields_iff.mpr ⟨?_, fun l mem => ?_⟩
  · rw [written.keys]
    exact List.pairwise_map.mpr (written.distinct.imp fun other same => other (Field.key_inj same))
  · obtain ⟨f, -, own, value⟩ := written.exists_field mem
    exact ⟨f, own, value ▸ admits_word c f⟩

theorem eq_overridden : c = overridden ls :=
  ext_of_word fun f => by rw [word_overridden written.areFields, written.word_eq]

end Writes

theorem Field.key_ne (f : Field) : f.key ≠ "" := by cases f <;> decide

theorem Field.isBareKey_key (f : Field) : ∀ c ∈ f.key.toList, Toml.isBareKey c = true :=
  List.all_eq_true.mp (by cases f <;> rfl)

def line (c : Config) (f : Field) : Toml.Line :=
  .plain f.key (c.word f) f.key_ne f.isBareKey_key

theorem writes_line {fs : List Field} (distinct : fs.Nodup)
    (enough : ∀ f, f ∉ fs → c.word f = word {} f) : Writes c fs (fs.map c.line) :=
  { lines := by simp [line, Toml.Line.plain, Function.comp_def]
    distinct
    enough }

/-- A document of lines is read as a configuration exactly if the lines are distinct fields, with
known words where words are wanted, and the defaults that they override come out valid. Otherwise it
is an invalid argument. Every valid configuration is read from its fields in any order, as long as
those that are not as by default are among them, and nothing invalid is read from any document. -/
theorem ofToml_exact (ended : Bool) (ls : List Toml.Line) :
    (∀ c, ofToml (String.ofList (Toml.linesText ended ls)) = .ok c ↔
      AreFields ls ∧ c = overridden ls ∧ c.validate = .ok ()) ∧
    (¬(AreFields ls ∧ (overridden ls).validate = .ok ()) →
      ∃ what, ofToml (String.ofList (Toml.linesText ended ls)) = .error (.invalidArgument what)) ∧
    (∀ c fs, Writes c fs ls → c.validate = .ok () →
      ofToml (String.ofList (Toml.linesText ended ls)) = .ok c) ∧
    (∀ (c : Config) fs, fs.Nodup → (∀ f, f ∉ fs → c.word f = word {} f) → ∃ ls, Writes c fs ls) ∧
    (∀ document c, ofToml document = .ok c → c.validate = .ok ()) := by
  have exact_iff (c : Config) := ofToml_linesText_iff (c := c) ended ls
  refine ⟨exact_iff, fun bad => ?_, fun c fs written valid => ?_,
    fun c fs distinct enough => ⟨_, writes_line distinct enough⟩, fun document c read => ?_⟩
  · cases came : ofToml (String.ofList (Toml.linesText ended ls)) with
    | error e =>
      obtain ⟨what, rfl⟩ := invalid_of_ofToml came
      exact ⟨what, rfl⟩
    | ok c =>
      obtain ⟨shape, rfl, valid⟩ := (exact_iff c).mp came
      exact absurd ⟨shape, valid⟩ bad
  · exact (exact_iff c).mpr ⟨written.areFields, written.eq_overridden, valid⟩
  · obtain ⟨t, -, -, valid⟩ := ofToml_eq_ok_iff.mp read
    exact valid

end Config

end ReplicaHosting

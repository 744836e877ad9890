import ReplicaHosting.Proofs.Json.Skipping

/-! Reading a printed value as one kind. A value of the kind that is wanted is read; every other
value is refused, wherever in it the difference lies. -/
namespace ReplicaHosting.Json

namespace Value

def text? : Value → Option String
  | .text s => some s
  | _ => none

def flag? : Value → Option Bool
  | .boolean b => some b
  | _ => none

def texts? : Value → Option (List String)
  | .array items => items.mapM text?
  | _ => none

def optionalText? : Value → Option (Option String)
  | .null => some none
  | .text s => some (some s)
  | _ => none

def ofOptional : Option String → Value
  | none => .null
  | some s => .text s

theorem text?_eq_some_iff {v : Value} {s : String} : v.text? = some s ↔ v = .text s := by
  cases v <;> simp [text?]

theorem flag?_eq_some_iff {v : Value} {b : Bool} : v.flag? = some b ↔ v = .boolean b := by
  cases v <;> simp [flag?]

theorem mapM_text?_eq_some_iff {items : List Value} {xs : List String} :
    items.mapM text? = some xs ↔ items = xs.map .text := by
  induction items generalizing xs with
  | nil => simp [eq_comm]
  | cons v items ih =>
    cases xs with
    | nil => simp [Option.bind_eq_some_iff]
    | cons x xs => simp [Option.bind_eq_some_iff, text?_eq_some_iff, ih]

theorem texts?_eq_some_iff {v : Value} {xs : List String} :
    v.texts? = some xs ↔ v = .array (xs.map .text) := by
  cases v <;> simp [texts?, mapM_text?_eq_some_iff]

theorem optionalText?_eq_some_iff {v : Value} {s : Option String} :
    v.optionalText? = some s ↔ v = ofOptional s := by
  cases v <;> cases s <;> simp [optionalText?, ofOptional]

end Value

theorem readString_refused {v : Value} (other : v.text? = none) (wanted : Wanted) (r : List Char) :
    ∃ e, readString wanted (v.render ++ r) = .error e := by
  obtain ⟨c, t, text, opens⟩ := exists_opens v
  have unquoted : c ≠ '\x22' := by
    rintro rfl
    cases opens with
    | text s => cases other
    | digit _ _ digit => cases digit
  rw [readString, skipSpace_render, text, List.cons_append]
  split
  · rename_i same
    exact absurd (List.cons.inj same).1 unquoted
  · exact ⟨_, rfl⟩

theorem readString_render (wanted : Wanted) (v : Value) (r : List Char) :
    (readString wanted (v.render ++ r)).toOption = v.text?.map (·, r) := by
  cases given : v.text? with
  | some s =>
    rw [Value.text?_eq_some_iff.mp given, Value.render, readString_renderText]
    rfl
  | none =>
    obtain ⟨e, refused⟩ := readString_refused given wanted r
    rw [refused]
    rfl

theorem readBoolean_render (v : Value) (r : List Char) :
    (readBoolean (v.render ++ r)).toOption = v.flag?.map (·, r) := by
  cases given : v.flag? with
  | some b =>
    rw [Value.flag?_eq_some_iff.mp given, Value.render, readBoolean_renderBool]
    rfl
  | none =>
    obtain ⟨c, t, text, opens⟩ := exists_opens v
    have other : c ≠ 't' ∧ c ≠ 'f' := by
      constructor
      all_goals
        rintro rfl
        cases opens with
        | digit _ _ digit => cases digit
        | _ => simp [Value.flag?] at given
    rw [readBoolean, skipSpace_render, text, List.cons_append]
    split
    · rename_i same
      exact absurd (List.cons.inj same).1 other.1
    · rename_i same
      exact absurd (List.cons.inj same).1 other.2
    · rfl

theorem readOptional_render (v : Value) (r : List Char) :
    (readOptional (v.render ++ r)).toOption = v.optionalText?.map (·, r) := by
  by_cases null : v = .null
  · rw [null]
    rfl
  have other : v.optionalText? = v.text?.map some := by
    cases v <;> first | rfl | exact absurd rfl null
  obtain ⟨c, t, text, opens⟩ := exists_opens v
  have letter : c ≠ 'n' := by
    rintro rfl
    cases opens with
    | null => exact null rfl
    | digit _ _ digit => cases digit
  rw [readOptional, skipSpace_render, other]
  split
  · rename_i same
    rw [text] at same
    exact absurd (List.cons.inj same).1 letter
  · cases given : v.text? with
    | some s =>
      rw [Value.text?_eq_some_iff.mp given, Value.render, readString_renderText]
      rfl
    | none =>
      obtain ⟨e, refused⟩ := readString_refused given .text r
      rw [refused]
      rfl

theorem nextEntry_render (v : Value) (r : List Char) :
    nextEntry true (v.render ++ r) = .ok (true, v.render ++ r) := by
  obtain ⟨c, t, text, opens⟩ := exists_opens v
  rw [nextEntry, skipSpace_render, text, List.cons_append]
  split
  · rename_i same
    cases same
  · rename_i same
    exact absurd (List.cons.inj same).1 opens.not_close
  · rename_i same
    rw [if_pos rfl, ← same]

theorem nextEntry_comma (v : Value) (r : List Char) :
    nextEntry false (',' :: (v.render ++ r)) = .ok (true, v.render ++ r) := by
  have comma : skipSpace (',' :: (v.render ++ r)) = ',' :: (v.render ++ r) := rfl
  obtain ⟨c, t, text, opens⟩ := exists_opens v
  rw [nextEntry, comma]
  split
  · rename_i same
    cases same
  · rename_i same
    cases same
  · rename_i same
    cases same
    rw [if_neg Bool.false_ne_true, if_pos (beq_self_eq_true _), skipSpace_render, text,
      List.cons_append]
    split
    · rename_i same
      cases same
    · rename_i same
      exact absurd (List.cons.inj same).1 opens.not_close
    · rfl

theorem readTexts_entry {first : Bool} {s r : List Char} {v : Value}
    (entry : nextEntry first s = .ok (true, v.render ++ r)) :
    (readTexts first s).toOption =
      v.text?.bind fun x => (readTexts false r).toOption.map fun y => (x :: y.1, y.2) := by
  rw [readTexts, entry]
  simp only []
  cases given : v.text? with
  | some x =>
    rw [Value.text?_eq_some_iff.mp given, Value.render, readString_renderText]
    simp only []
    cases readTexts false r <;> rfl
  | none =>
    obtain ⟨e, refused⟩ := readString_refused given .text r
    rw [refused]
    rfl

theorem readTexts_items (items : List Value) (r : List Char) :
    (readTexts false (laterItems items ++ ']' :: r)).toOption =
      (items.mapM Value.text?).map (·, r) := by
  induction items with
  | nil =>
    rw [laterItems, renderItems, List.flatMap_nil, List.nil_append,
      readTexts_of_close (nextEntry_close false r)]
    rfl
  | cons v items ih =>
    rw [laterItems_cons, readTexts_entry (nextEntry_comma v _), ih, List.mapM_cons]
    cases v.text? <;> cases items.mapM Value.text? <;> rfl

theorem readList_array (items : List Value) (r : List Char) :
    (readList ((Value.array items).render ++ r)).toOption =
      (items.mapM Value.text?).map (·, r) := by
  have opened (s : List Char) : readList ('[' :: s) = readTexts true s := rfl
  cases items with
  | nil =>
    have closed : (Value.array []).render ++ r = '[' :: ']' :: r := rfl
    rw [closed, opened, readTexts_of_close (nextEntry_close true r)]
    rfl
  | cons v items =>
    rw [render_array_cons, opened, readTexts_entry (nextEntry_render v _), readTexts_items,
      List.mapM_cons]
    cases v.text? <;> cases items.mapM Value.text? <;> rfl

theorem readList_render (v : Value) (r : List Char) :
    (readList (v.render ++ r)).toOption = v.texts?.map (·, r) := by
  by_cases list : ∃ items, v = .array items
  · obtain ⟨items, rfl⟩ := list
    exact readList_array items r
  obtain ⟨c, t, text, opens⟩ := exists_opens v
  have bracket : c ≠ '[' := by
    rintro rfl
    cases opens with
    | array items => exact list ⟨items, rfl⟩
    | digit _ _ digit => cases digit
  have none : v.texts? = none := by
    cases v with
    | array items => exact absurd ⟨items, rfl⟩ list
    | _ => rfl
  rw [readList, skipSpace_render, text, none, List.cons_append]
  split
  · rename_i same
    exact absurd (List.cons.inj same).1 bracket
  · rfl

end ReplicaHosting.Json

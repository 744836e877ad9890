import ReplicaHosting.Json.Skip
import ReplicaHosting.Proofs.Json.Printed

/-! A printed value is skipped whole, whatever its kind and depth. What is behind it must not go on
as a number would, and in a list or an object it does not. -/
namespace ReplicaHosting.Json

/-- What may stand behind a value: nothing at all, a comma or a closing bracket. -/
def IsBehindValue (r : List Char) : Prop :=
  ∀ c ∈ r.head?, c = ',' ∨ c = ']' ∨ c = '\x7d'

theorem isBehindValue_comma (r : List Char) : IsBehindValue (',' :: r) := by simp [IsBehindValue]

theorem isBehindValue_later (xs : List (List Char)) {r : List Char} (closed : IsBehindValue r) :
    IsBehindValue (xs.flatMap (fun x => ',' :: x) ++ r) := by
  cases xs with
  | nil => exact closed
  | cons x xs => exact isBehindValue_comma _

/-! ## Numbers -/

def signed (m : Int) : List Char :=
  (if m < 0 then ['-'] else []) ++ Nat.toDigits 10 m.natAbs

theorem toString_toList (m : Int) : (toString m).toList = signed m := by
  rw [Int.toString_eq_repr, Int.repr_eq_if, signed]
  by_cases negative : m < 0
  · have abs : (-m).toNat = m.natAbs := by omega
    rw [if_neg (by omega), if_pos negative, abs, Nat.repr_eq_ofList_toDigits]
    simp
  · have abs : m.toNat = m.natAbs := by omega
    rw [if_pos (by omega), if_neg negative, abs, Nat.repr_eq_ofList_toDigits]
    simp

def numeral (mantissa exponent : Int) : Numeral :=
  { negative := mantissa < 0
    whole := Nat.toDigits 10 mantissa.natAbs
    fraction := none
    exponent := if exponent = 0 then none
      else some (exponent < 0, Nat.toDigits 10 exponent.natAbs) }

theorem toDigits_head? {n : Nat} (positive : 0 < n) : (Nat.toDigits 10 n).head? ≠ some '0' := by
  induction n using Nat.strongRecOn with
  | ind n ih =>
    by_cases short : n < 10
    · rw [Nat.toDigits_of_lt_base short, List.head?_cons, Ne, Option.some.injEq,
        Nat.digitChar_eq_zero]
      omega
    · rw [Nat.toDigits_of_base_le (by decide) (by omega), List.head?_append]
      obtain ⟨d, digit⟩ := Option.isSome_iff_exists.mp
        (List.isSome_head?.mpr (Nat.toDigits_ne_nil (n := n / 10) (b := 10)))
      have first := ih (n / 10) (by omega) (by omega)
      rwa [digit, Option.some_or, ← digit]

theorem toDigits_ne_padded (n : Nat) (d : Char) (ds : List Char) :
    Nat.toDigits 10 n ≠ '0' :: d :: ds := by
  intro padded
  rcases Nat.eq_zero_or_pos n with rfl | positive
  · simp [Nat.toDigits_zero] at padded
  · exact toDigits_head? positive (by rw [padded]; rfl)

theorem readDigits?_toDigits (n : Nat) {r : List Char}
    (ended : ∀ c ∈ r.head?, c.isDigit = false) :
    readDigits? (Nat.toDigits 10 n ++ r) = some (Nat.toDigits 10 n, r) := by
  have digits : ∀ c ∈ Nat.toDigits 10 n, c.isDigit = true := fun c mem =>
    Nat.isDigit_of_mem_toDigits (by decide) (by decide) mem
  have taken : r.takeWhile Char.isDigit = [] ∧ r.dropWhile Char.isDigit = r := by
    cases r with
    | nil => exact ⟨rfl, rfl⟩
    | cons c r => simp [ended c rfl]
  simp [readDigits?, List.takeWhile_append_of_pos digits, List.dropWhile_append_of_pos digits,
    taken, Nat.toDigits_ne_nil]

theorem readWhole?_toDigits (n : Nat) {r : List Char}
    (ended : ∀ c ∈ r.head?, c.isDigit = false) :
    readWhole? (Nat.toDigits 10 n ++ r) = some (Nat.toDigits 10 n, r) := by
  rw [readWhole?, readDigits?_toDigits n ended]
  split
  · rename_i d ds _ padded
    simp only [Option.some.injEq, Prod.mk.injEq] at padded
    exact absurd padded.1 (toDigits_ne_padded n d ds)
  · rfl

theorem IsBehindValue.no_digit {r : List Char} (closed : IsBehindValue r) :
    ∀ c ∈ r.head?, c.isDigit = false := by
  intro c mem
  rcases closed c mem with rfl | rfl | rfl <;> rfl

theorem IsBehindValue.no_fraction {r : List Char} (closed : IsBehindValue r) :
    readFraction? r = some (none, r) := by
  unfold readFraction?
  split
  · have dot := closed '.' rfl
    simp at dot
  · rfl

theorem IsBehindValue.no_exponent {r : List Char} (closed : IsBehindValue r) :
    readExponent? r = some (none, r) := by
  cases r with
  | nil => rfl
  | cons c r =>
    rcases closed c rfl with rfl | rfl | rfl <;> rfl

theorem toDigits_cons (n : Nat) :
    ∃ d ds, Nat.toDigits 10 n = d :: ds ∧ d.isDigit = true := by
  cases digits : Nat.toDigits 10 n with
  | nil => exact absurd digits Nat.toDigits_ne_nil
  | cons d ds =>
    have mem : d ∈ Nat.toDigits 10 n := digits ▸ List.mem_cons_self
    exact ⟨d, ds, rfl, Nat.isDigit_of_mem_toDigits (by decide) (by decide) mem⟩

theorem readSign_signed (m : Int) (r : List Char) :
    readSign (signed m ++ r) = (decide (m < 0), Nat.toDigits 10 m.natAbs ++ r) := by
  obtain ⟨d, ds, digits, digit⟩ := toDigits_cons m.natAbs
  by_cases negative : m < 0
  · simp [signed, negative, readSign]
  · have plus : d ≠ '+' := by rintro rfl; cases digit
    have minus : d ≠ '-' := by rintro rfl; cases digit
    simp only [signed, negative, if_false, List.nil_append, digits, List.cons_append, readSign]
    split
    · rename_i same
      exact absurd (List.cons.inj same).1 plus
    · rename_i same
      exact absurd (List.cons.inj same).1 minus
    · simp

def exponentText (e : Int) : List Char := if e = 0 then [] else 'e' :: signed e

theorem renderNumber_eq (m e : Int) : renderNumber m e = signed m ++ exponentText e := by
  simp only [renderNumber, toString_toList, exponentText]

theorem readExponent?_exponentText (e : Int) {r : List Char} (closed : IsBehindValue r) :
    readExponent? (exponentText e ++ r) = some ((numeral 0 e).exponent, r) := by
  by_cases zero : e = 0
  · simp [exponentText, numeral, zero, closed.no_exponent]
  · simp only [exponentText, numeral, zero, if_false, List.cons_append, readExponent?,
      readSign_signed, readDigits?_toDigits _ closed.no_digit]
    rfl

/-- A number is read back from its text, and nothing behind it is taken for a part of it. -/
theorem readNumeral?_renderNumber (m e : Int) {r : List Char} (closed : IsBehindValue r) :
    readNumeral? (renderNumber m e ++ r) = some (numeral m e, r) := by
  let tail := exponentText e ++ r
  have ended : (∀ c ∈ tail.head?, c.isDigit = false) ∧ readFraction? tail = some (none, tail) := by
    by_cases zero : e = 0
    · simpa [tail, exponentText, zero] using ⟨closed.no_digit, closed.no_fraction⟩
    · simp [tail, exponentText, zero, readFraction?]
  have exponent : readExponent? tail = some ((numeral m e).exponent, r) :=
    readExponent?_exponentText e closed
  have whole := readWhole?_toDigits m.natAbs ended.1
  rw [renderNumber_eq, List.append_assoc]
  by_cases negative : m < 0
  · have text : signed m ++ tail = '-' :: (Nat.toDigits 10 m.natAbs ++ tail) := by
      simp [signed, negative]
    simp [readNumeral?, tail, text, whole, ended.2, exponent, numeral, negative]
  · obtain ⟨d, ds, digits, digit⟩ := toDigits_cons m.natAbs
    have unsigned : d ≠ '-' := by rintro rfl; cases digit
    have text : signed m ++ tail = d :: (ds ++ tail) := by simp [signed, negative, digits]
    rw [digits, List.cons_append] at whole
    simp [readNumeral?, tail, text, unsigned, whole, ended.2, exponent, numeral, negative, digits]

/-! ## Texts -/

theorem Escaped.skipText {c : Char} {w : List Char} (h : Escaped c w) (r : List Char) :
    skipText (w ++ r) = skipText r := by
  cases h with
  | lettered e letter stands => simp [Json.skipText, letter, stands]
  | numbered control => simp [Json.skipText, hexPair, hexQuad?_hexPair c.toNat control]
  | plain visible unquoted unslashed =>
    rw [List.singleton_append, Json.skipText.eq_def]
    simp [unquoted, unslashed, visible]

theorem skipText_escape (cs r : List Char) :
    skipText (cs.flatMap escape ++ '\x22' :: r) = some r := by
  induction cs with
  | nil =>
    rw [List.flatMap_nil, List.nil_append, skipText.eq_def]
    rfl
  | cons c cs ih => rw [List.flatMap_cons, List.append_assoc, (escaped_escape c).skipText, ih]

theorem skipName_renderMember (name : String) (value r : List Char) :
    skipName (renderMember name value ++ r) = some (value ++ r) := by
  have text : renderMember name value ++ r =
      '\x22' :: (name.toList.flatMap escape ++ '\x22' :: ':' :: (value ++ r)) := by
    simp [renderMember, renderText]
  have quoted (t : List Char) : skipSpace ('\x22' :: t) = '\x22' :: t := rfl
  have colon (t : List Char) : skipSpace (':' :: t) = ':' :: t := rfl
  simp only [skipName, text, quoted, skipText_escape, colon]

/-! ## Values -/

inductive Opens : Value → Char → Prop where
  | null : Opens .null 'n'
  | holds : Opens (.boolean true) 't'
  | fails : Opens (.boolean false) 'f'
  | minus (m e : Int) : Opens (.number m e) '-'
  | digit (m e : Int) {c : Char} (digit : c.isDigit = true) : Opens (.number m e) c
  | text (s : String) : Opens (.text s) '\x22'
  | array (items : List Value) : Opens (.array items) '['
  | object (members : List (String × Value)) : Opens (.object members) '\x7b'

theorem exists_opens (v : Value) : ∃ c t, v.render = c :: t ∧ Opens v c := by
  cases v with
  | null => exact ⟨_, _, rfl, .null⟩
  | boolean b =>
    cases b with
    | true => exact ⟨_, _, rfl, .holds⟩
    | false => exact ⟨_, _, rfl, .fails⟩
  | number m e =>
    rw [Value.render, renderNumber_eq]
    by_cases negative : m < 0
    · exact ⟨'-', _, by simp [signed, negative]; rfl, .minus m e⟩
    · obtain ⟨d, ds, digits, digit⟩ := toDigits_cons m.natAbs
      exact ⟨d, _, by simp [signed, negative, digits]; rfl, .digit m e digit⟩
  | text s => exact ⟨_, _, by rw [Value.render, renderText]; rfl, .text s⟩
  | array items => exact ⟨_, _, by rw [Value.render, bracketed]; rfl, .array items⟩
  | object members => exact ⟨_, _, by rw [Value.render, braced]; rfl, .object members⟩

theorem Opens.not_space {v : Value} {c : Char} (h : Opens v c) : isSpace c = false := by
  cases h with
  | digit m e digit =>
    cases space : isSpace c with
    | false => rfl
    | true =>
      simp only [isSpace, Bool.or_eq_true, beq_iff_eq] at space
      rcases space with ((rfl | rfl) | rfl) | rfl <;> cases digit
  | _ => rfl

theorem Opens.not_close {v : Value} {c : Char} (h : Opens v c) : c ≠ ']' := by
  rintro rfl
  cases h with
  | digit _ _ digit => cases digit

theorem Opens.skipSpace {v : Value} {c : Char} (h : Opens v c) (r : List Char) :
    skipSpace (c :: r) = c :: r := by
  rw [Json.skipSpace, List.dropWhile_cons, h.not_space]
  rfl

theorem skipSpace_render (v : Value) (r : List Char) :
    skipSpace (v.render ++ r) = v.render ++ r := by
  obtain ⟨c, t, text, opens⟩ := exists_opens v
  rw [text, List.cons_append, opens.skipSpace]

theorem skipScalar_boolean (b : Bool) (r : List Char) :
    skipScalar ((Value.boolean b).render ++ r) = some r := by
  cases b <;> rfl

theorem skipScalar_text (s : String) (r : List Char) :
    skipScalar ((Value.text s).render ++ r) = some r := by
  rw [Value.render, renderText_append]
  simp [skipScalar, skipText_escape]

theorem Opens.number {m e : Int} {c : Char} (h : Opens (.number m e) c) :
    (c == '-' || c.isDigit) = true := by
  cases h with
  | minus => rfl
  | digit _ _ digit => rw [digit, Bool.or_true]

theorem skipScalar_number (m e : Int) {r : List Char} (closed : IsBehindValue r) :
    skipScalar ((Value.number m e).render ++ r) = some r := by
  obtain ⟨c, t, text, opens⟩ := exists_opens (.number m e)
  have read := readNumeral?_renderNumber m e closed
  rw [← Value.render, text, List.cons_append] at read
  have other (x : Char) (word : (x == '-' || x.isDigit) = false) : c ≠ x := by
    rintro rfl
    rw [opens.number] at word
    cases word
  rw [text, List.cons_append]
  simp [skipScalar, other 'n' rfl, other 't' rfl, other 'f' rfl, other '\x22' rfl, read,
    -Bool.or_eq_true, opens.number]

theorem skipValue_scalar {v : Value} {r : List Char} (scalar : skipScalar (v.render ++ r) = some r)
    (frames : List Frame) : skipValue frames (v.render ++ r) = skipAfter frames r := by
  rw [skipValue.eq_def, skipSpace_render]
  split
  · rename_i t text
    rw [text] at scalar
    simp [skipScalar] at scalar
  · rename_i t text
    rw [text] at scalar
    simp [skipScalar] at scalar
  · rw [scalar]

/-! ## Lists and objects -/

def laterItems (items : List Value) : List Char :=
  (renderItems items).flatMap fun x => ',' :: x

def laterMembers (members : List (String × Value)) : List Char :=
  (renderMembers members).flatMap fun x => ',' :: x

theorem laterItems_cons (v : Value) (items : List Value) (r : List Char) :
    laterItems (v :: items) ++ r = ',' :: (v.render ++ (laterItems items ++ r)) := by
  simp [laterItems, renderItems]

theorem laterMembers_cons (name : String) (v : Value) (members : List (String × Value))
    (r : List Char) :
    laterMembers ((name, v) :: members) ++ r =
      ',' :: (renderMember name v.render ++ (laterMembers members ++ r)) := by
  simp [laterMembers, renderMembers]

theorem render_array_cons (v : Value) (items : List Value) (r : List Char) :
    (Value.array (v :: items)).render ++ r =
      '[' :: (v.render ++ (laterItems items ++ ']' :: r)) := by
  simp [Value.render, renderItems, bracketed, commaSeparated_cons, laterItems]

theorem render_object_cons (name : String) (v : Value) (members : List (String × Value))
    (r : List Char) :
    (Value.object ((name, v) :: members)).render ++ r =
      '\x7b' :: (renderMember name v.render ++ (laterMembers members ++ '\x7d' :: r)) := by
  simp [Value.render, renderMembers, braced, commaSeparated_cons, laterMembers]

theorem isBehindValue_laterItems (items : List Value) (r : List Char) :
    IsBehindValue (laterItems items ++ ']' :: r) :=
  isBehindValue_later _ (by simp [IsBehindValue])

theorem isBehindValue_laterMembers (members : List (String × Value)) (r : List Char) :
    IsBehindValue (laterMembers members ++ '\x7d' :: r) :=
  isBehindValue_later _ (by simp [IsBehindValue])

theorem skipValue_list (frames : List Frame) (v : Value) (r : List Char) :
    skipValue frames ('[' :: (v.render ++ r)) = skipValue (.list :: frames) (v.render ++ r) := by
  have opened : skipSpace ('[' :: (v.render ++ r)) = '[' :: (v.render ++ r) := rfl
  obtain ⟨c, t, text, opens⟩ := exists_opens v
  have unclosed (u : List Char) : v.render ++ r ≠ ']' :: u := by
    rw [text, List.cons_append]
    intro same
    exact opens.not_close (List.cons.inj same).1
  rw [skipValue.eq_def, opened]
  simp only []
  rw [skipSpace_render]
  split
  · rename_i u same
    exact absurd same (unclosed u)
  · rfl

theorem skipValue_object (frames : List Frame) (name : String) (value r : List Char) :
    skipValue frames ('\x7b' :: (renderMember name value ++ r)) =
      skipValue (.object :: frames) (value ++ r) := by
  have opened : skipSpace ('\x7b' :: (renderMember name value ++ r)) =
    '\x7b' :: (renderMember name value ++ r) := rfl
  have spaced : skipSpace (renderMember name value ++ r) = renderMember name value ++ r := rfl
  rw [skipValue.eq_def, opened]
  simp only []
  rw [spaced]
  split
  · rename_i same
    cases same
  · rw [skipName_renderMember]

theorem skipAfter_member (frames : List Frame) (name : String) (value r : List Char) :
    skipAfter (.object :: frames) (',' :: (renderMember name value ++ r)) =
      skipValue (.object :: frames) (value ++ r) := by
  have spaced : skipSpace (',' :: (renderMember name value ++ r)) =
    ',' :: (renderMember name value ++ r) := rfl
  rw [skipAfter.eq_def]
  simp only []
  rw [spaced]
  simp only []
  rw [skipName_renderMember]

-- The induction is on the value. The frames vary: a part is skipped while its whole is still open.
mutual

theorem skipValue_render (v : Value) (frames : List Frame) {r : List Char}
    (closed : IsBehindValue r) : skipValue frames (v.render ++ r) = skipAfter frames r := by
  match v with
  | .null => exact skipValue_scalar rfl frames
  | .boolean b => exact skipValue_scalar (skipScalar_boolean b r) frames
  | .number m e => exact skipValue_scalar (skipScalar_number m e closed) frames
  | .text s => exact skipValue_scalar (skipScalar_text s r) frames
  | .array [] =>
    rw [skipValue.eq_def]
    rfl
  | .array (v :: items) =>
    rw [render_array_cons, skipValue_list,
      skipValue_render v _ (isBehindValue_laterItems items r), skipAfter_items]
  | .object [] =>
    rw [skipValue.eq_def]
    rfl
  | .object ((name, v) :: members) =>
    rw [render_object_cons, skipValue_object,
      skipValue_render v _ (isBehindValue_laterMembers members r), skipAfter_members]

theorem skipAfter_items (items : List Value) (frames : List Frame) (r : List Char) :
    skipAfter (.list :: frames) (laterItems items ++ ']' :: r) = skipAfter frames r := by
  match items with
  | [] =>
    rw [laterItems, renderItems, skipAfter.eq_def]
    rfl
  | v :: items =>
    have comma (s : List Char) :
        skipAfter (.list :: frames) (',' :: s) = skipValue (.list :: frames) s := by
      rw [skipAfter.eq_def]
      rfl
    rw [laterItems_cons, comma, skipValue_render v _ (isBehindValue_laterItems items r),
      skipAfter_items]

theorem skipAfter_members (members : List (String × Value)) (frames : List Frame) (r : List Char) :
    skipAfter (.object :: frames) (laterMembers members ++ '\x7d' :: r) = skipAfter frames r := by
  match members with
  | [] =>
    rw [laterMembers, renderMembers, skipAfter.eq_def]
    rfl
  | (name, v) :: members =>
    rw [laterMembers_cons, skipAfter_member,
      skipValue_render v _ (isBehindValue_laterMembers members r), skipAfter_members]

end

end ReplicaHosting.Json

import ReplicaHosting.Json.Reader
/-!
Skipping one JSON value of any kind and depth. The lists and objects that are still open are kept
in a list of frames, innermost first, so the depth of a value is bounded by nothing but the text.
-/
namespace ReplicaHosting.Json

inductive Frame where
  | list | object
  deriving DecidableEq, Repr

def skipScalar (s : List Char) : Option (List Char) :=
  match s with
  | [] => none
  | c :: r =>
    if c == 'n' then afterWord? "ull".toList r
    else if c == 't' then afterWord? "rue".toList r
    else if c == 'f' then afterWord? "alse".toList r
    else if c == '\x22' then skipText r
    else if c == '-' || c.isDigit then (readNumeral? (c :: r)).map (·.2)
    else none

def skipName (s : List Char) : Option (List Char) :=
  match skipSpace s with
  | '\x22' :: r =>
    match skipText r with
    | none => none
    | some r =>
      match skipSpace r with
      | ':' :: r => some r
      | _ => none
  | _ => none

theorem afterWord?_length_le {w s r : List Char} (h : afterWord? w s = some r) :
    r.length ≤ s.length := by
  induction w generalizing s with
  | nil => simp_all [afterWord?]
  | cons c w ih =>
    cases s with
    | nil => simp [afterWord?] at h
    | cons d s =>
      simp only [afterWord?] at h
      split at h
      · exact Nat.le_succ_of_le (ih h)
      · simp at h

theorem skipText_length_lt {s r : List Char} (h : skipText s = some r) : r.length < s.length := by
  fun_induction skipText s with
  | case1 => simp at h
  | case2 => simp_all
  | case3 c _ _ a b d e t _ ih => have := ih h; simp only [List.length_cons]; omega
  | case4 => simp at h
  | case5 c _ _ e t _ _ ih => have := ih h; simp only [List.length_cons]; omega
  | case6 => simp at h
  | case7 => simp at h
  | case8 => simp at h
  | case9 c t _ _ _ ih => have := ih h; simp only [List.length_cons]; omega

theorem readDigits?_length_lt {s ds r : List Char} (h : readDigits? s = some (ds, r)) :
    r.length < s.length := by
  unfold readDigits? at h
  simp only [List.isEmpty_iff] at h
  split at h
  · simp at h
  · rename_i hne
    simp only [Option.some.injEq, Prod.mk.injEq] at h
    obtain ⟨_, rfl⟩ := h
    have := congrArg List.length (List.takeWhile_append_dropWhile (p := Char.isDigit) (l := s))
    have := List.length_pos_iff.2 hne
    simp only [List.length_append] at *
    omega

theorem readWhole?_length_lt {s ds r : List Char} (h : readWhole? s = some (ds, r)) :
    r.length < s.length := by
  unfold readWhole? at h
  split at h
  · simp at h
  · exact readDigits?_length_lt h

theorem readFraction?_length_le {s r : List Char} {f : Option (List Char)}
    (h : readFraction? s = some (f, r)) : r.length ≤ s.length := by
  unfold readFraction? at h
  split at h
  · simp only [Option.map_eq_some_iff, Prod.mk.injEq, Prod.exists] at h
    obtain ⟨_, _, h, _, rfl⟩ := h
    have := readDigits?_length_lt h
    simp only [List.length_cons]; omega
  · simp_all

theorem readSign_length_le (s : List Char) : (readSign s).2.length ≤ s.length := by
  unfold readSign
  split <;> simp

theorem readExponent?_length_le {s r : List Char} {e : Option (Bool × List Char)}
    (h : readExponent? s = some (e, r)) : r.length ≤ s.length := by
  unfold readExponent? at h
  split at h
  · rename_i c t
    split at h
    · simp only [Option.map_eq_some_iff, Prod.mk.injEq, Prod.exists] at h
      obtain ⟨_, _, h, _, rfl⟩ := h
      have := readDigits?_length_lt h
      have := readSign_length_le t
      simp only [List.length_cons]; omega
    · simp_all
  · simp_all

theorem readNumeral?_length_lt {s r : List Char} {x : Numeral}
    (h : readNumeral? s = some (x, r)) : r.length < s.length := by
  unfold readNumeral? at h
  simp only [Option.bind_eq_bind, Option.bind_eq_some_iff, Prod.exists, Option.pure_def,
    Option.some.injEq, Prod.mk.injEq] at h
  split at h
  all_goals
    obtain ⟨_, _, hw, _, _, hf, _, _, he, _, rfl⟩ := h
    have := readWhole?_length_lt hw
    have := readFraction?_length_le hf
    have := readExponent?_length_le he
    simp only [List.length_cons] at *
    omega

theorem skipScalar_length_lt {s r : List Char} (h : skipScalar s = some r) :
    r.length < s.length := by
  unfold skipScalar at h
  split at h
  · simp at h
  · rename_i c t
    have step {w : List Char} (h : afterWord? w t = some r) : r.length < (c :: t).length :=
      Nat.lt_succ_of_le (afterWord?_length_le h)
    split at h
    · exact step h
    split at h
    · exact step h
    split at h
    · exact step h
    split at h
    · exact Nat.lt_succ_of_lt (skipText_length_lt h)
    split at h
    · simp only [Option.map_eq_some_iff, Prod.exists] at h
      obtain ⟨_, _, h, rfl⟩ := h
      exact readNumeral?_length_lt h
    · simp at h

theorem skipName_length_lt {s r : List Char} (h : skipName s = some r) :
    r.length < s.length := by
  unfold skipName at h
  have hs := skipSpace_length_le s
  split at h
  · rename_i t e
    rw [e, List.length_cons] at hs
    split at h
    · simp at h
    · rename_i t' e'
      have ht := skipText_length_lt e'
      have hs' := skipSpace_length_le t'
      split at h
      · rename_i u e''
        rw [e'', List.length_cons] at hs'
        simp only [Option.some.injEq] at h
        subst h
        omega
      · simp at h
  · simp at h

theorem length_le_of_skipSpace_eq {s r : List Char} (h : skipSpace s = r) :
    r.length ≤ s.length := h ▸ skipSpace_length_le s

mutual

/-- Skips a value, possibly after space, and then whatever the open frames still want. -/
def skipValue (frames : List Frame) (s : List Char) : Option (List Char) :=
  match _h : skipSpace s with
  | '[' :: r =>
    match _h' : skipSpace r with
    | ']' :: t => skipAfter frames t
    | t => skipValue (.list :: frames) t
  | '\x7b' :: r =>
    match _h' : skipSpace r with
    | '\x7d' :: t => skipAfter frames t
    | t =>
      match _h'' : skipName t with
      | none => none
      | some u => skipValue (.object :: frames) u
  | r =>
    match _h' : skipScalar r with
    | none => none
    | some t => skipAfter frames t
  termination_by s.length
  decreasing_by
    all_goals
      have hs := length_le_of_skipSpace_eq _h
      first
        | have hr := length_le_of_skipSpace_eq _h'
        | have hr := skipScalar_length_lt _h'
      try have hn := skipName_length_lt _h''
      try simp only [List.length_cons] at *
      omega

def skipAfter (frames : List Frame) (s : List Char) : Option (List Char) :=
  match frames with
  | [] => some s
  | .list :: frames =>
    match _h : skipSpace s with
    | ',' :: r => skipValue (.list :: frames) r
    | ']' :: r => skipAfter frames r
    | _ => none
  | .object :: frames =>
    match _h : skipSpace s with
    | ',' :: r =>
      match _h' : skipName r with
      | none => none
      | some t => skipValue (.object :: frames) t
    | '\x7d' :: r => skipAfter frames r
    | _ => none
  termination_by s.length
  decreasing_by
    all_goals
      have hs := length_le_of_skipSpace_eq _h
      try have hn := skipName_length_lt _h'
      simp only [List.length_cons] at *
      omega

end

end ReplicaHosting.Json

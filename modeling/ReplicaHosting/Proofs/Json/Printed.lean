import ReplicaHosting.Json.Reader
import ReplicaHosting.Json.Value

/-! Reading what has been printed. Whatever follows it in the text, a printed value is read back and
nothing else is taken. -/
namespace ReplicaHosting.Json

/-! ## Texts -/

inductive Escaped (c : Char) : List Char → Prop where
  | lettered (e : Char) (letter : e ≠ 'u') (stands : simpleEscape? e = some c) :
      Escaped c ['\x5c', e]
  | numbered (control : c.toNat < 0x20) : Escaped c (['\x5c', 'u', '0', '0'] ++ hexPair c.toNat)
  | plain (visible : ¬c.toNat < 0x20) (unquoted : c ≠ '\x22') (unslashed : c ≠ '\x5c') :
      Escaped c [c]

theorem escaped_control {c e : Char} {n : Nat} (number : (c.toNat == n) = true) (letter : e ≠ 'u')
    (stands : simpleEscape? e = some (Char.ofNat n)) : Escaped c ['\x5c', e] := by
  rw [← beq_iff_eq.mp number, Char.ofNat_toNat] at stands
  exact .lettered e letter stands

theorem escaped_escape (c : Char) : Escaped c (escape c) := by
  unfold escape
  split
  · rename_i special
    rcases Bool.or_eq_true_iff.mp special with quote | slash
    · rw [beq_iff_eq.mp quote]
      exact .lettered '\x22' (by decide) rfl
    · rw [beq_iff_eq.mp slash]
      exact .lettered '\x5c' (by decide) rfl
  rename_i ordinary
  simp only [Bool.or_eq_true, beq_iff_eq, not_or] at ordinary
  split
  · exact escaped_control ‹_› (by decide) rfl
  split
  · exact escaped_control ‹_› (by decide) rfl
  split
  · exact escaped_control ‹_› (by decide) rfl
  split
  · exact escaped_control ‹_› (by decide) rfl
  split
  · exact escaped_control ‹_› (by decide) rfl
  split
  · exact .numbered ‹_›
  · exact .plain ‹_› ordinary.1 ordinary.2

theorem hexQuad?_hexPair : ∀ n < 0x20,
    hexQuad? '0' '0' (Nat.digitChar (n / 16)) (Nat.digitChar (n % 16)) = some n := by decide

theorem Escaped.readUnit {c : Char} {w : List Char} (h : Escaped c w) (r : List Char) :
    readUnit (w ++ r) = some (c, r) := by
  cases h with
  | lettered e letter stands => simp [Json.readUnit, letter, stands]
  | numbered control =>
    have high : isHighSurrogate c.toNat = false := by
      simp only [isHighSurrogate, Bool.and_eq_false_iff, decide_eq_false_iff_not]
      omega
    have low : isLowSurrogate c.toNat = false := by
      simp only [isLowSurrogate, Bool.and_eq_false_iff, decide_eq_false_iff_not]
      omega
    simp [Json.readUnit, hexPair, hexQuad?_hexPair c.toNat control, high, low, Char.ofNat_toNat]
  | plain visible unquoted unslashed => simp [Json.readUnit, unslashed, visible]

/-- No character is written with a quote in front, so none is taken for the end of its text. -/
theorem Escaped.unclosed {c : Char} {w : List Char} (h : Escaped c w) (r t : List Char) :
    w ++ r ≠ '\x22' :: t := by
  cases h with
  | lettered e letter stands => simp
  | numbered control => simp
  | plain visible unquoted unslashed => simp [unquoted]

theorem readText_of_readUnit {s r : List Char} {c : Char} (unit : readUnit s = some (c, r))
    (unclosed : ∀ t, s ≠ '\x22' :: t) :
    readText s = (readText r).map fun x => (c :: x.1, x.2) := by
  rw [readText.eq_def]
  split
  · rename_i t
    exact absurd rfl (unclosed t)
  · rw [unit]
    dsimp only
    cases readText r <;> rfl

theorem readText_escape (cs r : List Char) :
    readText (cs.flatMap escape ++ '\x22' :: r) = .ok (cs, r) := by
  induction cs with
  | nil => rw [List.flatMap_nil, List.nil_append, readText]
  | cons c cs ih =>
    have escaped := escaped_escape c
    rw [List.flatMap_cons, List.append_assoc,
      readText_of_readUnit (escaped.readUnit _) (escaped.unclosed _), ih]
    rfl

theorem renderText_append (s : String) (r : List Char) :
    renderText s ++ r = '\x22' :: (s.toList.flatMap escape ++ '\x22' :: r) := by
  simp [renderText]

theorem readString_of_readText {r cs t : List Char} (read : readText r = .ok (cs, t))
    (wanted : Wanted) : readString wanted ('\x22' :: r) = .ok (String.ofList cs, t) := by
  have quoted : skipSpace ('\x22' :: r) = '\x22' :: r := rfl
  simp only [readString, quoted, read]

theorem readString_renderText (wanted : Wanted) (s : String) (r : List Char) :
    readString wanted (renderText s ++ r) = .ok (s, r) := by
  rw [renderText_append, readString_of_readText (readText_escape s.toList r), String.ofList_toList]

/-! ## Values without parts -/

theorem readBoolean_renderBool (b : Bool) (r : List Char) :
    readBoolean (renderBool b ++ r) = .ok (b, r) := by
  cases b <;> rfl

theorem readOptional_null (r : List Char) : readOptional ("null".toList ++ r) = .ok (none, r) := rfl

theorem readOptional_renderText (s : String) (r : List Char) :
    readOptional (renderText s ++ r) = .ok (some s, r) := by
  have read := readString_renderText .text s r
  rw [renderText_append] at read ⊢
  have quoted (t : List Char) : skipSpace ('\x22' :: t) = '\x22' :: t := rfl
  unfold readOptional
  rw [quoted]
  split
  · rename_i other
    simp at other
  · rw [read]

/-! ## Lists -/

theorem commaSeparated_cons (x : List Char) (xs : List (List Char)) :
    commaSeparated (x :: xs) = x ++ xs.flatMap fun y => ',' :: y := by
  induction xs generalizing x with
  | nil => simp [commaSeparated]
  | cons y ys ih => rw [commaSeparated, ih y, List.flatMap_cons, List.cons_append]

theorem nextEntry_close (first : Bool) (r : List Char) :
    nextEntry first (']' :: r) = .ok (false, ']' :: r) := rfl

theorem nextEntry_first (s : String) (r : List Char) :
    nextEntry true (renderText s ++ r) = .ok (true, renderText s ++ r) := by
  rw [renderText_append]
  rfl

theorem nextEntry_later (s : String) (r : List Char) :
    nextEntry false (',' :: renderText s ++ r) = .ok (true, renderText s ++ r) := by
  rw [List.cons_append, renderText_append]
  rfl

theorem readTexts_of_close {first : Bool} {s r : List Char}
    (entry : nextEntry first s = .ok (false, ']' :: r)) : readTexts first s = .ok ([], r) := by
  rw [readTexts, entry]
  rfl

theorem readTexts_of_entry {first : Bool} {s r t : List Char} {x : String}
    (entry : nextEntry first s = .ok (true, r)) (text : readString .text r = .ok (x, t)) :
    readTexts first s = (readTexts false t).map fun y => (x :: y.1, y.2) := by
  rw [readTexts, entry]
  dsimp only
  rw [text]
  dsimp only
  cases readTexts false t <;> rfl

theorem readTexts_later (xs : List String) (r : List Char) :
    readTexts false ((xs.map renderText).flatMap (fun y => ',' :: y) ++ ']' :: r) =
      .ok (xs, r) := by
  induction xs with
  | nil => exact readTexts_of_close (nextEntry_close false r)
  | cons x xs ih =>
    rw [List.map_cons, List.flatMap_cons, List.append_assoc,
      readTexts_of_entry (nextEntry_later x _) (readString_renderText .text x _), ih]
    rfl

theorem readList_bracketed (xs : List String) (r : List Char) :
    readList (bracketed (xs.map renderText) ++ r) = .ok (xs, r) := by
  have opened : readList (bracketed (xs.map renderText) ++ r) =
      readTexts true (commaSeparated (xs.map renderText) ++ ']' :: r) := by
    simp only [bracketed, List.cons_append, List.append_assoc, List.nil_append]
    rfl
  rw [opened]
  cases xs with
  | nil => exact readTexts_of_close (nextEntry_close true r)
  | cons x xs =>
    rw [List.map_cons, commaSeparated_cons, List.append_assoc,
      readTexts_of_entry (nextEntry_first x _) (readString_renderText .text x _), readTexts_later]
    rfl

end ReplicaHosting.Json

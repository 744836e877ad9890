import ReplicaHosting.Decoding
/-!
Reading JSON from the front of a text. A decoder asks for what it wants next; whichever comes
first in the text, a flaw of the grammar or a value of the wrong kind, is reported. The members
that nobody asks for are skipped: their grammar is checked, their size is not, and unpaired
surrogates are let through, so a value that is skipped may be one that cannot be read.
-/
namespace ReplicaHosting.Json

inductive DecodeError where
  | malformed
  | mismatch (found : Found) (wanted : Wanted)
  | missing (field : String)
  | repeated (field : String)
  | tooShort (entries : Nat) (wanted : Wanted) (fields : Nat)
  | unknownVariant (word : String) (variants : List String)
  deriving DecidableEq, Repr, Inhabited

/-- The complaint in words; a text that breaks the grammar or ends too early has none of its own
here. -/
def DecodeError.message? : DecodeError → Option String
  | malformed => none
  | mismatch found wanted => some (mismatchText Decimal.Double.compact found wanted)
  | missing field => some ("missing field `" ++ field ++ "`")
  | repeated field => some ("duplicate field `" ++ field ++ "`")
  | tooShort entries wanted fields =>
    some ("invalid length " ++ toString entries ++ ", expected " ++ wanted.describe ++ " with " ++
      toString fields ++ " elements")
  | unknownVariant word variants => some (unknownVariantText word variants)

abbrev Reading (α : Type) := Except DecodeError (α × List Char)

def isSpace (c : Char) : Bool := c == ' ' || c == '\n' || c == '\t' || c == '\r'

def skipSpace (s : List Char) : List Char := s.dropWhile isSpace

theorem skipSpace_length_le (s : List Char) : (skipSpace s).length ≤ s.length :=
  (List.dropWhile_suffix isSpace).length_le

def hexValue? (c : Char) : Option Nat :=
  let n := c.toNat
  if 0x30 ≤ n && n ≤ 0x39 then some (n - 0x30)
  else if 0x41 ≤ n && n ≤ 0x46 then some (n - 0x41 + 10)
  else if 0x61 ≤ n && n ≤ 0x66 then some (n - 0x61 + 10)
  else none

def hexQuad? (a b c d : Char) : Option Nat := do
  let a ← hexValue? a
  let b ← hexValue? b
  let c ← hexValue? c
  let d ← hexValue? d
  return ((a * 16 + b) * 16 + c) * 16 + d

def simpleEscape? (c : Char) : Option Char :=
  if c == '\x22' || c == '\x5c' || c == '/' then some c
  else if c == 'b' then some (Char.ofNat 8)
  else if c == 't' then some (Char.ofNat 9)
  else if c == 'n' then some (Char.ofNat 10)
  else if c == 'f' then some (Char.ofNat 12)
  else if c == 'r' then some (Char.ofNat 13)
  else none

def isHighSurrogate (n : Nat) : Bool := 0xD800 ≤ n && n ≤ 0xDBFF

def isLowSurrogate (n : Nat) : Bool := 0xDC00 ≤ n && n ≤ 0xDFFF

/-- One character inside a text, and what is behind it. Two surrogates in a row are one
character; a surrogate alone is none. -/
def readUnit : List Char → Option (Char × List Char)
  | [] => none
  | c :: r =>
    if c == '\x5c' then
      match r with
      | 'u' :: a :: b :: c :: d :: r =>
        match hexQuad? a b c d with
        | none => none
        | some high =>
          if isHighSurrogate high then
            match r with
            | '\x5c' :: 'u' :: a :: b :: c :: d :: r =>
              match hexQuad? a b c d with
              | none => none
              | some low =>
                if isLowSurrogate low then
                  some (Char.ofNat ((high - 0xD800) * 0x400 + (low - 0xDC00) + 0x10000), r)
                else none
            | _ => none
          else if isLowSurrogate high then none
          else some (Char.ofNat high, r)
      | e :: r => (simpleEscape? e).map (·, r)
      | [] => none
    else if c.toNat < 0x20 then none
    else some (c, r)

theorem readUnit_length_lt {s r : List Char} {c : Char} (h : readUnit s = some (c, r)) :
    r.length < s.length := by
  unfold readUnit at h
  split at h
  · simp at h
  · split at h
    · split at h
      · split at h
        · simp at h
        · split at h
          · split at h
            · split at h
              · simp at h
              · split at h
                · simp only [Option.some.injEq, Prod.mk.injEq] at h
                  obtain ⟨_, rfl⟩ := h
                  simp only [List.length_cons]; omega
                · simp at h
            · simp at h
          · split at h
            · simp at h
            · simp only [Option.some.injEq, Prod.mk.injEq] at h
              obtain ⟨_, rfl⟩ := h
              simp only [List.length_cons]; omega
      · simp only [Option.map_eq_some_iff, Prod.mk.injEq] at h
        obtain ⟨_, _, _, rfl⟩ := h
        simp only [List.length_cons]; omega
      · simp at h
    · split at h
      · simp at h
      · simp only [Option.some.injEq, Prod.mk.injEq] at h
        obtain ⟨_, rfl⟩ := h
        simp

def readText (s : List Char) : Reading (List Char) :=
  match s with
  | '\x22' :: r => .ok ([], r)
  | s =>
    match _h : readUnit s with
    | none => .error .malformed
    | some (c, r) =>
      match readText r with
      | .error e => .error e
      | .ok (cs, r) => .ok (c :: cs, r)
  termination_by s.length
  decreasing_by exact readUnit_length_lt _h

/-- A text that is skipped: escapes are checked for their form alone. -/
def skipText : List Char → Option (List Char)
  | [] => none
  | c :: r =>
    if c == '\x22' then some r
    else if c == '\x5c' then
      match r with
      | 'u' :: a :: b :: c :: d :: r => if (hexQuad? a b c d).isSome then skipText r else none
      | e :: r => if (simpleEscape? e).isSome then skipText r else none
      | [] => none
    else if c.toNat < 0x20 then none
    else skipText r

structure Numeral where
  negative : Bool
  whole : List Char
  fraction : Option (List Char)
  exponent : Option (Bool × List Char)
  deriving DecidableEq, Repr

def readDigits? (s : List Char) : Option (List Char × List Char) :=
  let ds := s.takeWhile Char.isDigit
  if ds.isEmpty then none else some (ds, s.dropWhile Char.isDigit)

/-- The whole part of a number: no zero in front of another digit. -/
def readWhole? (s : List Char) : Option (List Char × List Char) :=
  match readDigits? s with
  | some ('0' :: _ :: _, _) => none
  | x => x

def readFraction? : List Char → Option (Option (List Char) × List Char)
  | '.' :: r => (readDigits? r).map fun (ds, r) => (some ds, r)
  | s => some (none, s)

/-- The sign of an exponent; true if it is a minus. -/
def readSign : List Char → Bool × List Char
  | '+' :: r => (false, r)
  | '-' :: r => (true, r)
  | s => (false, s)

def readExponent? : List Char → Option (Option (Bool × List Char) × List Char)
  | c :: r =>
    if c == 'e' || c == 'E' then
      let (negative, r) := readSign r
      (readDigits? r).map fun (ds, r) => (some (negative, ds), r)
    else some (none, c :: r)
  | [] => some (none, [])

def readNumeral? (s : List Char) : Option (Numeral × List Char) := do
  let (negative, s) := match s with
    | '-' :: r => (true, r)
    | s => (false, s)
  let (whole, s) ← readWhole? s
  let (fraction, s) ← readFraction? s
  let (exponent, s) ← readExponent? s
  return (⟨negative, whole, fraction, exponent⟩, s)

/-- Appends digits to a number as long as it stays below `2 ^ 64`; the digits left over. -/
def gather : Nat → List Char → Nat × List Char
  | n, [] => (n, [])
  | n, d :: ds =>
    let next := n * 10 + (d.toNat - 0x30)
    if next < Decimal.twoTo 64 then gather next ds else (n, d :: ds)

/-- Multiplies by a power of ten in steps that the format can hold, each one rounded. Too large a
result is none; `fuel` is the number of steps, of which three always do. -/
def scaleByTen : Nat → Decimal.Double → Int → Option Decimal.Double
  | 0, x, _ => some x
  | fuel + 1, x, e =>
    if e.natAbs ≤ 308 then
      if 0 ≤ e then
        match x.times (.powerOfTen e.toNat) with
        | .infinite _ => none
        | y => some y
      else some (x.dividedBy (.powerOfTen e.natAbs))
    else if x.isZero then some x
    else if 0 ≤ e then none
    else scaleByTen fuel (x.dividedBy (.powerOfTen 308)) (e + 308)

def exponentValue? (ds : List Char) : Option Nat :=
  let n := (gather 0 ds).1
  if (gather 0 ds).2.isEmpty && n < Decimal.twoTo 31 then some n else none

/-- What a number stands for. It is an integer if it is written as one and fits 64 bits, negative
zero apart. Otherwise it is a floating-point number, taken from as many leading digits as fit 64
bits and scaled afterwards. A number too large for the format is none. -/
def Numeral.value? (x : Numeral) : Option Found :=
  let signed (y : Decimal.Double) : Found := .floating (if x.negative then y.negate else y)
  let (lead, surplus) := gather 0 x.whole
  match x.fraction, x.exponent, surplus with
  | none, none, [] =>
    if !x.negative then some (.integer lead)
    else if lead != 0 && lead ≤ Decimal.twoTo 63 then some (.integer (-lead))
    else some (signed (.ofRatio lead 1))
  | fraction, exponent, surplus =>
    let digits := fraction.getD []
    let (lead, unused) := gather lead digits
    let start : Int := (surplus.length : Int) - ((digits.length - unused.length : Nat) : Int)
    match exponent with
    | none => (scaleByTen 4 (.ofRatio lead 1) start).map signed
    | some (negative, ds) =>
      match exponentValue? ds with
      | none => if lead != 0 && !negative then none else some (signed (.zero false))
      | some e =>
        let total := if negative then start - e else start + e
        let limit : Int := Decimal.twoTo 31
        let total := max (-limit) (min (limit - 1) total)
        (scaleByTen 4 (.ofRatio lead 1) total).map signed

def afterWord? : List Char → List Char → Option (List Char)
  | [], s => some s
  | c :: w, d :: s => if c == d then afterWord? w s else none
  | _ :: _, [] => none

/-- The complaint when the value at the front of a text is not the one wanted. A scalar is read to
its end first, so a flaw in it comes before the complaint; a list or an object is not entered. -/
def mismatch (wanted : Wanted) (s : List Char) : DecodeError :=
  match s with
  | [] => .malformed
  | c :: r =>
    if c == 'n' then
      if (afterWord? "ull".toList r).isSome then .mismatch .null wanted else .malformed
    else if c == 't' then
      if (afterWord? "rue".toList r).isSome then .mismatch (.boolean true) wanted else .malformed
    else if c == 'f' then
      if (afterWord? "alse".toList r).isSome then .mismatch (.boolean false) wanted
      else .malformed
    else if c == '-' || c.isDigit then
      match readNumeral? s with
      | none => .malformed
      | some (x, _) =>
        match x.value? with
        | none => .malformed
        | some found => .mismatch found wanted
    else if c == '\x22' then
      match readText r with
      | .error e => e
      | .ok (cs, _) => .mismatch (.text (String.ofList cs)) wanted
    else if c == '[' then .mismatch .sequence wanted
    else if c == '\x7b' then .mismatch .map wanted
    else .malformed

def readString (wanted : Wanted) (s : List Char) : Reading String :=
  match skipSpace s with
  | '\x22' :: r =>
    match readText r with
    | .error e => .error e
    | .ok (cs, r) => .ok (String.ofList cs, r)
  | s => .error (mismatch wanted s)

def readWord {α : Type} (word : String) (value : α) (s : List Char) : Reading α :=
  match afterWord? word.toList s with
  | none => .error .malformed
  | some r => .ok (value, r)

def readBoolean (s : List Char) : Reading Bool :=
  match skipSpace s with
  | 't' :: r => readWord "rue" true r
  | 'f' :: r => readWord "alse" false r
  | s => .error (mismatch .boolean s)

def readOptional (s : List Char) : Reading (Option String) :=
  match skipSpace s with
  | 'n' :: r => readWord "ull" none r
  | s =>
    match readString .text s with
    | .error e => .error e
    | .ok (t, r) => .ok (some t, r)

theorem readText_length_lt {s r cs : List Char} (h : readText s = .ok (cs, r)) :
    r.length < s.length := by
  fun_induction readText s generalizing cs r with
  | case1 => simp_all
  | case2 => simp at h
  | case3 => simp_all
  | case4 s _ c r' h' cs' r'' h'' ih =>
    simp only [Except.ok.injEq, Prod.mk.injEq] at h
    have := readUnit_length_lt h'
    have := ih h''
    obtain ⟨_, rfl⟩ := h
    omega

theorem readString_length_lt {wanted : Wanted} {s r : List Char} {t : String}
    (h : readString wanted s = .ok (t, r)) : r.length < s.length := by
  unfold readString at h
  have hs := skipSpace_length_le s
  split at h
  · rename_i r' e
    split at h
    · simp at h
    · rename_i cs r'' e'
      simp only [Except.ok.injEq, Prod.mk.injEq] at h
      have := readText_length_lt e'
      rw [e] at hs
      simp only [List.length_cons] at hs
      obtain ⟨_, rfl⟩ := h
      omega
  · simp at h

/-- Whether another entry of a list follows, and where it begins. A comma announces an entry, so
none may stand before the closing bracket. -/
def nextEntry (first : Bool) (s : List Char) : Reading Bool :=
  match skipSpace s with
  | [] => .error .malformed
  | ']' :: r => .ok (false, ']' :: r)
  | c :: r =>
    if first then .ok (true, c :: r)
    else if c == ',' then
      match skipSpace r with
      | [] => .error .malformed
      | ']' :: _ => .error .malformed
      | r => .ok (true, r)
    else .error .malformed

def endList (s : List Char) : Except DecodeError (List Char) :=
  match skipSpace s with
  | ']' :: r => .ok r
  | _ => .error .malformed

theorem nextEntry_length_le {first more : Bool} {s r : List Char}
    (h : nextEntry first s = .ok (more, r)) : r.length ≤ s.length := by
  unfold nextEntry at h
  have hs := skipSpace_length_le s
  split at h
  · simp at h
  · rename_i r' e
    simp only [Except.ok.injEq, Prod.mk.injEq] at h
    obtain ⟨_, rfl⟩ := h
    rwa [← e]
  · rename_i c r' _ e
    rw [e] at hs
    simp only [List.length_cons] at hs
    split at h
    · simp only [Except.ok.injEq, Prod.mk.injEq] at h
      obtain ⟨_, rfl⟩ := h
      simpa using hs
    · split at h
      · have hr := skipSpace_length_le r'
        split at h
        · simp at h
        · simp at h
        · simp only [Except.ok.injEq, Prod.mk.injEq] at h
          obtain ⟨_, rfl⟩ := h
          omega
      · simp at h

def readTexts (first : Bool) (s : List Char) : Reading (List String) :=
  match _h : nextEntry first s with
  | .error e => .error e
  | .ok (false, r) =>
    match endList r with
    | .error e => .error e
    | .ok r => .ok ([], r)
  | .ok (true, r) =>
    match _h' : readString .text r with
    | .error e => .error e
    | .ok (t, r') =>
      match readTexts false r' with
      | .error e => .error e
      | .ok (ts, r) => .ok (t :: ts, r)
  termination_by s.length
  decreasing_by
    have := nextEntry_length_le _h
    have := readString_length_lt _h'
    omega

def readList (s : List Char) : Reading (List String) :=
  match skipSpace s with
  | '[' :: r => readTexts true r
  | s => .error (mismatch .sequence s)

def nextMember (first : Bool) (s : List Char) : Reading Bool :=
  match skipSpace s with
  | '\x7d' :: r => .ok (false, r)
  | '\x22' :: r => if first then .ok (true, r) else .error .malformed
  | ',' :: r =>
    if first then .error .malformed
    else match skipSpace r with
      | '\x22' :: r => .ok (true, r)
      | _ => .error .malformed
  | _ => .error .malformed

def afterColon (s : List Char) : Except DecodeError (List Char) :=
  match skipSpace s with
  | ':' :: r => .ok r
  | _ => .error .malformed

def whole {α : Type} (read : List Char → Reading α) (text : String) : Except DecodeError α := do
  let (x, r) ← read text.toList
  if (skipSpace r).isEmpty then return x else throw .malformed

end ReplicaHosting.Json
